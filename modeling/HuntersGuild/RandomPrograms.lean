import HuntersGuild.StatefulPrograms
import Mathlib.Data.Stream.Init

/-!
Programs that draw words from a random stream and may throw: what they give on
every stream, and what they give on some stream.
-/

namespace HuntersGuild.RandomPrograms

open HuntersGuild.StatefulPrograms
open Stream'

universe u

variable {ω ε α β : Type u}

def next : EStateM ε (Stream' ω) ω := do
  let s ← get
  set s.tail
  return s.head

/-- On every stream the results and the exceptions are as wanted. -/
def Yields (x : EStateM ε (Stream' ω) α) (returned : α → Prop) (thrown : ε → Prop) : Prop :=
  ∀ s, match x.run s with
    | .ok a _ => returned a
    | .error e _ => thrown e

/-- Some draws make the program return this result, whatever comes after them. -/
def Can (x : EStateM ε (Stream' ω) α) (a : α) : Prop :=
  ∃ draws : List ω, ∀ rest, x.run (draws ++ₛ rest) = .ok a rest

/-- Some draws make the program throw. -/
def CanThrow (x : EStateM ε (Stream' ω) α) (e : ε) : Prop :=
  ∃ draws : List ω, ∀ rest, ∃ s, x.run (draws ++ₛ rest) = .error e s

variable {x : EStateM ε (Stream' ω) α} {f : α → EStateM ε (Stream' ω) β}
  {P : α → Prop} {Q : β → Prop} {E : ε → Prop}

/-! Every stream. -/

theorem Yields.mono {P' : α → Prop} (h : Yields x P E) (hP : ∀ a, P a → P' a) : Yields x P' E := by
  intro s
  have hs := h s
  rcases hrun : x.run s with ⟨a, s'⟩ | ⟨e, s'⟩
  · rw [hrun] at hs
    exact hP a hs
  · rw [hrun] at hs
    exact hs

theorem Yields.bind (h : Yields x P E) (hf : ∀ a, P a → Yields (f a) Q E) : Yields (x >>= f) Q E := by
  intro s
  have hs := h s
  rcases hrun : x.run s with ⟨a, s'⟩ | ⟨e, s'⟩
  · rw [hrun] at hs
    rw [run_bind_of_ok hrun]
    exact hf a hs s'
  · rw [hrun] at hs
    rw [run_bind_of_error hrun]
    exact hs

theorem yields_pure {a : α} (h : P a) : Yields (pure a : EStateM ε (Stream' ω) α) P E := fun _ => h

theorem yields_throw {e : ε} (h : E e) : Yields (throw e : EStateM ε (Stream' ω) α) P E := fun _ => h

theorem yields_next : Yields (next : EStateM ε (Stream' ω) ω) (fun _ => True) E := fun _ => trivial

theorem yields_fromExcept {r : Except ε α} (hP : ∀ a, r = .ok a → P a) (hE : ∀ e, r = .error e → E e) :
    Yields (fromExcept r : EStateM ε (Stream' ω) α) P E := by
  intro s
  cases r with
  | error e => exact hE e rfl
  | ok a => exact hP a rfl

/-! Some stream. -/

theorem Can.of_yields {a : α} [Inhabited ω] (h : Can x a) (hx : Yields x P E) : P a := by
  obtain ⟨draws, hrun⟩ := h
  have hs := hx (draws ++ₛ Stream'.const default)
  rw [hrun] at hs
  exact hs

theorem CanThrow.of_yields {e : ε} [Inhabited ω] (h : CanThrow x e) (hx : Yields x P E) : E e := by
  obtain ⟨draws, hrun⟩ := h
  obtain ⟨s, hrun⟩ := hrun (Stream'.const default)
  have hs := hx (draws ++ₛ Stream'.const default)
  rw [hrun] at hs
  exact hs

theorem can_pure (a : α) : Can (pure a : EStateM ε (Stream' ω) α) a := ⟨[], fun _ => rfl⟩

theorem canThrow_throw (e : ε) : CanThrow (throw e : EStateM ε (Stream' ω) α) e :=
  ⟨[], fun rest => ⟨rest, rfl⟩⟩

theorem can_next (v : ω) : Can (next : EStateM ε (Stream' ω) ω) v := ⟨[v], fun _ => rfl⟩

theorem can_fromExcept {r : Except ε α} {a : α} (h : r = .ok a) :
    Can (fromExcept r : EStateM ε (Stream' ω) α) a := by
  subst h
  exact can_pure a

theorem canThrow_fromExcept {r : Except ε α} {e : ε} (h : r = .error e) :
    CanThrow (fromExcept r : EStateM ε (Stream' ω) α) e := by
  subst h
  exact canThrow_throw e

theorem Can.bind {a : α} {b : β} (hx : Can x a) (hf : Can (f a) b) : Can (x >>= f) b := by
  obtain ⟨first, hfirst⟩ := hx
  obtain ⟨second, hsecond⟩ := hf
  refine ⟨first ++ second, fun rest => ?_⟩
  rw [append_append_stream, run_bind_of_ok (hfirst _)]
  exact hsecond rest

theorem CanThrow.bind {e : ε} (hx : CanThrow x e) : CanThrow (x >>= f) e := by
  obtain ⟨draws, hrun⟩ := hx
  refine ⟨draws, fun rest => ?_⟩
  obtain ⟨s, hrun⟩ := hrun rest
  exact ⟨s, run_bind_of_error hrun⟩

theorem Can.bind_throw {a : α} {e : ε} (hx : Can x a) (hf : CanThrow (f a) e) :
    CanThrow (x >>= f) e := by
  obtain ⟨first, hfirst⟩ := hx
  obtain ⟨second, hsecond⟩ := hf
  refine ⟨first ++ second, fun rest => ?_⟩
  rw [append_append_stream, run_bind_of_ok (hfirst _)]
  exact hsecond rest

end HuntersGuild.RandomPrograms
