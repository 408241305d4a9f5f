import HuntersGuild.ExceptionRules

/-!
Rules for programs that change a state and may throw. A program that throws
leaves the state as it is at that moment.
-/

namespace HuntersGuild.StatefulPrograms

universe u

variable {ε σ τ α β : Type u}

/-- The value that a run returns, or the exception that ends it. -/
def outcome : EStateM.Result ε σ α → Except ε α
  | .ok a _ => .ok a
  | .error e _ => .error e

/-- The state that a run leaves behind, however it ends. -/
def finalState : EStateM.Result ε σ α → σ
  | .ok _ s => s
  | .error _ s => s

@[simp] theorem outcome_ok (a : α) (s : σ) :
    outcome (.ok a s : EStateM.Result ε σ α) = .ok a := rfl

@[simp] theorem outcome_error (e : ε) (s : σ) :
    outcome (.error e s : EStateM.Result ε σ α) = .error e := rfl

@[simp] theorem finalState_ok (a : α) (s : σ) :
    finalState (.ok a s : EStateM.Result ε σ α) = s := rfl

@[simp] theorem finalState_error (e : ε) (s : σ) :
    finalState (.error e s : EStateM.Result ε σ α) = s := rfl

/-- What holds of the state after a run that returns, and after one that throws. -/
def Ends (returned thrown : σ → Prop) : EStateM.Result ε σ α → Prop
  | .ok _ s => returned s
  | .error _ s => thrown s

/-- What holds of the state after a run that returns, and of the exception and
the state after one that throws. -/
def Finishes (returned : σ → Prop) (thrown : ε → σ → Prop) : EStateM.Result ε σ α → Prop
  | .ok _ s => returned s
  | .error e s => thrown e s

theorem not_ends_iff {returned thrown : σ → Prop} {r : EStateM.Result ε σ α} :
    ¬ Ends returned thrown r ↔ Ends (fun s => ¬ returned s) (fun s => ¬ thrown s) r := by
  cases r <;> exact Iff.rfl

theorem Ends.mono {Q Q' R R' : σ → Prop} {r : EStateM.Result ε σ α} (h : Ends Q R r)
    (hQ : ∀ s, Q s → Q' s) (hR : ∀ s, R s → R' s) : Ends Q' R' r := by
  cases r with
  | ok a s => exact hQ s h
  | error e s => exact hR s h

theorem Ends.finalState {Q R P : σ → Prop} {r : EStateM.Result ε σ α} (h : Ends Q R r)
    (hQ : ∀ s, Q s → P s) (hR : ∀ s, R s → P s) : P (finalState r) := by
  cases r with
  | ok a s => exact hQ s h
  | error e s => exact hR s h

theorem Finishes.mono {Q Q' : σ → Prop} {R R' : ε → σ → Prop} {r : EStateM.Result ε σ α}
    (h : Finishes Q R r) (hQ : ∀ s, Q s → Q' s) (hR : ∀ e s, R e s → R' e s) :
    Finishes Q' R' r := by
  cases r with
  | ok a s => exact hQ s h
  | error e s => exact hR e s h

/-- A call whose exception is caught by the caller, so that a run goes on
after it. -/
def attempt (x : EStateM ε σ α) (s : σ) : Except ε (Except ε α × σ) :=
  .ok (outcome (x.run s), finalState (x.run s))

theorem attempt_eq_ok {x : EStateM ε σ α} {s s' : σ} {r : Except ε α} :
    attempt x s = .ok (r, s') ↔ r = outcome (x.run s) ∧ s' = finalState (x.run s) := by
  simp only [attempt, Except.ok.injEq, Prod.mk.injEq, eq_comm]

/-- A call that only computes. -/
def fromExcept : Except ε α → EStateM ε σ α
  | .ok a => pure a
  | .error e => throw e

@[simp] theorem run_fromExcept_ok (a : α) (s : σ) :
    (fromExcept (.ok a) : EStateM ε σ α).run s = .ok a s := rfl

@[simp] theorem run_fromExcept_error (e : ε) (s : σ) :
    (fromExcept (.error e) : EStateM ε σ α).run s = .error e s := rfl

theorem run_get_bind (f : σ → EStateM ε σ α) (s : σ) :
    ((get : EStateM ε σ σ) >>= f).run s = (f s).run s := rfl

theorem run_modify_bind (g : σ → σ) (f : PUnit → EStateM ε σ α) (s : σ) :
    ((modify g : EStateM ε σ PUnit) >>= f).run s = (f ⟨⟩).run (g s) := rfl

theorem run_ok_bind (a : β) (f : β → EStateM ε σ α) (s : σ) :
    (fromExcept (.ok a) >>= f).run s = (f a).run s := rfl

theorem run_error_bind (e : ε) (f : β → EStateM ε σ α) (s : σ) :
    (fromExcept (.error e) >>= f).run s = .error e s := rfl

theorem run_tryCatch (x : EStateM ε σ α) (h : ε → EStateM ε σ α) (s : σ) :
    (tryCatch x h).run s =
      match x.run s with
      | .ok a s' => .ok a s'
      | .error e s' => (h e).run s' := by
  change EStateM.tryCatch x h s = _
  unfold EStateM.tryCatch EStateM.run
  cases x s <;> rfl

/-- A program about a part of the state. -/
def zoom (part : σ → τ) (replace : τ → σ → σ) (x : EStateM ε τ α) : EStateM ε σ α := fun s =>
  match x.run (part s) with
  | .ok a t => .ok a (replace t s)
  | .error e t => .error e (replace t s)

theorem run_zoom (part : σ → τ) (replace : τ → σ → σ) (x : EStateM ε τ α) (s : σ) :
    (zoom part replace x).run s =
      match x.run (part s) with
      | .ok a t => .ok a (replace t s)
      | .error e t => .error e (replace t s) := rfl

theorem outcome_zoom (part : σ → τ) (replace : τ → σ → σ) (x : EStateM ε τ α) (s : σ) :
    outcome ((zoom part replace x).run s) = outcome (x.run (part s)) := by
  rw [run_zoom]
  cases x.run (part s) <;> rfl

theorem finalState_zoom (part : σ → τ) (replace : τ → σ → σ) (x : EStateM ε τ α) (s : σ) :
    finalState ((zoom part replace x).run s) = replace (finalState (x.run (part s))) s := by
  rw [run_zoom]
  cases x.run (part s) <;> rfl

theorem run_bind_of_ok {x : EStateM ε σ α} {f : α → EStateM ε σ β} {s s' : σ} {a : α}
    (h : x.run s = .ok a s') : (x >>= f).run s = (f a).run s' := by
  rw [EStateM.run_bind, h]

theorem run_bind_of_error {x : EStateM ε σ α} {f : α → EStateM ε σ β} {s s' : σ} {e : ε}
    (h : x.run s = .error e s') : (x >>= f).run s = .error e s' := by
  rw [EStateM.run_bind, h]

/-! What a run that returns has gone through. -/

theorem exists_of_run_bind {x : EStateM ε σ α} {f : α → EStateM ε σ β} {b : β} {s s'' : σ}
    (h : (x >>= f).run s = .ok b s'') :
    ∃ a s', x.run s = .ok a s' ∧ (f a).run s' = .ok b s'' := by
  rcases hcall : x.run s with ⟨a, s'⟩ | ⟨e, s'⟩
  · rw [run_bind_of_ok hcall] at h
    exact ⟨a, s', rfl, h⟩
  · rw [run_bind_of_error hcall] at h
    cases h

theorem exists_of_run_zoom {part : σ → τ} {replace : τ → σ → σ} {x : EStateM ε τ α} {a : α}
    {s s' : σ} (h : (zoom part replace x).run s = .ok a s') :
    ∃ t, x.run (part s) = .ok a t ∧ s' = replace t s := by
  rw [run_zoom] at h
  rcases hcall : x.run (part s) with ⟨b, t⟩ | ⟨e, t⟩
  · rw [hcall] at h
    cases h
    exact ⟨t, rfl, rfl⟩
  · rw [hcall] at h
    cases h

theorem of_run_fromExcept {x : Except ε α} {a : α} {s s' : σ}
    (h : (fromExcept x : EStateM ε σ α).run s = .ok a s') : x = .ok a ∧ s' = s := by
  cases x with
  | ok b =>
      cases h
      exact ⟨rfl, rfl⟩
  | error e => cases h

theorem of_run_pure {a b : α} {s s' : σ} (h : (pure a : EStateM ε σ α).run s = .ok b s') :
    a = b ∧ s' = s := by
  cases h
  exact ⟨rfl, rfl⟩

theorem of_run_modify {f : σ → σ} {s s' : σ}
    (h : (modify f : EStateM ε σ PUnit).run s = .ok ⟨⟩ s') : s' = f s := by
  cases h
  rfl

/-- What the first program returns with is what the rest starts from. -/
theorem Ends.bind {Q Q' R : σ → Prop} {x : EStateM ε σ α} {f : α → EStateM ε σ β} {s : σ}
    (h : Ends Q R (x.run s)) (hf : ∀ a s', Q s' → Ends Q' R ((f a).run s')) :
    Ends Q' R ((x >>= f).run s) := by
  rcases hcall : x.run s with ⟨a, mid⟩ | ⟨e, mid⟩
  · rw [hcall] at h
    rw [run_bind_of_ok hcall]
    exact hf a mid h
  · rw [hcall] at h
    rw [run_bind_of_error hcall]
    exact h

theorem Finishes.bind {Q Q' : σ → Prop} {R : ε → σ → Prop} {x : EStateM ε σ α}
    {f : α → EStateM ε σ β} {s : σ} (h : Finishes Q R (x.run s))
    (hf : ∀ a s', Q s' → Finishes Q' R ((f a).run s')) : Finishes Q' R ((x >>= f).run s) := by
  rcases hcall : x.run s with ⟨a, mid⟩ | ⟨e, mid⟩
  · rw [hcall] at h
    rw [run_bind_of_ok hcall]
    exact hf a mid h
  · rw [hcall] at h
    rw [run_bind_of_error hcall]
    exact h

/-- Handing a result on changes no state. -/
theorem finalState_bind_pure (x : EStateM ε σ α) (f : α → β) (s : σ) :
    finalState ((x >>= fun a => pure (f a)).run s) = finalState (x.run s) := by
  rw [EStateM.run_bind]
  cases x.run s <;> rfl

/-! Loops that do not throw, with an invariant about the elements that are left. -/

theorem exists_run_forM {I : List α → σ → Prop} {f : α → EStateM ε σ PUnit}
    (step : ∀ x xs s, I (x :: xs) s → ∃ s', (f x).run s = .ok ⟨⟩ s' ∧ I xs s')
    (xs : List α) (s : σ) (h : I xs s) :
    ∃ s', (forM xs f).run s = .ok ⟨⟩ s' ∧ I [] s' := by
  induction xs generalizing s with
  | nil => exact ⟨s, rfl, h⟩
  | cons x xs ih =>
      obtain ⟨mid, hhead, hmid⟩ := step x xs s h
      obtain ⟨s', htail, hend⟩ := ih mid hmid
      refine ⟨s', ?_, hend⟩
      rw [List.forM_cons, run_bind_of_ok hhead]
      exact htail

theorem exists_run_foldlM {I : β → List α → σ → Prop} {f : β → α → EStateM ε σ β}
    (step : ∀ b x xs s, I b (x :: xs) s → ∃ b' s', (f b x).run s = .ok b' s' ∧ I b' xs s')
    (xs : List α) (b : β) (s : σ) (h : I b xs s) :
    ∃ b' s', (xs.foldlM f b).run s = .ok b' s' ∧ I b' [] s' := by
  induction xs generalizing b s with
  | nil => exact ⟨b, s, rfl, h⟩
  | cons x xs ih =>
      obtain ⟨c, mid, hhead, hmid⟩ := step b x xs s h
      obtain ⟨b', s', htail, hend⟩ := ih c mid hmid
      refine ⟨b', s', ?_, hend⟩
      rw [List.foldlM_cons, run_bind_of_ok hhead]
      exact htail

/-! Programs that change nothing when they throw. -/

/-- A program that throws before it changes anything, or not at all. -/
def Atomic (x : EStateM ε σ α) : Prop :=
  ∀ s e s', x.run s = .error e s' → s' = s

def ReadOnly (x : EStateM ε σ α) : Prop :=
  ∀ s, finalState (x.run s) = s

def Throwless (x : EStateM ε σ α) : Prop :=
  ∀ s, ∃ a s', x.run s = .ok a s'

theorem readOnly_pure (a : α) : ReadOnly (pure a : EStateM ε σ α) := fun _ => rfl

theorem readOnly_get : ReadOnly (get : EStateM ε σ σ) := fun _ => rfl

theorem readOnly_throw (e : ε) : ReadOnly (throw e : EStateM ε σ α) := fun _ => rfl

theorem readOnly_fromExcept (x : Except ε α) : ReadOnly (fromExcept x : EStateM ε σ α) := by
  intro s
  cases x <;> rfl

theorem ReadOnly.atomic {x : EStateM ε σ α} (hx : ReadOnly x) : Atomic x := by
  intro s e s' hrun
  have hs := hx s
  rw [hrun] at hs
  exact hs

theorem Throwless.atomic {x : EStateM ε σ α} (hx : Throwless x) : Atomic x := by
  intro s e s' hrun
  obtain ⟨a, t, hok⟩ := hx s
  rw [hok] at hrun
  cases hrun

theorem throwless_modify (f : σ → σ) : Throwless (modify f : EStateM ε σ PUnit) :=
  fun s => ⟨⟨⟩, f s, rfl⟩

theorem throwless_pure (a : α) : Throwless (pure a : EStateM ε σ α) := fun s => ⟨a, s, rfl⟩

theorem Throwless.bind {x : EStateM ε σ α} {f : α → EStateM ε σ β} (hx : Throwless x)
    (hf : ∀ a, Throwless (f a)) : Throwless (x >>= f) := by
  intro s
  obtain ⟨a, mid, hrun⟩ := hx s
  obtain ⟨b, s', hrest⟩ := hf a mid
  exact ⟨b, s', (run_bind_of_ok hrun).trans hrest⟩

/-- Reading first keeps a program atomic. -/
theorem ReadOnly.bind_atomic {x : EStateM ε σ α} {f : α → EStateM ε σ β} (hx : ReadOnly x)
    (hf : ∀ a, Atomic (f a)) : Atomic (x >>= f) := by
  intro s e s' hrun
  have hs := hx s
  rcases hcall : x.run s with ⟨a, mid⟩ | ⟨e', mid⟩
  · rw [run_bind_of_ok hcall] at hrun
    rw [hcall] at hs
    obtain rfl : mid = s := hs
    exact hf a mid e s' hrun
  · rw [run_bind_of_error hcall] at hrun
    rw [hcall] at hs
    cases hrun
    exact hs

/-- What cannot throw may follow an atomic program. -/
theorem Atomic.bind_throwless {x : EStateM ε σ α} {f : α → EStateM ε σ β} (hx : Atomic x)
    (hf : ∀ a, Throwless (f a)) : Atomic (x >>= f) := by
  intro s e s' hrun
  rcases hcall : x.run s with ⟨a, mid⟩ | ⟨e', mid⟩
  · obtain ⟨b, t, hok⟩ := hf a mid
    rw [run_bind_of_ok hcall, hok] at hrun
    cases hrun
  · rw [run_bind_of_error hcall] at hrun
    cases hrun
    exact hx s e s' hcall

/-! Properties that a program keeps, however it ends. -/

def Keeps (P : σ → Prop) (x : EStateM ε σ α) : Prop :=
  ∀ s, P s → P (finalState (x.run s))

variable {P : σ → Prop}

theorem ReadOnly.keeps {x : EStateM ε σ α} (hx : ReadOnly x) : Keeps P x := by
  intro s hs
  rw [hx s]
  exact hs

theorem keeps_modify {g : σ → σ} (h : ∀ s, P s → P (g s)) :
    Keeps P (modify g : EStateM ε σ PUnit) := h

/-- What the first program ends with is kept by the rest. -/
theorem finalState_bind {x : EStateM ε σ α} {f : α → EStateM ε σ β} {s : σ}
    (hmid : P (finalState (x.run s))) (hf : ∀ a, Keeps P (f a)) :
    P (finalState ((x >>= f).run s)) := by
  rcases hcall : x.run s with ⟨a, mid⟩ | ⟨e, mid⟩
  · rw [hcall] at hmid
    rw [run_bind_of_ok hcall]
    exact hf a mid hmid
  · rw [hcall] at hmid
    rw [run_bind_of_error hcall]
    exact hmid

theorem Keeps.bind {x : EStateM ε σ α} {f : α → EStateM ε σ β} (hx : Keeps P x)
    (hf : ∀ a, Keeps P (f a)) : Keeps P (x >>= f) :=
  fun s hs => finalState_bind (hx s hs) hf

theorem keeps_tryCatch {x : EStateM ε σ α} {f : ε → EStateM ε σ α} (hx : Keeps P x)
    (hf : ∀ e, Keeps P (f e)) : Keeps P (tryCatch x f) := by
  intro s hs
  have hmid := hx s hs
  rw [run_tryCatch]
  rcases hcall : x.run s with ⟨a, mid⟩ | ⟨e, mid⟩
  · rw [hcall] at hmid
    exact hmid
  · rw [hcall] at hmid
    exact hf e mid hmid

/-- What follows a read may use that the state is the one that was read. -/
theorem keeps_get_bind {f : σ → EStateM ε σ α}
    (h : ∀ s, P s → P (finalState ((f s).run s))) :
    Keeps P ((get : EStateM ε σ σ) >>= f) := h

theorem Keeps.zoom {part : σ → τ} {replace : τ → σ → σ} {x : EStateM ε τ α} {Q : τ → Prop}
    (hx : Keeps Q x) (hpart : ∀ s, P s → Q (part s)) (hreplace : ∀ s t, P s → Q t → P (replace t s)) :
    Keeps P (zoom part replace x) := by
  intro s hs
  have hmid := hx (part s) (hpart s hs)
  rw [run_zoom]
  rcases hcall : x.run (part s) with ⟨a, t⟩ | ⟨e, t⟩
  · rw [hcall] at hmid
    exact hreplace s t hs hmid
  · rw [hcall] at hmid
    exact hreplace s t hs hmid

end HuntersGuild.StatefulPrograms
