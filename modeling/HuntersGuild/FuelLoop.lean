import Mathlib.Data.List.Basic
import Mathlib.Logic.Relation

/-!
While loops as bounded iteration of a body. A body either goes round again
with a new state or leaves the loop with a result; leaving by an exception is
one of the results. The fuel only makes iteration structural: a decreasing
measure shows that it is never exhausted.
-/

namespace HuntersGuild.FuelLoop

universe u v w

/-- What one pass through a loop body does. -/
inductive Step (σ : Type u) (ρ : Type v) where
  | next (state : σ)
  | done (result : ρ)
  deriving DecidableEq

/-- A thrown exception leaves the loop. -/
def Step.ofExcept {ε : Type w} {σ : Type u} {ρ : Type v} :
    Except ε (Step σ ρ) → Step σ (Except ε ρ)
  | .error e => .done (.error e)
  | .ok (.next s) => .next s
  | .ok (.done r) => .done (.ok r)

variable {σ : Type u} {ρ : Type v}

@[simp] theorem ofExcept_error {ε : Type w} (e : ε) :
    Step.ofExcept (.error e : Except ε (Step σ ρ)) = .done (.error e) := rfl

@[simp] theorem ofExcept_next {ε : Type w} (s : σ) :
    Step.ofExcept (.ok (.next s) : Except ε (Step σ ρ)) = .next s := rfl

@[simp] theorem ofExcept_done {ε : Type w} (r : ρ) :
    Step.ofExcept (.ok (.done r) : Except ε (Step σ ρ)) = .done (.ok r) := rfl

theorem ofExcept_eq_next_iff {ε : Type w} {x : Except ε (Step σ ρ)} {s : σ} :
    Step.ofExcept x = .next s ↔ x = .ok (.next s) := by
  rcases x with e | (s' | r) <;> simp

/-- Run a loop for at most `fuel` passes. -/
def run (body : σ → Step σ ρ) : Nat → σ → Option ρ
  | 0, _ => none
  | fuel + 1, s =>
      match body s with
      | .next s' => run body fuel s'
      | .done r => some r

/-- One state leads to the next one in one pass through the body. -/
def Goes (body : σ → Step σ ρ) (s s' : σ) : Prop :=
  body s = .next s'

/-- The states a loop passes through. -/
def Reaches (body : σ → Step σ ρ) : σ → σ → Prop :=
  Relation.ReflTransGen (Goes body)

theorem run_of_next {body : σ → Step σ ρ} {s s' : σ} (h : body s = .next s')
    (fuel : Nat) : run body (fuel + 1) s = run body fuel s' := by
  simp [run, h]

theorem run_of_done {body : σ → Step σ ρ} {s : σ} {r : ρ} (h : body s = .done r)
    (fuel : Nat) : run body (fuel + 1) s = some r := by
  simp [run, h]

/-- A measure that every pass decreases bounds the number of passes. -/
theorem exists_run_eq_some {body : σ → Step σ ρ} (Inv : σ → Prop) (measure : σ → Nat)
    (hstep : ∀ s s', Inv s → body s = .next s' → Inv s' ∧ measure s' < measure s)
    {s : σ} (hs : Inv s) {fuel : Nat} (hfuel : measure s < fuel) :
    ∃ r, run body fuel s = some r := by
  induction fuel generalizing s with
  | zero => omega
  | succ fuel ih =>
      cases hb : body s with
      | next s' =>
          obtain ⟨hs', hlt⟩ := hstep s s' hs hb
          rw [run_of_next hb]
          exact ih hs' (by omega)
      | done r => exact ⟨r, run_of_done hb fuel⟩

/-- Total correctness: while the invariant holds, the body either keeps it and
decreases the measure, or leaves the loop as wanted. -/
theorem exists_run_of_invariant (body : σ → Step σ ρ) (Inv : σ → Prop) (measure : σ → Nat)
    (Post : ρ → Prop)
    (hstep : ∀ s, Inv s → (∃ s', body s = .next s' ∧ Inv s' ∧ measure s' < measure s) ∨
      ∃ r, body s = .done r ∧ Post r)
    {s : σ} (hs : Inv s) {fuel : Nat} (hfuel : measure s < fuel) :
    ∃ r, run body fuel s = some r ∧ Post r := by
  induction fuel generalizing s with
  | zero => omega
  | succ fuel ih =>
      rcases hstep s hs with ⟨s', hgo, hs', hlt⟩ | ⟨r, hdone, hpost⟩
      · rw [run_of_next hgo]
        exact ih hs' (by omega)
      · exact ⟨r, run_of_done hdone fuel, hpost⟩

/-- The rule for a counting loop whose body may throw. -/
theorem exists_foldlM_range {ε : Type w} {σ : Type u} {f : σ → Nat → Except ε σ}
    (Inv : Nat → σ → Prop) {n : Nat}
    (hstep : ∀ z < n, ∀ s, Inv z s → ∃ s', f s z = .ok s' ∧ Inv (z + 1) s')
    {s : σ} (hs : Inv 0 s) : ∃ s', (List.range n).foldlM f s = .ok s' ∧ Inv n s' := by
  have hall : ∀ z ≤ n, ∃ s', (List.range z).foldlM f s = .ok s' ∧ Inv z s' := by
    intro z hz
    induction z with
    | zero => exact ⟨s, rfl, hs⟩
    | succ z ih =>
        obtain ⟨mid, hmid, hinv⟩ := ih (by omega)
        obtain ⟨s', hs', hinv'⟩ := hstep z hz mid hinv
        refine ⟨s', ?_, hinv'⟩
        rw [List.range_succ, List.foldlM_append, hmid]
        simp only [List.foldlM_cons, List.foldlM_nil]
        change f mid z >>= pure = _
        rw [hs']
        rfl
  exact hall n n.le_refl

/-- A reached state runs to the same result. -/
theorem run_of_reaches {body : σ → Step σ ρ} {s t : σ} (hreach : Reaches body s t)
    {r : ρ} (hdone : body t = .done r) {fuel : Nat} {r' : ρ}
    (hrun : run body fuel s = some r') : r' = r := by
  induction hreach using Relation.ReflTransGen.head_induction_on generalizing fuel with
  | refl =>
      cases fuel with
      | zero => simp [run] at hrun
      | succ fuel =>
          rw [run_of_done hdone] at hrun
          exact (Option.some.inj hrun).symm
  | head hgo _ ih =>
      cases fuel with
      | zero => simp [run] at hrun
      | succ fuel =>
          rw [run_of_next hgo] at hrun
          exact ih hrun

/-!
Two loops in lockstep. `Parts` marks the states in which they part company;
everywhere else related states step to related states or finish with agreeing
results.
-/

section Lockstep

variable {σ' : Type u} {ρ' : Type v} {body : σ → Step σ ρ} {body' : σ' → Step σ' ρ'}
  {Related : σ → σ' → Prop} {Parts : σ → Prop} {Agree : ρ → ρ' → Prop}

/-- The loops step together. -/
def StepTogether (body : σ → Step σ ρ) (body' : σ' → Step σ' ρ')
    (Related : σ → σ' → Prop) (Agree : ρ → ρ' → Prop) (s : σ) (s' : σ') : Prop :=
  (∃ t t', body s = .next t ∧ body' s' = .next t' ∧ Related t t') ∨
    ∃ r r', body s = .done r ∧ body' s' = .done r' ∧ Agree r r'

theorem agree_of_lockstep
    (hstep : ∀ s s', Related s s' → ¬Parts s →
      StepTogether body body' Related Agree s s')
    {s : σ} {s' : σ'} (hs : Related s s') (hparts : ∀ t, Reaches body s t → ¬Parts t)
    {fuel : Nat} {r : ρ} {r' : ρ'} (hrun : run body fuel s = some r)
    (hrun' : run body' fuel s' = some r') : Agree r r' := by
  induction fuel generalizing s s' with
  | zero => simp [run] at hrun
  | succ fuel ih =>
      rcases hstep s s' hs (hparts s .refl) with ⟨t, t', ht, ht', hrel⟩ | ⟨q, q', hq, hq', hagree⟩
      · rw [run_of_next ht] at hrun
        rw [run_of_next ht'] at hrun'
        exact ih hrel (fun u hu => hparts u (.head ht hu)) hrun hrun'
      · rw [run_of_done hq] at hrun
        rw [run_of_done hq'] at hrun'
        obtain rfl := Option.some.inj hrun
        obtain rfl := Option.some.inj hrun'
        exact hagree

theorem disagree_of_parts
    (hstep : ∀ s s', Related s s' → ¬Parts s →
      StepTogether body body' Related Agree s s')
    (hpart : ∀ s s', Related s s' → Parts s →
      ∃ r r', body s = .done r ∧ body' s' = .done r' ∧ ¬Agree r r')
    {s : σ} {s' : σ'} (hs : Related s s') {t : σ} (hreach : Reaches body s t) (ht : Parts t)
    {fuel : Nat} {r : ρ} {r' : ρ'} (hrun : run body fuel s = some r)
    (hrun' : run body' fuel s' = some r') : ¬Agree r r' := by
  induction hreach using Relation.ReflTransGen.head_induction_on generalizing s' fuel with
  | refl =>
      obtain ⟨q, q', hq, hq', hdisagree⟩ := hpart _ _ hs ht
      cases fuel with
      | zero => simp [run] at hrun
      | succ fuel =>
          rw [run_of_done hq] at hrun
          rw [run_of_done hq'] at hrun'
          obtain rfl := Option.some.inj hrun
          obtain rfl := Option.some.inj hrun'
          exact hdisagree
  | @head a c hgo _ ih =>
      have hgo' : body a = .next c := hgo
      -- A state from which the loop goes on is no parting state.
      have hnot : ¬Parts a := by
        intro ha
        obtain ⟨q, q', hq, -, -⟩ := hpart _ _ hs ha
        rw [hgo'] at hq
        cases hq
      cases fuel with
      | zero => simp [run] at hrun
      | succ fuel =>
          rcases hstep a s' hs hnot with ⟨u, u', hu, hu', hrel⟩ | ⟨q, q', hq, -, -⟩
          · obtain rfl : u = c := by
              rw [hgo'] at hu
              exact (Step.next.inj hu).symm
            rw [run_of_next hu] at hrun
            rw [run_of_next hu'] at hrun'
            exact ih hrel hrun hrun'
          · rw [hgo'] at hq
            cases hq

end Lockstep

end HuntersGuild.FuelLoop
