import Mathlib.Data.List.Basic

/-!
Runs of an object whose operations return a result or throw. A run ends at
the first exception; its trace lists the states in which the operations are
called.
-/

namespace HuntersGuild.CallTrace

universe u v w x

variable {σ : Type u} {ω : Type v} {ρ : Type w} {ε : Type x}

/-- Every operation of a run that is called, with the state it is called in. -/
def trace (call : ω → σ → Except ε (ρ × σ)) : σ → List ω → List (σ × ω)
  | _, [] => []
  | s, op :: ops =>
      (s, op) ::
        match call op s with
        | .ok (_, s') => trace call s' ops
        | .error _ => []

/-- The state after a run in which nothing is thrown. -/
def run (call : ω → σ → Except ε (ρ × σ)) : σ → List ω → Option σ
  | s, [] => some s
  | s, op :: ops =>
      match call op s with
      | .ok (_, s') => run call s' ops
      | .error _ => none

variable {call : ω → σ → Except ε (ρ × σ)}

theorem trace_cons_of_ok {s s' : σ} {op : ω} {r : ρ} (h : call op s = .ok (r, s'))
    (ops : List ω) : trace call s (op :: ops) = (s, op) :: trace call s' ops := by
  simp only [trace, h]

theorem trace_cons_of_error {s : σ} {op : ω} {e : ε} (h : call op s = .error e)
    (ops : List ω) : trace call s (op :: ops) = [(s, op)] := by
  simp only [trace, h]

/-- A step that is good exactly when it is allowed, and that keeps the
invariant when it is good, makes a run good exactly when it is allowed. -/
theorem forall_trace_iff (Inv : σ → Prop) {good allowed : σ → ω → Prop} {ops : List ω}
    (hiff : ∀ s, Inv s → ∀ op ∈ ops, (good s op ↔ allowed s op))
    (hstep : ∀ s, Inv s → ∀ op ∈ ops, good s op →
      ∀ r s', call op s = .ok (r, s') → Inv s')
    {s : σ} (hs : Inv s) :
    (∀ c ∈ trace call s ops, good c.1 c.2) ↔ ∀ c ∈ trace call s ops, allowed c.1 c.2 := by
  induction ops generalizing s with
  | nil => simp [trace]
  | cons op ops ih =>
      have hhead := hiff s hs op List.mem_cons_self
      cases hcall : call op s with
      | error e =>
          simpa only [trace_cons_of_error hcall, List.forall_mem_singleton] using hhead
      | ok result =>
          obtain ⟨r, s'⟩ := result
          simp only [trace_cons_of_ok hcall, List.forall_mem_cons, ← hhead]
          refine and_congr_right fun hgood => ?_
          exact ih (fun t ht o ho => hiff t ht o (List.mem_cons_of_mem _ ho))
            (fun t ht o ho => hstep t ht o (List.mem_cons_of_mem _ ho))
            (hstep s hs op List.mem_cons_self hgood r s' hcall)

/-- An invariant that the allowed steps keep and that makes them good. -/
theorem forall_trace (Inv : σ → Prop) {good allowed : σ → ω → Prop} {ops : List ω}
    (hgood : ∀ s, Inv s → ∀ op ∈ ops, allowed s op → good s op)
    (hstep : ∀ s, Inv s → ∀ op ∈ ops, allowed s op →
      ∀ r s', call op s = .ok (r, s') → Inv s')
    {s : σ} (hs : Inv s) (hallowed : ∀ c ∈ trace call s ops, allowed c.1 c.2) :
    ∀ c ∈ trace call s ops, good c.1 c.2 := by
  have hboth : ∀ c ∈ trace call s ops, good c.1 c.2 ∧ allowed c.1 c.2 :=
    (forall_trace_iff Inv
      (fun t ht op hop => ⟨And.right, fun h => ⟨hgood t ht op hop h, h⟩⟩)
      (fun t ht op hop h => hstep t ht op hop h.2) hs).mpr hallowed
  exact fun c hc => (hboth c hc).1

/-- What every step keeps holds whenever an operation is called. -/
theorem invariant_of_mem_trace (Inv : σ → Prop) {ops : List ω}
    (hstep : ∀ s, Inv s → ∀ op ∈ ops, ∀ r s', call op s = .ok (r, s') → Inv s')
    {s : σ} (hs : Inv s) : ∀ c ∈ trace call s ops, Inv c.1 := by
  have htrivial : ∀ c ∈ trace call s ops, (fun _ _ => True) c.1 c.2 := fun _ _ => trivial
  have hgood : ∀ t, Inv t → ∀ op ∈ ops, True → Inv t := fun _ ht _ _ _ => ht
  have hkeeps : ∀ t, Inv t → ∀ op ∈ ops, True → ∀ r t', call op t = .ok (r, t') → Inv t' :=
    fun t ht op hop _ => hstep t ht op hop
  exact forall_trace Inv hgood hkeeps hs htrivial

/-- What the allowed steps keep holds after a run of them. -/
theorem run_invariant (Inv : σ → Prop) {allowed : σ → ω → Prop} {ops : List ω}
    (hstep : ∀ s, Inv s → ∀ op ∈ ops, allowed s op →
      ∀ r s', call op s = .ok (r, s') → Inv s')
    {s s' : σ} (hs : Inv s) (hallowed : ∀ c ∈ trace call s ops, allowed c.1 c.2)
    (hrun : run call s ops = some s') : Inv s' := by
  induction ops generalizing s with
  | nil =>
      obtain rfl : s = s' := Option.some.inj hrun
      exact hs
  | cons op ops ih =>
      rcases hcall : call op s with e | ⟨r, mid⟩
      · simp only [run, hcall, reduceCtorEq] at hrun
      · simp only [run, hcall] at hrun
        rw [trace_cons_of_ok hcall, List.forall_mem_cons] at hallowed
        have hmid := hstep s hs op List.mem_cons_self hallowed.1 r mid hcall
        exact ih (fun t ht o ho => hstep t ht o (List.mem_cons_of_mem op ho)) hmid hallowed.2 hrun

end HuntersGuild.CallTrace
