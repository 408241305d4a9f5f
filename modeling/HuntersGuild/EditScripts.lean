import Mathlib.Algebra.Order.Monoid.Defs
import Mathlib.Order.Bounds.Basic
import Mathlib.Tactic.Abel

/-!
Edit scripts between two lists, what they cost, and the least cost from the least costs
of shorter lists.
-/

namespace HuntersGuild.EditScripts

universe u v w

inductive Edit where
  | insert
  | substitute
  | delete
  deriving DecidableEq

structure Costs (α : Type u) (β : Type v) (κ : Type w) where
  insert : β → κ
  delete : α → κ
  substitute : α → β → κ

section Scripts

variable {α : Type u} {β : Type v} {κ : Type w} [AddCommMonoid κ]

/-- A script that turns one list into another, and its cost. -/
inductive Script (costs : Costs α β κ) : List Edit → List α → List β → κ → Prop where
  | nil : Script costs [] [] [] 0
  | insert (b : β) {edits : List Edit} {source : List α} {target : List β} {total : κ}
      (h : Script costs edits source target total) :
      Script costs (.insert :: edits) source (b :: target) (total + costs.insert b)
  | substitute (a : α) (b : β) {edits : List Edit} {source : List α} {target : List β} {total : κ}
      (h : Script costs edits source target total) :
      Script costs (.substitute :: edits) (a :: source) (b :: target)
        (total + costs.substitute a b)
  | delete (a : α) {edits : List Edit} {source : List α} {target : List β} {total : κ}
      (h : Script costs edits source target total) :
      Script costs (.delete :: edits) (a :: source) target (total + costs.delete a)

variable {costs : Costs α β κ} {edits edits' : List Edit} {source source' : List α}
  {target target' : List β} {total total' : κ}

theorem Script.append (h : Script costs edits source target total)
    (h' : Script costs edits' source' target' total') :
    Script costs (edits ++ edits') (source ++ source') (target ++ target') (total + total') := by
  induction h with
  | nil => rwa [zero_add]
  | insert b _ ih =>
      rw [add_right_comm]
      exact ih.insert b
  | substitute a b _ ih =>
      rw [add_right_comm]
      exact ih.substitute a b
  | delete a _ ih =>
      rw [add_right_comm]
      exact ih.delete a

theorem Script.reverse (h : Script costs edits source target total) :
    Script costs edits.reverse source.reverse target.reverse total := by
  induction h with
  | nil => exact .nil
  | insert b _ ih =>
      simp only [List.reverse_cons]
      have h := ih.append (Script.nil.insert b)
      rwa [zero_add, List.append_nil] at h
  | substitute a b _ ih =>
      simp only [List.reverse_cons]
      have h := ih.append (Script.nil.substitute a b)
      rwa [zero_add] at h
  | delete a _ ih =>
      simp only [List.reverse_cons]
      have h := ih.append (Script.nil.delete a)
      rwa [zero_add, List.append_nil] at h

/-- The elements that a script substitutes for one another. -/
def pairs : List Edit → List α → List β → List (α × β)
  | .insert :: edits, source, _ :: target => pairs edits source target
  | .substitute :: edits, a :: source, b :: target => (a, b) :: pairs edits source target
  | .delete :: edits, _ :: source, target => pairs edits source target
  | _, _, _ => []

/-- A substitution can be replaced by a deletion and an insertion. -/
theorem Script.exists_without (h : Script costs edits source target total) {a : α} {b : β}
    (hpair : (a, b) ∈ pairs edits source target) :
    ∃ edits' total', Script costs edits' source target total' ∧
      total' + costs.substitute a b = total + (costs.delete a + costs.insert b) := by
  induction h with
  | nil => exact absurd hpair List.not_mem_nil
  | insert c _ ih =>
      obtain ⟨edits', total', h', htotal⟩ := ih hpair
      exact ⟨_, _, h'.insert c, by rw [add_right_comm, htotal, add_right_comm]⟩
  | @substitute c d edits source target total h ih =>
      obtain heq | hpair := List.mem_cons.mp hpair
      · cases heq
        exact ⟨_, _, (h.insert b).delete a, by abel⟩
      · obtain ⟨edits', total', h', htotal⟩ := ih hpair
        exact ⟨_, _, h'.substitute c d, by rw [add_right_comm, htotal, add_right_comm]⟩
  | delete c _ ih =>
      obtain ⟨edits', total', h', htotal⟩ := ih hpair
      exact ⟨_, _, h'.delete c, by rw [add_right_comm, htotal, add_right_comm]⟩

/-- For each element of the target, the index of the element it replaces. -/
def origins : List Edit → Nat → List (Option Nat)
  | [], _ => []
  | .insert :: edits, i => none :: origins edits i
  | .substitute :: edits, i => some i :: origins edits (i + 1)
  | .delete :: edits, i => origins edits (i + 1)

theorem Script.length_origins (h : Script costs edits source target total) (i : Nat) :
    (origins edits i).length = target.length := by
  induction h generalizing i with
  | nil => rfl
  | insert b _ ih => exact congrArg (· + 1) (ih i)
  | substitute a b _ ih => exact congrArg (· + 1) (ih (i + 1))
  | delete a _ ih => exact ih (i + 1)

theorem Script.mem_origins (h : Script costs edits source target total) {i j : Nat}
    (hj : some j ∈ origins edits i) : i ≤ j ∧ j < i + source.length := by
  induction h generalizing i with
  | nil => exact absurd hj List.not_mem_nil
  | insert b _ ih =>
      obtain heq | hj := List.mem_cons.mp hj
      · exact nomatch heq
      · exact ih hj
  | substitute a b _ ih =>
      rw [List.length_cons]
      obtain heq | hj := List.mem_cons.mp hj
      · cases heq
        omega
      · have hrange := ih hj
        omega
  | delete a _ ih =>
      rw [List.length_cons]
      have hrange := ih hj
      omega

theorem Script.pairwise_origins (h : Script costs edits source target total) (i : Nat) :
    ((origins edits i).filterMap id).Pairwise (· < ·) := by
  induction h generalizing i with
  | nil => exact .nil
  | insert b _ ih => exact ih i
  | substitute a b h ih =>
      apply List.Pairwise.cons
      · intro j hj
        obtain ⟨origin, horigin, heq⟩ := List.mem_filterMap.mp hj
        cases heq
        exact (h.mem_origins horigin).1
      · exact ih (i + 1)
  | delete a _ ih => exact ih (i + 1)

/-- What the scripts between two lists cost. -/
def totals (costs : Costs α β κ) (source : List α) (target : List β) : Set κ :=
  {total | ∃ edits, Script costs edits source target total}

theorem totals_reverse (costs : Costs α β κ) (source : List α) (target : List β) :
    totals costs source.reverse target.reverse = totals costs source target := by
  ext total
  constructor
  · rintro ⟨edits, h⟩
    have hreverse := h.reverse
    rw [List.reverse_reverse, List.reverse_reverse] at hreverse
    exact ⟨_, hreverse⟩
  · rintro ⟨edits, h⟩
    exact ⟨_, h.reverse⟩

end Scripts

/-! ## Least costs -/

section LeastCosts

variable {α : Type u} {β : Type v} {κ : Type w} [AddCommMonoid κ] [PartialOrder κ]
  {costs : Costs α β κ} {source : List α} {target : List β}

theorem isLeast_nil : IsLeast (totals costs [] []) 0 := by
  refine ⟨⟨[], .nil⟩, ?_⟩
  rintro total ⟨edits, h⟩
  cases h
  exact le_rfl

variable [IsOrderedCancelAddMonoid κ]

theorem isLeast_insert {least : κ} {b : β} (h : IsLeast (totals costs [] target) least) :
    IsLeast (totals costs [] (b :: target)) (least + costs.insert b) := by
  obtain ⟨⟨edits, hscript⟩, hlower⟩ := h
  refine ⟨⟨_, hscript.insert b⟩, ?_⟩
  rintro total ⟨edits, h⟩
  cases h with
  | insert _ h => exact add_le_add_left (hlower ⟨_, h⟩) _

theorem isLeast_delete {least : κ} {a : α} (h : IsLeast (totals costs source []) least) :
    IsLeast (totals costs (a :: source) []) (least + costs.delete a) := by
  obtain ⟨⟨edits, hscript⟩, hlower⟩ := h
  refine ⟨⟨_, hscript.delete a⟩, ?_⟩
  rintro total ⟨edits, h⟩
  cases h with
  | delete _ h => exact add_le_add_left (hlower ⟨_, h⟩) _

/-- The least of the three sums is the least cost of the longer lists. -/
theorem isLeast_cons {a : α} {b : β} {inserted deleted substituted least : κ}
    (hinsert : IsLeast (totals costs (a :: source) target) inserted)
    (hdelete : IsLeast (totals costs source (b :: target)) deleted)
    (hsubstitute : IsLeast (totals costs source target) substituted)
    (hmem : least ∈ [inserted + costs.insert b, deleted + costs.delete a,
      substituted + costs.substitute a b])
    (hle : ∀ sum ∈ [inserted + costs.insert b, deleted + costs.delete a,
      substituted + costs.substitute a b], least ≤ sum) :
    IsLeast (totals costs (a :: source) (b :: target)) least := by
  obtain ⟨⟨insertEdits, hinsertScript⟩, hinsertLower⟩ := hinsert
  obtain ⟨⟨deleteEdits, hdeleteScript⟩, hdeleteLower⟩ := hdelete
  obtain ⟨⟨substituteEdits, hsubstituteScript⟩, hsubstituteLower⟩ := hsubstitute
  simp only [List.mem_cons, List.not_mem_nil, or_false, forall_eq_or_imp, forall_eq] at hmem hle
  obtain ⟨hleInsert, hleDelete, hleSubstitute⟩ := hle
  constructor
  · obtain rfl | rfl | rfl := hmem
    · exact ⟨_, hinsertScript.insert b⟩
    · exact ⟨_, hdeleteScript.delete a⟩
    · exact ⟨_, hsubstituteScript.substitute a b⟩
  · rintro total ⟨edits, h⟩
    cases h with
    | insert _ h => exact hleInsert.trans (add_le_add_left (hinsertLower ⟨_, h⟩) _)
    | delete _ h => exact hleDelete.trans (add_le_add_left (hdeleteLower ⟨_, h⟩) _)
    | substitute _ _ h =>
        exact hleSubstitute.trans (add_le_add_left (hsubstituteLower ⟨_, h⟩) _)

/-- A least script substitutes only where that costs no more than a deletion and an
insertion. -/
theorem Script.substitute_le_of_isLeast {edits : List Edit} {total : κ}
    (h : Script costs edits source target total) (hleast : IsLeast (totals costs source target) total)
    {a : α} {b : β} (hpair : (a, b) ∈ pairs edits source target) :
    costs.substitute a b ≤ costs.delete a + costs.insert b := by
  obtain ⟨edits', total', h', htotal⟩ := h.exists_without hpair
  have hle : total ≤ total' := hleast.2 ⟨edits', h'⟩
  have hsum : total + costs.substitute a b ≤ total + (costs.delete a + costs.insert b) :=
    htotal ▸ add_le_add_left hle _
  exact le_of_add_le_add_left hsum

end LeastCosts

end HuntersGuild.EditScripts
