import Mathlib.Algebra.BigOperators.Group.List.Basic
import Mathlib.Data.List.Basic
import Mathlib.Algebra.GroupWithZero.Nat

/-!
Totals per key: how much of each kind a list of entries holds.
-/

namespace HuntersGuild.KeyedTotals

universe u v

variable {α : Type u} {κ : Type v} [DecidableEq κ]

/-- What one entry contributes to the total of a key. -/
def share (key : α → κ) (weight : α → Nat) (k : κ) (a : α) : Nat :=
  if key a = k then weight a else 0

/-- The sum of the weights of the entries under a key. -/
def total (key : α → κ) (weight : α → Nat) (k : κ) (l : List α) : Nat :=
  (l.map (share key weight k)).sum

variable {key : α → κ} {weight : α → Nat} {k : κ} {l : List α}

theorem share_of_eq {a : α} (h : key a = k) : share key weight k a = weight a := if_pos h

theorem share_of_ne {a : α} (h : key a ≠ k) : share key weight k a = 0 := if_neg h

@[simp] theorem total_nil : total key weight k [] = 0 := rfl

@[simp] theorem total_cons (a : α) (l : List α) :
    total key weight k (a :: l) = share key weight k a + total key weight k l := by
  simp only [total, List.map_cons, List.sum_cons]

@[simp] theorem total_append (l₁ l₂ : List α) :
    total key weight k (l₁ ++ l₂) = total key weight k l₁ + total key weight k l₂ := by
  simp only [total, List.map_append, List.sum_append]

/-- Taking an entry away takes its share away. -/
theorem total_eraseIdx (l : List α) (i : Nat) (h : i < l.length) :
    total key weight k (l.eraseIdx i) + share key weight k l[i] = total key weight k l := by
  induction l generalizing i with
  | nil => cases h
  | cons a l ih =>
      cases i with
      | zero => simp only [List.eraseIdx_zero, List.tail_cons, List.getElem_cons_zero,
          total_cons, Nat.add_comm]
      | succ i =>
          have hrest := ih i (Nat.lt_of_succ_lt_succ h)
          simp only [List.eraseIdx_cons_succ, List.getElem_cons_succ, total_cons]
          omega

/-- Replacing an entry replaces its share. -/
theorem total_set (l : List α) (i : Nat) (h : i < l.length) (b : α) :
    total key weight k (l.set i b) + share key weight k l[i] =
      total key weight k l + share key weight k b := by
  induction l generalizing i with
  | nil => cases h
  | cons a l ih =>
      cases i with
      | zero =>
          simp only [List.set_cons_zero, List.getElem_cons_zero, total_cons]
          omega
      | succ i =>
          have hrest := ih i (Nat.lt_of_succ_lt_succ h)
          simp only [List.set_cons_succ, List.getElem_cons_succ, total_cons]
          omega

end HuntersGuild.KeyedTotals
