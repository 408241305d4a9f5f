import Mathlib.Data.List.Basic

/-!
Walks from a directory of a tree to another one, by leaving the innermost directories
that the two paths do not share and entering those that are missing.
-/

namespace HuntersGuild.DirectoryWalks

universe u

variable {α : Type u}

/-- Two paths with the same name at some depth have the same directories above it. -/
def Clear (source target : List α) : Prop :=
  ∀ i < source.length, target[i]? = source[i]? → source.take i = target.take i

theorem clear_nil (target : List α) : Clear [] target := fun i hi => absurd hi (Nat.not_lt_zero i)

theorem clear_to_nil (source : List α) : Clear source [] := by
  intro i hi h
  rw [List.getElem?_nil, List.getElem?_eq_getElem hi] at h
  cases h

variable [DecidableEq α]

instance (source target : List α) : Decidable (Clear source target) :=
  inferInstanceAs (Decidable (∀ i < source.length, target[i]? = source[i]? → source.take i = target.take i))

/-- How many directories are left, and those that are not. A directory is left when
another one has its place in the target. Directories are listed from the innermost on. -/
def leave (target : List α) : List α → Nat × List α
  | [] => (0, [])
  | dir :: outer =>
      if outer.length + 1 > target.length ∨ target[outer.length]? ≠ some dir then
        ((leave target outer).1 + 1, (leave target outer).2)
      else (0, dir :: outer)

variable {source target dirs : List α}

theorem leave_eq (target dirs : List α) :
    ∃ gone, dirs = gone ++ (leave target dirs).2 ∧ (leave target dirs).1 = gone.length := by
  induction dirs with
  | nil => exact ⟨[], rfl, rfl⟩
  | cons dir outer ih =>
      obtain ⟨gone, hgone, hlength⟩ := ih
      unfold leave
      split_ifs with h
      · refine ⟨dir :: gone, ?_, ?_⟩
        · rw [List.cons_append, ← hgone]
        · rw [hlength, List.length_cons]
      · exact ⟨[], rfl, rfl⟩

/-- The innermost directory that is kept has its place in the target. -/
theorem getElem?_leave {dir : α} {outer : List α} (h : (leave target dirs).2 = dir :: outer) :
    target[outer.length]? = some dir := by
  induction dirs with
  | nil => cases h
  | cons dir' outer' ih =>
      unfold leave at h
      split_ifs at h with hleft
      · exact ih h
      · obtain ⟨rfl, rfl⟩ := List.cons.inj h
        push Not at hleft
        exact hleft.2

/-- A directory that is left has another one in its place. -/
theorem ne_of_leave {i : Nat} (hkept : (leave target dirs).2.length ≤ i) (hi : i < dirs.length) :
    target[i]? ≠ dirs.reverse[i]? := by
  induction dirs with
  | nil => exact absurd hi (Nat.not_lt_zero i)
  | cons dir outer ih =>
      unfold leave at hkept
      split_ifs at hkept with hleft
      · rw [List.reverse_cons]
        rcases Nat.lt_or_eq_of_le (Nat.le_of_lt_succ hi) with hlt | rfl
        · rw [List.getElem?_append_left (by rwa [List.length_reverse])]
          exact ih hkept hlt
        · have hlast : (outer.reverse ++ [dir])[outer.length]? = some dir := by
            rw [← List.length_reverse, List.getElem?_concat_length]
          rw [hlast]
          rcases hleft with hlength | hother
          · rw [List.getElem?_eq_none (Nat.le_of_lt_succ hlength)]
            exact (Option.some_ne_none dir).symm
          · exact hother
      · rw [List.length_cons] at hkept hi
        omega

/-- What is kept is the beginning of the target exactly for paths that are clear. -/
theorem leave_eq_take_iff :
    (leave target source.reverse).2.reverse = target.take (leave target source.reverse).2.length ↔
      Clear source target := by
  obtain ⟨gone, hsource, -⟩ := leave_eq target source.reverse
  have hkept : source.take (leave target source.reverse).2.length =
      (leave target source.reverse).2.reverse := by
    have hreverse : source = (leave target source.reverse).2.reverse ++ gone.reverse := by
      rw [← List.reverse_append, ← hsource, List.reverse_reverse]
    calc source.take (leave target source.reverse).2.length
        = ((leave target source.reverse).2.reverse ++ gone.reverse).take
            (leave target source.reverse).2.length := congrArg _ hreverse
      _ = (leave target source.reverse).2.reverse := List.take_left' List.length_reverse
  constructor
  · intro htake i hi hsame
    have hlt : i < (leave target source.reverse).2.length := by
      by_contra hge
      have hne := ne_of_leave (Nat.le_of_not_lt hge) (by rwa [List.length_reverse])
      rw [List.reverse_reverse] at hne
      exact hne hsame
    have hprefix : source.take (leave target source.reverse).2.length =
        target.take (leave target source.reverse).2.length := hkept.trans htake
    have htwice := congrArg (List.take i) hprefix
    rwa [List.take_take, List.take_take, Nat.min_eq_left (Nat.le_of_lt hlt)] at htwice
  · intro hclear
    rcases hcases : (leave target source.reverse).2 with _ | ⟨dir, outer⟩
    · rfl
    · have hlast := getElem?_leave hcases
      rw [hcases, List.length_cons] at hkept
      have hlength : outer.length < source.length := by
        have h := congrArg List.length hkept
        rw [List.length_take, List.length_reverse, List.length_cons] at h
        omega
      have hsame : source[outer.length]? = some dir := by
        have h : (source.take (outer.length + 1))[outer.length]? = (dir :: outer).reverse[outer.length]? := by
          rw [hkept]
        rw [List.getElem?_take_of_lt (Nat.lt_succ_self _), List.reverse_cons, ← List.length_reverse,
          List.getElem?_concat_length, List.length_reverse] at h
        exact h
      have houter : source.take outer.length = target.take outer.length :=
        hclear outer.length hlength (hlast.trans hsame.symm)
      rw [List.length_cons, ← hkept, List.take_add_one, List.take_add_one, houter, hlast, hsame]

end HuntersGuild.DirectoryWalks
