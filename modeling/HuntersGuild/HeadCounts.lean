import Mathlib.Data.List.Basic

/-!
Lists in which some entries are heads: how many of them there are among the first
entries, and where the first others and the next heads are.
-/

namespace HuntersGuild.HeadCounts

universe u

variable {α : Type u} {p : α → Bool} {xs : List α} {m n i : Nat} {x : α}

/-- The number of heads among the first `n` entries. -/
def headsAmong (p : α → Bool) (xs : List α) (n : Nat) : Nat := (xs.take n).countP p

theorem headsAmong_succ (h : xs[n]? = some x) :
    headsAmong p xs (n + 1) = headsAmong p xs n + if p x then 1 else 0 := by
  rw [headsAmong, headsAmong, List.take_add_one, h, List.countP_append]
  simp only [Option.toList_some, List.countP_singleton]

theorem headsAmong_succ_of_head (h : xs[n]? = some x) (hx : p x = true) :
    headsAmong p xs (n + 1) = headsAmong p xs n + 1 := by
  rw [headsAmong_succ h, if_pos hx]

theorem headsAmong_succ_of_other (h : xs[n]? = some x) (hx : p x = false) :
    headsAmong p xs (n + 1) = headsAmong p xs n := by
  rw [headsAmong_succ h, hx]
  rfl

theorem headsAmong_le : headsAmong p xs n ≤ n :=
  calc (xs.take n).countP p ≤ (xs.take n).length := List.countP_le_length
    _ ≤ n := List.length_take_le n xs

theorem headsAmong_length : headsAmong p xs xs.length = xs.countP p := by
  rw [headsAmong, List.take_length]

theorem headsAmong_append_left {ys : List α} (h : n ≤ xs.length) :
    headsAmong p (xs ++ ys) n = headsAmong p xs n := by
  rw [headsAmong, headsAmong, List.take_append_of_le_length h]

theorem exists_getElem? (h : n < xs.length) : ∃ x, xs[n]? = some x :=
  ⟨xs[n], List.getElem?_eq_getElem h⟩

/-- There are as many heads as entries when all of these are heads. -/
theorem headsAmong_eq_iff (hn : n ≤ xs.length) :
    headsAmong p xs n = n ↔ ∀ i < n, ∀ x, xs[i]? = some x → p x = true := by
  induction n with
  | zero => exact iff_of_true rfl fun _ hi => absurd hi (Nat.not_lt_zero _)
  | succ n ih =>
      obtain ⟨x, hx⟩ := exists_getElem? (Nat.lt_of_succ_le hn)
      have hle : headsAmong p xs n ≤ n := headsAmong_le
      have ih := ih (Nat.le_of_succ_le hn)
      constructor
      · intro h i hi y hy
        cases hhead : p x with
        | false =>
            rw [headsAmong_succ_of_other hx hhead] at h
            omega
        | true =>
            rw [headsAmong_succ_of_head hx hhead] at h
            rcases Nat.lt_succ_iff_lt_or_eq.mp hi with hlt | rfl
            · exact ih.mp (Nat.succ.inj h) i hlt y hy
            · exact Option.some.inj (hx.symm.trans hy) ▸ hhead
      · intro h
        rw [headsAmong_succ_of_head hx (h n (Nat.lt_succ_self n) x hx),
          ih.mpr fun i hi => h i (Nat.lt_succ_of_lt hi)]

theorem exists_first_other (hn : n ≤ xs.length) (h : headsAmong p xs n ≠ n) :
    ∃ i < n, headsAmong p xs i = i ∧ ∃ x, xs[i]? = some x ∧ p x = false := by
  induction n with
  | zero => exact absurd rfl h
  | succ n ih =>
      by_cases hall : headsAmong p xs n = n
      · obtain ⟨x, hx⟩ := exists_getElem? (Nat.lt_of_succ_le hn)
        refine ⟨n, Nat.lt_succ_self n, hall, x, hx, ?_⟩
        cases hhead : p x with
        | false => rfl
        | true =>
            rw [headsAmong_succ_of_head hx hhead, hall] at h
            exact absurd rfl h
      · obtain ⟨i, hi, hfirst⟩ := ih (Nat.le_of_succ_le hn) hall
        exact ⟨i, Nat.lt_succ_of_lt hi, hfirst⟩

/-- Before the next head at or behind an entry there are as many heads as before the
entry. -/
theorem exists_next_head (hx : xs[n]? = some x) (hhead : p x = true) (hi : i ≤ n) :
    ∃ j, i ≤ j ∧ j ≤ n ∧ headsAmong p xs j = headsAmong p xs i ∧
      ∃ y, xs[j]? = some y ∧ p y = true := by
  obtain ⟨d, rfl⟩ := Nat.exists_eq_add_of_le hi
  induction d generalizing i with
  | zero => exact ⟨i, Nat.le_refl i, Nat.le_refl i, rfl, x, hx, hhead⟩
  | succ d ih =>
      obtain ⟨y, hy⟩ := exists_getElem?
        (Nat.lt_of_le_of_lt hi (List.getElem?_eq_some_iff.mp hx).1)
      cases hyhead : p y with
      | true => exact ⟨i, Nat.le_refl i, hi, rfl, y, hy, hyhead⟩
      | false =>
          have hsum : i + (d + 1) = i + 1 + d := by omega
          obtain ⟨j, hle, hlt, hcount, hj⟩ :=
            ih (hsum ▸ hx) (Nat.le_add_right (i + 1) d)
          rw [headsAmong_succ_of_other hy hyhead] at hcount
          exact ⟨j, Nat.le_of_succ_le hle, by omega, hcount, hj⟩

end HuntersGuild.HeadCounts
