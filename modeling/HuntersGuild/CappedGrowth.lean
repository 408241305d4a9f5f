import Mathlib.Algebra.BigOperators.Group.Finset.Piecewise
import Mathlib.Algebra.Order.BigOperators.Group.Finset
import Mathlib.Data.Nat.ModEq
import Mathlib.Tactic.SplitIfs

/-!
Counters that are changed one after another, with a cap on the whole units of
all of them together.
-/

namespace HuntersGuild.CappedGrowth

universe u

variable {ι : Type u} [Fintype ι] {unit cap : ℕ}

/-- The whole units of all counters. -/
def level (unit : ℕ) (counters : ι → ℕ) : ℕ := ∑ k, counters k / unit

/-- A counter after a change. At the cap it does not grow into its next unit,
and it is lowered within its unit or not at all. -/
def changed (unit cap level counter : ℕ) (delta : ℤ) : ℕ :=
  if 0 < delta then
    if level = cap then counter + min delta.toNat (unit - 1 - counter % unit)
    else counter + delta.toNat
  else if -delta < (counter % unit : ℕ) then counter - (-delta).toNat
  else counter

theorem div_le_level (unit : ℕ) (counters : ι → ℕ) (k : ι) :
    counters k / unit ≤ level unit counters :=
  Finset.single_le_sum (f := fun j => counters j / unit) (fun _ _ => Nat.zero_le _)
    (Finset.mem_univ k)

theorem add_div_of_mod_add_lt {n m : ℕ} (h : n % unit + m < unit) : (n + m) / unit = n / unit := by
  have hm : m < unit := by omega
  rw [Nat.add_div_eq_of_add_mod_lt (by rwa [Nat.mod_eq_of_lt hm]), Nat.div_eq_of_lt hm,
    Nat.add_zero]

theorem sub_div_of_le_mod {n m : ℕ} (h : m ≤ n % unit) (hunit : 0 < unit) :
    (n - m) / unit = n / unit := by
  have hn := Nat.mod_add_div n unit
  have hlt := Nat.mod_lt n hunit
  have hsub : n - m = (n % unit - m) + unit * (n / unit) := by omega
  rw [hsub, Nat.add_mul_div_left _ _ hunit, Nat.div_eq_of_lt (by omega), Nat.zero_add]

theorem div_le_changed_div (hunit : 0 < unit) (cap level counter : ℕ) (delta : ℤ) :
    counter / unit ≤ changed unit cap level counter delta / unit := by
  unfold changed
  split_ifs with hpos hcap hneg
  · exact Nat.div_le_div_right (Nat.le_add_right _ _)
  · exact Nat.div_le_div_right (Nat.le_add_right _ _)
  · rw [sub_div_of_le_mod (by omega) hunit]
  · exact le_rfl

theorem changed_div_of_cap (hunit : 0 < unit) (cap counter : ℕ) (delta : ℤ) :
    changed unit cap cap counter delta / unit = counter / unit := by
  unfold changed
  split_ifs with hpos hcap hneg
  · have hlt := Nat.mod_lt counter hunit
    exact add_div_of_mod_add_lt (by omega)
  · exact absurd rfl hcap
  · exact sub_div_of_le_mod (by omega) hunit
  · rfl

/-- A change by at most a unit adds at most one unit. -/
theorem changed_div_le (hunit : 0 < unit) (cap level counter : ℕ) {delta : ℤ}
    (hdelta : delta ≤ unit) :
    changed unit cap level counter delta / unit ≤ counter / unit + 1 := by
  have hle : changed unit cap level counter delta ≤ counter + unit := by
    unfold changed
    split_ifs <;> omega
  calc changed unit cap level counter delta / unit
      ≤ (counter + unit) / unit := Nat.div_le_div_right hle
    _ = counter / unit + 1 := Nat.add_div_right counter hunit

variable [DecidableEq ι]

def change (unit cap : ℕ) (counters : ι → ℕ) (k : ι) (delta : ℤ) : ι → ℕ :=
  Function.update counters k (changed unit cap (level unit counters) (counters k) delta)

/-- The changes are made in their order, each at the level that the earlier ones
have led to. -/
def changeAll (unit cap : ℕ) (changes : List (ι × ℤ)) (counters : ι → ℕ) : ι → ℕ :=
  changes.foldl (fun counters entry => change unit cap counters entry.1 entry.2) counters

theorem level_update (unit : ℕ) (counters : ι → ℕ) (k : ι) (n : ℕ) :
    level unit (Function.update counters k n) + counters k / unit =
      level unit counters + n / unit := by
  have hupdate : (fun j => Function.update counters k n j / unit) =
      Function.update (fun j => counters j / unit) k (n / unit) := by
    funext j
    exact Function.apply_update (fun _ v => v / unit) counters k n j
  have hold := Finset.add_sum_erase Finset.univ (fun j => counters j / unit) (Finset.mem_univ k)
  unfold level
  rw [hupdate, Finset.sum_update_of_mem (Finset.mem_univ k), Finset.sdiff_singleton_eq_erase]
  omega

theorem div_le_change_div (hunit : 0 < unit) (counters : ι → ℕ) (k : ι) (delta : ℤ) (j : ι) :
    counters j / unit ≤ change unit cap counters k delta j / unit := by
  unfold change
  rw [Function.update_apply]
  split_ifs with h
  · rw [h]
    exact div_le_changed_div hunit cap _ _ delta
  · exact le_rfl

theorem level_change_le (hunit : 0 < unit) {counters : ι → ℕ} (hlevel : level unit counters ≤ cap)
    (k : ι) {delta : ℤ} (hdelta : delta ≤ unit) :
    level unit (change unit cap counters k delta) ≤ cap := by
  have hupdate := level_update unit counters k
    (changed unit cap (level unit counters) (counters k) delta)
  rcases Nat.lt_or_eq_of_le hlevel with hlt | heq
  · have hstep := changed_div_le hunit cap (level unit counters) (counters k) hdelta
    unfold change
    omega
  · have hstep := changed_div_of_cap hunit cap (counters k) delta
    unfold change
    rw [heq] at hupdate ⊢
    omega

theorem div_le_changeAll_div (hunit : 0 < unit) (changes : List (ι × ℤ)) (counters : ι → ℕ)
    (j : ι) : counters j / unit ≤ changeAll unit cap changes counters j / unit := by
  induction changes generalizing counters with
  | nil => exact le_rfl
  | cons entry changes ih =>
      exact (div_le_change_div hunit counters entry.1 entry.2 j).trans (ih _)

theorem level_changeAll_le (hunit : 0 < unit) {changes : List (ι × ℤ)} {counters : ι → ℕ}
    (hlevel : level unit counters ≤ cap) (hdelta : ∀ entry ∈ changes, entry.2 ≤ unit) :
    level unit (changeAll unit cap changes counters) ≤ cap := by
  induction changes generalizing counters with
  | nil => exact hlevel
  | cons entry changes ih =>
      rw [List.forall_mem_cons] at hdelta
      exact ih (level_change_le hunit hlevel entry.1 hdelta.1) hdelta.2

end HuntersGuild.CappedGrowth
