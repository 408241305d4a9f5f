import Mathlib.Data.Nat.ModEq
import Mathlib.Data.List.Induction

/-!
Numbers of a fixed count of digits in some base, the highest digit first.
-/

namespace HuntersGuild.PositionalDigits

/-- The digits of a number. Digits that do not fit are lost. -/
def digits (base : Nat) : Nat → Nat → List Nat
  | 0, _ => []
  | count + 1, n => digits base count (n / base) ++ [n % base]

def value (base : Nat) (ds : List Nat) : Nat := ds.foldl (fun n d => base * n + d) 0

variable {base : Nat}

theorem digits_length (count n : Nat) : (digits base count n).length = count := by
  induction count generalizing n with
  | zero => rfl
  | succ count ih => rw [digits, List.length_append, ih, List.length_singleton]

theorem digits_lt (hbase : 0 < base) (count n : Nat) : ∀ d ∈ digits base count n, d < base := by
  induction count generalizing n with
  | zero => exact fun d hd => absurd hd List.not_mem_nil
  | succ count ih =>
      intro d hd
      rcases List.mem_append.mp hd with hd | hd
      · exact ih _ d hd
      · rw [List.mem_singleton.mp hd]
        exact Nat.mod_lt n hbase

theorem value_concat (ds : List Nat) (d : Nat) : value base (ds ++ [d]) = base * value base ds + d := by
  rw [value, List.foldl_append]
  rfl

theorem value_digits (count n : Nat) : value base (digits base count n) = n % base ^ count := by
  induction count generalizing n with
  | zero => rw [Nat.pow_zero, Nat.mod_one, digits, value, List.foldl_nil]
  | succ count ih => rw [digits, value_concat, ih, Nat.pow_succ', Nat.mod_mul, Nat.add_comm]

theorem digits_value (ds : List Nat) (hds : ∀ d ∈ ds, d < base) : digits base ds.length (value base ds) = ds := by
  induction ds using List.reverseRecOn with
  | nil => rfl
  | append_singleton ds d ih =>
      have hd : d < base := hds d (List.mem_append_right ds (List.mem_singleton_self d))
      have hbase : 0 < base := Nat.zero_lt_of_lt hd
      rw [List.length_append, List.length_singleton, digits, value_concat, Nat.mul_add_div hbase,
        Nat.div_eq_of_lt hd, Nat.add_zero, Nat.mul_add_mod, Nat.mod_eq_of_lt hd,
        ih fun d' hd' => hds d' (List.mem_append_left [d] hd')]

theorem value_lt (ds : List Nat) (hds : ∀ d ∈ ds, d < base) : value base ds < base ^ ds.length := by
  induction ds using List.reverseRecOn with
  | nil => exact Nat.one_pos
  | append_singleton ds d ih =>
      have hd : d < base := hds d (List.mem_append_right ds (List.mem_singleton_self d))
      have hrest := ih fun d' hd' => hds d' (List.mem_append_left [d] hd')
      rw [value_concat, List.length_append, List.length_singleton, Nat.pow_succ']
      calc base * value base ds + d < base * value base ds + base := Nat.add_lt_add_left hd _
        _ = base * (value base ds + 1) := (Nat.mul_succ base _).symm
        _ ≤ base * base ^ ds.length := Nat.mul_le_mul_left base hrest

end HuntersGuild.PositionalDigits
