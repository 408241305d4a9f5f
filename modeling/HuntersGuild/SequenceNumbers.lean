import Mathlib.Data.Nat.Bitwise
import Mathlib.Data.UInt
import Mathlib.Tactic.Ring

/-!
Positions in a stream as sequence numbers of 32 bits, which wrap around. Two of
them are compared by the highest bit of their difference.
-/

namespace HuntersGuild.SequenceNumbers

/-- The sequence number of the position `n` of a stream that starts at `base`. -/
def after (base : UInt32) (n : Nat) : UInt32 := base + .ofNat n

@[simp] theorem after_zero (base : UInt32) : after base 0 = base := by
  apply UInt32.toNat_inj.mp
  rw [after, UInt32.toNat_add]
  exact Nat.mod_eq_of_lt base.toNat_lt

theorem after_add (base : UInt32) (n m : Nat) : after base n + .ofNat m = after base (n + m) := by
  rw [after, after, UInt32.add_assoc, UInt32.ofNat_add]

theorem toNat_sub_after (base : UInt32) (n m : Nat) :
    (after base n - after base m).toNat = (2 ^ 32 - m % 2 ^ 32 + n) % 2 ^ 32 := by
  have hbase := base.toNat_lt
  unfold after
  rw [UInt32.toNat_sub, UInt32.toNat_add, UInt32.toNat_add, UInt32.toNat_ofNat', UInt32.toNat_ofNat']
  omega

/-- How far a position is ahead of another one. -/
theorem toNat_sub_of_le {n m : Nat} (base : UInt32) (h : m ≤ n) (hlt : n - m < 2 ^ 32) :
    (after base n - after base m).toNat = n - m := by
  rw [toNat_sub_after]
  omega

theorem toNat_sub_of_lt {n m : Nat} (base : UInt32) (h : n < m) (hle : m - n ≤ 2 ^ 32) :
    (after base n - after base m).toNat = (2 ^ 32 - (m - n)) % 2 ^ 32 := by
  rw [toNat_sub_after]
  omega

theorem after_eq_after_iff {n m : Nat} (base : UInt32) :
    after base n = after base m ↔ n % 2 ^ 32 = m % 2 ^ 32 := by
  have hbase := base.toNat_lt
  rw [← UInt32.toNat_inj]
  unfold after
  rw [UInt32.toNat_add, UInt32.toNat_add, UInt32.toNat_ofNat', UInt32.toNat_ofNat']
  omega

theorem highBit_iff (x : UInt32) : x &&& 0x80000000 ≠ 0 ↔ 2 ^ 31 ≤ x.toNat := by
  have hx := x.toNat_lt
  have hand : (x &&& 0x80000000).toNat = (x.toNat.testBit 31).toNat * 2 ^ 31 := by
    rw [UInt32.toNat_and]
    exact Nat.and_two_pow x.toNat 31
  rw [ne_eq, ← UInt32.toNat_inj, hand, Nat.testBit_eq_decide_div_mod_eq]
  change ¬ _ = 0 ↔ _
  rcases Nat.lt_or_ge x.toNat (2 ^ 31) with hlt | hge
  · have hdiv : x.toNat / 2 ^ 31 = 0 := Nat.div_eq_of_lt hlt
    rw [hdiv]
    exact iff_of_false (not_not.mpr rfl) (Nat.not_le.mpr hlt)
  · have hdiv : x.toNat / 2 ^ 31 = 1 := by omega
    rw [hdiv]
    exact iff_of_true (by decide) hge

/-- A position within half the number space behind another one. -/
theorem highBit_sub_of_lt {n m : Nat} (base : UInt32) (h : n < m) (hle : m - n ≤ 2 ^ 31) :
    (after base n - after base m) &&& 0x80000000 ≠ 0 := by
  rw [highBit_iff, toNat_sub_of_lt base h (by omega)]
  omega

/-- A position less than half the number space ahead of another one. -/
theorem highBit_sub_of_le {n m : Nat} (base : UInt32) (h : m ≤ n) (hlt : n - m < 2 ^ 31) :
    (after base n - after base m) &&& 0x80000000 = 0 := by
  have hbit := mt (highBit_iff (after base n - after base m)).mp
  rw [toNat_sub_of_le base h (by omega)] at hbit
  exact not_not.mp (hbit (by omega))

/-- A part of a stream that begins within its beginning extends it. -/
theorem append_isPrefix {α : Type} {stream data part : List α} (hdata : data <+: stream)
    {start : Nat} (hle : start ≤ data.length) (hpart : part <+: stream.drop start) :
    data ++ part.drop (data.length - start) <+: stream := by
  obtain ⟨rest, rfl⟩ := hdata
  obtain ⟨rest', hpart⟩ := hpart
  have hdrop := congrArg (List.drop (data.length - start)) hpart
  rw [List.drop_drop, Nat.add_sub_cancel' hle, List.drop_left, List.drop_append] at hdrop
  exact ⟨rest'.drop (data.length - start - part.length), by rw [List.append_assoc, hdrop]⟩

end HuntersGuild.SequenceNumbers
