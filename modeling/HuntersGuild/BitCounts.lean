import Mathlib.Data.Finset.Card
import Mathlib.Data.Finset.Range
import Mathlib.Data.Nat.Bitwise

/-!
The set bits of a number, and the lowest of them.
-/

namespace HuntersGuild.BitCounts

/-- The set bits of a number below `width`. -/
def bits (width v : Nat) : Finset Nat := (Finset.range width).filter fun i => v.testBit i

theorem mem_bits {width v i : Nat} : i ∈ bits width v ↔ i < width ∧ v.testBit i = true := by
  rw [bits, Finset.mem_filter, Finset.mem_range]

/-- `v & (v - 1)` has all bits of `v` but one. -/
theorem exists_lowestBit {v : Nat} (h : v ≠ 0) : ∃ k, v.testBit k = true ∧
    ∀ i, (v &&& (v - 1)).testBit i = (v.testBit i && decide (i ≠ k)) := by
  induction v using Nat.strongRecOn with
  | ind v ih =>
      rcases Nat.mod_two_eq_zero_or_one v with heven | hodd
      · obtain ⟨k, hk, hothers⟩ := ih (v / 2) (by omega) (by omega)
        have hhalf : (v - 1) / 2 = v / 2 - 1 := by omega
        refine ⟨k + 1, by rwa [Nat.testBit_succ], fun i => ?_⟩
        cases i with
        | zero => simp [heven]
        | succ i =>
            have hi := hothers i
            rw [Nat.testBit_and] at hi ⊢
            rw [Nat.testBit_succ, Nat.testBit_succ, hhalf, hi]
            simp
      · have hhalf : (v - 1) / 2 = v / 2 := by omega
        have hlast : (v - 1) % 2 = 0 := by omega
        refine ⟨0, by simp [hodd], fun i => ?_⟩
        cases i with
        | zero => simp [hlast]
        | succ i =>
            rw [Nat.testBit_and, Nat.testBit_succ, Nat.testBit_succ, hhalf]
            simp

theorem card_bits_clear {width v : Nat} (h : v ≠ 0) (hlt : v < 2 ^ width) :
    (bits width (v &&& (v - 1))).card + 1 = (bits width v).card := by
  obtain ⟨k, hk, hothers⟩ := exists_lowestBit h
  have hmem : k ∈ bits width v := mem_bits.mpr ⟨(Nat.pow_lt_pow_iff_right (by decide)).mp
    ((Nat.ge_two_pow_of_testBit hk).trans_lt hlt), hk⟩
  have herase : bits width (v &&& (v - 1)) = (bits width v).erase k := by
    ext i
    rw [mem_bits, Finset.mem_erase, mem_bits, hothers, Bool.and_eq_true, decide_eq_true_iff]
    tauto
  rw [herase, Finset.card_erase_add_one hmem]

theorem card_bits_eq_zero_iff {width v : Nat} (hlt : v < 2 ^ width) : (bits width v).card = 0 ↔ v = 0 := by
  rw [Finset.card_eq_zero]
  constructor
  · intro hempty
    apply Nat.eq_of_testBit_eq
    intro i
    rw [Nat.zero_testBit]
    by_contra hbit
    rw [Bool.not_eq_false] at hbit
    have hi : i < width := (Nat.pow_lt_pow_iff_right (by decide)).mp ((Nat.ge_two_pow_of_testBit hbit).trans_lt hlt)
    exact Finset.notMem_empty i (hempty ▸ mem_bits.mpr ⟨hi, hbit⟩)
  · rintro rfl
    refine Finset.eq_empty_of_forall_notMem fun i hi => ?_
    rw [mem_bits, Nat.zero_testBit] at hi
    exact Bool.false_ne_true hi.2

end HuntersGuild.BitCounts
