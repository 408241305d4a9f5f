import Mathlib.Tactic.Ring
import Mathlib.Data.List.Basic

/-!
Numbers as byte strings of a fixed width, in both byte orders.
-/

namespace HuntersGuild.WordBytes

/-- The low `width` bytes of a number, the lowest one first. -/
def littleEndian : Nat → Nat → List UInt8
  | 0, _ => []
  | width + 1, n => UInt8.ofNat n :: littleEndian width (n / 256)

/-- The number whose bytes, the lowest one first, are these. -/
def fromLittleEndian : List UInt8 → Nat
  | [] => 0
  | b :: bs => b.toNat + 256 * fromLittleEndian bs

def bigEndian (width n : Nat) : List UInt8 :=
  (littleEndian width n).reverse

def fromBigEndian (bs : List UInt8) : Nat :=
  fromLittleEndian bs.reverse

@[simp] theorem length_littleEndian (width n : Nat) :
    (littleEndian width n).length = width := by
  induction width generalizing n with
  | zero => rfl
  | succ width ih =>
      rw [littleEndian, List.length_cons, ih]

@[simp] theorem length_bigEndian (width n : Nat) : (bigEndian width n).length = width := by
  rw [bigEndian, List.length_reverse, length_littleEndian]

theorem fromLittleEndian_littleEndian (width n : Nat) :
    fromLittleEndian (littleEndian width n) = n % 256 ^ width := by
  induction width generalizing n with
  | zero => exact (Nat.mod_one n).symm
  | succ width ih =>
      rw [littleEndian, fromLittleEndian, ih, pow_succ, mul_comm (256 ^ width) 256,
        Nat.mod_mul]
      rfl

theorem fromLittleEndian_littleEndian_of_lt {width n : Nat} (h : n < 256 ^ width) :
    fromLittleEndian (littleEndian width n) = n := by
  rw [fromLittleEndian_littleEndian, Nat.mod_eq_of_lt h]

/-- The bytes of a number that fewer bytes give are padded with zeros. -/
theorem littleEndian_fromLittleEndian (bs : List UInt8) (n : Nat) :
    littleEndian (bs.length + n) (fromLittleEndian bs) = bs ++ List.replicate n 0 := by
  induction bs with
  | nil =>
      rw [List.length_nil, Nat.zero_add, List.nil_append]
      induction n with
      | zero => rfl
      | succ n ih =>
          rw [littleEndian, List.replicate_succ, fromLittleEndian]
          exact congrArg _ ih
  | cons b bs ih =>
      have hb := b.toNat_lt
      have hlow : UInt8.ofNat (b.toNat + 256 * fromLittleEndian bs) = b := by
        apply UInt8.toNat_inj.mp
        change (b.toNat + 256 * fromLittleEndian bs) % 256 = b.toNat
        omega
      have hhigh : (b.toNat + 256 * fromLittleEndian bs) / 256 = fromLittleEndian bs := by
        omega
      rw [List.length_cons, Nat.succ_add, fromLittleEndian, littleEndian, hlow, hhigh, ih,
        List.cons_append]

theorem fromBigEndian_bigEndian_of_lt {width n : Nat} (h : n < 256 ^ width) :
    fromBigEndian (bigEndian width n) = n := by
  rw [fromBigEndian, bigEndian, List.reverse_reverse, fromLittleEndian_littleEndian_of_lt h]

end HuntersGuild.WordBytes
