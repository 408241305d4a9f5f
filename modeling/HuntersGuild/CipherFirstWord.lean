import Mathlib.Data.UInt
import HuntersGuild.AffineFamilies
import HuntersGuild.MapStates
import HuntersGuild.PsoLfgEncryption

/-!
The first word of `PSOV2Encryption`, which `single` computes without the cipher.
-/

namespace HuntersGuild.CipherFirstWord

open HuntersGuild.AffineFamilies
open HuntersGuild.MapStates
open HuntersGuild.PsoLfgEncryption
open scoped UInt32.CommRing

theorem affine_combine {stream : UInt32 → List UInt32} (h : AffineTable stream) (z source : Nat) :
    AffineTable fun seed => combine (· - ·) (stream seed) z source :=
  h.set ((h.getD z).sub (h.getD source)) z

theorem affine_updateStream {stream : UInt32 → List UInt32} (h : AffineTable stream) :
    AffineTable fun seed => PSOV2Encryption.updateStream (stream seed) := by
  unfold PSOV2Encryption.updateStream
  have hfirst := foldl_family (P := AffineTable) (f := fun stream z => combine (· - ·) stream z (z + 0x1F))
    (fun _ z h => affine_combine h z (z + 0x1F)) (List.range' 1 0x18) h
  exact foldl_family (P := AffineTable) (f := fun stream z => combine (· - ·) stream z (z - 0x18))
    (fun _ z h => affine_combine h z (z - 0x18)) (List.range' 0x19 0x1F) hfirst

/-- The words of the stream, and `a` and `b` of the loop that fills it. -/
structure AffineFill (s : UInt32 → List UInt32 × UInt32 × UInt32) : Prop where
  stream : AffineTable fun seed => (s seed).1
  a : IsAffine fun seed => (s seed).2.1
  b : IsAffine fun seed => (s seed).2.2

theorem affine_fillStream : AffineTable PSOV2Encryption.fillStream := by
  have hstart : AffineFill fun seed =>
      ((List.replicate (PSOV2Encryption.streamLength + 1) (0 : UInt32)).set 0x37 seed, 1, seed) := by
    constructor
    · exact (AffineTable.const _).set IsAffine.id 0x37
    · exact IsAffine.const 1
    · exact IsAffine.id
  have hstep (s : UInt32 → List UInt32 × UInt32 × UInt32) (k : Nat) (h : AffineFill s) :
      AffineFill fun seed =>
        ((s seed).1.set (k * 0x15 % 0x37) (s seed).2.1, (s seed).2.2 - (s seed).2.1, (s seed).2.1) := by
    constructor
    · exact h.stream.set h.a (k * 0x15 % 0x37)
    · exact h.b.sub h.a
    · exact h.a
  have hloop := foldl_family (P := AffineFill)
    (f := fun s k => (s.1.set (k * 0x15 % 0x37) s.2.1, s.2.2 - s.2.1, s.2.1)) hstep
    (List.range' 1 0x36) hstart
  exact hloop.stream

theorem affine_new : AffineTable fun seed => (PSOV2Encryption.new seed).stream := by
  unfold PSOV2Encryption.new
  apply foldl_family (P := AffineTable) (f := fun stream _ => PSOV2Encryption.updateStream stream)
  · intro stream _ h
    exact affine_updateStream h
  · exact affine_fillStream

theorem next_new (seed : UInt32) :
    (PSOV2Encryption.new seed).next.1 = (PSOV2Encryption.new seed).stream.getD 1 0 := by
  have hoffset : (PSOV2Encryption.new seed).offset = 1 := rfl
  have hend : (PSOV2Encryption.new seed).endOffset = 0x38 := rfl
  unfold PSOLFGEncryption.next
  rw [hoffset, hend, if_neg (by decide)]
  dsimp only
  rw [hoffset]

/-- `single` is the first word of the cipher that is made from the seed. -/
theorem next_new_eq_single (seed : UInt32) : (PSOV2Encryption.new seed).next.1 = single seed := by
  have hzero : (PSOV2Encryption.new 0).next.1 = single 0 := by decide +kernel
  have hone : (PSOV2Encryption.new 1).next.1 = single 1 := by decide +kernel
  calc
    (PSOV2Encryption.new seed).next.1 =
        ((PSOV2Encryption.new 1).next.1 - (PSOV2Encryption.new 0).next.1) * seed +
          (PSOV2Encryption.new 0).next.1 := by
      rw [next_new, next_new, next_new]
      exact (affine_new.getD 1).eq_of_zero_one seed
    _ = (single 1 - single 0) * seed + single 0 := by rw [hzero, hone]
    _ = single seed := by
      unfold single
      ring

end HuntersGuild.CipherFirstWord
