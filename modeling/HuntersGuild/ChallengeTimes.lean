import HuntersGuild.BitCounts
import HuntersGuild.ByteStreams
import HuntersGuild.RandomPrograms

/-!
Times of challenge mode, which are stored under a random mask.
-/

namespace HuntersGuild.ChallengeTimes

open HuntersGuild.BitCounts
open HuntersGuild.ByteStreams (Exception)
open HuntersGuild.RandomPrograms

/-- The bytes of `phosg::random_object<uint8_t>` are a stream. -/
abbrev Program := EStateM Exception (Stream' UInt8)

theorem and_sub_one_lt {v : UInt16} (h : v ≠ 0) : (v &&& (v - 1)).toNat < v.toNat := by
  have hpos : v.toNat ≠ 0 := fun hzero => h (UInt16.toNat_inj.mp hzero)
  have hone : (1 : UInt16) ≤ v := UInt16.le_iff_toNat_le.mpr (Nat.pos_of_ne_zero hpos)
  rw [UInt16.toNat_and, UInt16.toNat_sub_of_le _ _ hone]
  exact Nat.and_le_right.trans_lt (Nat.sub_lt (Nat.pos_of_ne_zero hpos) (by decide))

def countOneBits (v : UInt16) : Nat :=
  if h : v = 0 then 0 else countOneBits (v &&& (v - 1)) + 1
termination_by v.toNat
decreasing_by exact and_sub_one_lt h

/-- The loop that draws the bits of the mask. -/
def drawMask : Nat → List Nat → UInt16 → Program UInt16
  | 0, _, mask => return mask
  | numOneBits + 1, availableBits, mask => do
      let byte ← next
      let index := byte.toNat % availableBits.length
      drawMask numOneBits (availableBits.eraseIdx index)
        (mask ||| .ofNat (1 <<< availableBits.getD index 0))

def encryptChallengeTime (value : UInt16) : Program UInt32 := do
  let byte ← next
  let numOneBits := byte.toNat % 9 + 4
  let mask ← drawMask numOneBits (List.range 16) 0
  return (mask.toUInt32 <<< 16) ||| (value ^^^ mask).toUInt32

def decryptChallengeTime (value : UInt32) : UInt16 :=
  let mask := (value >>> 0x10).toUInt16
  let maskOneBits := countOneBits mask
  if maskOneBits < 4 ∨ maskOneBits > 12 then 0xFFFF
  else ((mask.toUInt32 ^^^ value) &&& 0xFFFF).toUInt16

/-- `ChallengeTimeT::encode` -/
def encode (v : UInt16) : Program UInt32 :=
  if v = 0 ∨ v = 0xFFFF then return 0 else encryptChallengeTime v

/-- `ChallengeTimeT::decode` -/
def decode (value : UInt32) : UInt16 := decryptChallengeTime value

theorem countOneBits_eq (v : UInt16) : countOneBits v = (bits 16 v.toNat).card := by
  induction hn : v.toNat using Nat.strongRecOn generalizing v with
  | ind n ih =>
      subst hn
      unfold countOneBits
      split_ifs with h
      · subst h
        exact ((card_bits_eq_zero_iff (by decide)).mpr rfl).symm
      · have hpos : v.toNat ≠ 0 := fun hzero => h (UInt16.toNat_inj.mp hzero)
        have hone : (1 : UInt16) ≤ v := UInt16.le_iff_toNat_le.mpr (Nat.pos_of_ne_zero hpos)
        rw [ih _ (and_sub_one_lt h) _ rfl, UInt16.toNat_and, UInt16.toNat_sub_of_le _ _ hone]
        exact card_bits_clear hpos v.toNat_lt

theorem countOneBits_zero : countOneBits 0 = 0 := by
  rw [countOneBits_eq]
  exact (card_bits_eq_zero_iff (by decide)).mpr rfl

/-! Masks. -/

/-- The bits that are not available are in the mask. -/
structure Drawn (availableBits : List Nat) (mask : UInt16) : Prop where
  nodup : availableBits.Nodup
  available_lt : ∀ i ∈ availableBits, i < 16
  bits_eq : bits 16 mask.toNat = Finset.range 16 \ availableBits.toFinset

variable {availableBits : List Nat} {mask : UInt16}

theorem Drawn.card_bits (h : Drawn availableBits mask) :
    (bits 16 mask.toNat).card + availableBits.length = 16 := by
  have hsubset : availableBits.toFinset ⊆ Finset.range 16 := fun i hi =>
    Finset.mem_range.mpr (h.available_lt i (List.mem_toFinset.mp hi))
  rw [h.bits_eq, ← List.toFinset_card_of_nodup h.nodup, Finset.card_sdiff_add_card_eq_card hsubset,
    Finset.card_range]

theorem toNat_bit {i : Nat} (hi : i < 16) : (UInt16.ofNat (1 <<< i)).toNat = 2 ^ i := by
  have hlt : 1 <<< i < 2 ^ 16 := by
    rw [Nat.one_shiftLeft]
    exact Nat.pow_lt_pow_right (by decide) hi
  rw [UInt16.toNat_ofNat_of_lt' hlt, Nat.one_shiftLeft]

theorem Drawn.step (h : Drawn availableBits mask) {index : Nat} (hindex : index < availableBits.length) :
    Drawn (availableBits.eraseIdx index) (mask ||| .ofNat (1 <<< availableBits.getD index 0)) := by
  have hbit : availableBits.getD index 0 ∈ availableBits := by
    rw [List.getD_eq_getElem _ _ hindex]
    exact List.getElem_mem hindex
  have herase : availableBits.eraseIdx index = availableBits.erase (availableBits.getD index 0) := by
    rw [List.getD_eq_getElem _ _ hindex, h.nodup.erase_getElem]
  have hlt := h.available_lt _ hbit
  have hmem (i : Nat) : i ∈ bits 16 mask.toNat ↔ i < 16 ∧ i ∉ availableBits := by
    rw [h.bits_eq, Finset.mem_sdiff, Finset.mem_range, List.mem_toFinset]
  refine ⟨herase ▸ h.nodup.erase _, fun i hi => h.available_lt i (List.mem_of_mem_eraseIdx hi), ?_⟩
  ext i
  have hi := hmem i
  rw [mem_bits] at hi
  rw [mem_bits, Finset.mem_sdiff, Finset.mem_range, List.mem_toFinset, herase, h.nodup.mem_erase_iff,
    UInt16.toNat_or, toNat_bit hlt, Nat.testBit_or, Nat.testBit_two_pow, Bool.or_eq_true, decide_eq_true_iff]
  by_cases heq : availableBits.getD index 0 = i
  · subst heq
    tauto
  · tauto

theorem yields_drawMask {n : Nat} (h : Drawn availableBits mask) (hn : n ≤ availableBits.length) :
    Yields (drawMask n availableBits mask)
      (fun mask' => countOneBits mask' = countOneBits mask + n) fun _ => False := by
  induction n generalizing availableBits mask with
  | zero => exact yields_pure rfl
  | succ n ih =>
      refine yields_next.bind fun byte _ => ?_
      have hindex : byte.toNat % availableBits.length < availableBits.length := Nat.mod_lt _ (by omega)
      have hstep := h.step hindex
      have hbefore := h.card_bits
      have hafter := hstep.card_bits
      rw [List.length_eraseIdx_of_lt hindex] at hafter
      refine (ih hstep ?_).mono fun mask' hmask' => ?_
      · rw [List.length_eraseIdx_of_lt hindex]
        omega
      · rw [hmask', countOneBits_eq, countOneBits_eq]
        omega

theorem drawn_zero : Drawn (List.range 16) 0 := ⟨List.nodup_range, fun i hi => List.mem_range.mp hi, by decide⟩

theorem toNat_encrypted (value mask : UInt16) : ((mask.toUInt32 <<< 16) ||| (value ^^^ mask).toUInt32).toNat =
    mask.toNat * 2 ^ 16 + (value.toNat ^^^ mask.toNat) := by
  have hmask := mask.toNat_lt
  have hlow : value.toNat ^^^ mask.toNat < 2 ^ 16 := Nat.xor_lt_two_pow value.toNat_lt mask.toNat_lt
  have hshift : mask.toNat <<< 16 % 2 ^ 32 = mask.toNat <<< 16 := by
    rw [Nat.shiftLeft_eq]
    omega
  rw [UInt32.toNat_or, UInt32.toNat_shiftLeft, UInt16.toNat_toUInt32, UInt16.toNat_toUInt32, UInt16.toNat_xor]
  change mask.toNat <<< 16 % 2 ^ 32 ||| _ = _
  rw [hshift, ← Nat.shiftLeft_add_eq_or_of_lt hlow, Nat.shiftLeft_eq]

theorem decrypt_encrypted {value mask : UInt16} (hfour : 4 ≤ countOneBits mask) (htwelve : countOneBits mask ≤ 12) :
    decryptChallengeTime ((mask.toUInt32 <<< 16) ||| (value ^^^ mask).toUInt32) = value := by
  have hnat := toNat_encrypted value mask
  have hlow : value.toNat ^^^ mask.toNat < 2 ^ 16 := Nat.xor_lt_two_pow value.toNat_lt mask.toNat_lt
  have hmask := mask.toNat_lt
  generalize (mask.toUInt32 <<< 16) ||| (value ^^^ mask).toUInt32 = raw at hnat
  have hhigh : (raw >>> 0x10).toUInt16 = mask := by
    apply UInt16.toNat_inj.mp
    rw [UInt32.toNat_toUInt16, UInt32.toNat_shiftRight]
    change raw.toNat >>> 16 % 2 ^ 16 = _
    rw [hnat, Nat.shiftRight_eq_div_pow]
    omega
  have hvalue : ((mask.toUInt32 ^^^ raw) &&& 0xFFFF).toUInt16 = value := by
    apply UInt16.toNat_inj.mp
    rw [UInt32.toNat_toUInt16, UInt32.toNat_and, UInt32.toNat_xor, UInt16.toNat_toUInt32]
    change ((mask.toNat ^^^ raw.toNat) &&& (2 ^ 16 - 1)) % 2 ^ 16 = value.toNat
    have hraw : raw.toNat % 2 ^ 16 = value.toNat ^^^ mask.toNat := by omega
    rw [Nat.and_two_pow_sub_one_eq_mod, Nat.mod_mod, Nat.xor_mod_two_pow, hraw, Nat.mod_eq_of_lt hmask,
      Nat.xor_comm, Nat.xor_assoc, Nat.xor_self, Nat.xor_zero]
  rw [decryptChallengeTime, hhigh, if_neg (by omega), hvalue]

theorem encrypted_ne_zero {value mask : UInt16} (hfour : 4 ≤ countOneBits mask) :
    (mask.toUInt32 <<< 16) ||| (value ^^^ mask).toUInt32 ≠ 0 := by
  intro hzero
  have hnat := toNat_encrypted value mask
  rw [hzero] at hnat
  have hmask : mask = 0 := UInt16.toNat_inj.mp (by
    change mask.toNat = 0
    have h : (0 : UInt32).toNat = 0 := rfl
    omega)
  rw [hmask, countOneBits_zero] at hfour
  omega

/-- A time comes back whatever the mask is. The two values that stand for no time are
stored as zero and come back as the greater one. -/
theorem challengeTime_roundTrip (v : UInt16) :
    Yields (encode v) (fun raw => decode raw = (if v = 0 then 0xFFFF else v) ∧
      (raw ≠ 0 ↔ v ≠ 0 ∧ v ≠ 0xFFFF)) fun _ => False := by
  unfold encode
  by_cases hnone : v = 0 ∨ v = 0xFFFF
  · rw [if_pos hnone]
    refine yields_pure ⟨?_, ?_⟩
    · have hmask : ((0 : UInt32) >>> 0x10).toUInt16 = 0 := rfl
      have hdecode : decode 0 = 0xFFFF := by
        rw [decode, decryptChallengeTime, hmask, countOneBits_zero, if_pos (by decide)]
      rcases hnone with rfl | rfl
      · exact hdecode
      · exact hdecode
    · rcases hnone with rfl | rfl <;> decide
  · rw [if_neg hnone]
    obtain ⟨hzero, hlast⟩ := not_or.mp hnone
    refine yields_next.bind fun byte _ => ?_
    have hbits : byte.toNat % 9 + 4 ≤ (List.range 16).length := by
      rw [List.length_range]
      omega
    refine (yields_drawMask drawn_zero hbits).bind fun mask hmask => ?_
    have hcount : countOneBits mask = byte.toNat % 9 + 4 := by
      rw [hmask, countOneBits_zero, Nat.zero_add]
    have hfour : 4 ≤ countOneBits mask := by omega
    refine yields_pure ⟨?_, ?_⟩
    · rw [if_neg hzero]
      exact decrypt_encrypted hfour (by omega)
    · exact iff_of_true (encrypted_ne_zero hfour) ⟨hzero, hlast⟩

end HuntersGuild.ChallengeTimes
