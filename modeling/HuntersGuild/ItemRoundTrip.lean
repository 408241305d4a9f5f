import HuntersGuild.ItemEncoding
import Mathlib.Data.Fintype.Basic
import Mathlib.Tactic.FinCases
import Mathlib.Tactic.IntervalCases

/-!
Items after they are encoded for a version and decoded again.
-/

namespace HuntersGuild.ItemRoundTrip

open HuntersGuild.ByteStreams
open HuntersGuild.ItemEncoding
open HuntersGuild.ItemParameters
open HuntersGuild.Items (Data1 ItemData Version getElem_withByte)

/-! ## What a write to a view leaves in the others -/

@[simp] theorem data2_withData2 (item : ItemData) (k j : Fin 4) (v : UInt8) :
    data2 (withData2 item k v) j = if k = j then v else data2 item j := by
  apply UInt8.eq_of_toBitVec_eq
  fin_cases k <;> fin_cases j <;>
  · ext i hi
    interval_cases i <;> simp [data2, withData2, byteShift]

@[simp] theorem data2_withData2w (item : ItemData) (k : Fin 2) (j : Fin 4) (v : UInt16) :
    data2 (withData2w item k v) j =
      if j.val / 2 = k.val then (v >>> .ofNat (8 * (j.val % 2))).toUInt8 else data2 item j := by
  apply UInt8.eq_of_toBitVec_eq
  fin_cases k <;> fin_cases j <;>
  · ext i hi
    interval_cases i <;> simp [data2, withData2w, byteShift, wordShift]

theorem data2w_eq (item : ItemData) (k : Fin 2) :
    data2w item k = (data2 item ⟨2 * k.val, by omega⟩).toUInt16 |||
      ((data2 item ⟨2 * k.val + 1, by omega⟩).toUInt16 <<< 8) := by
  apply UInt16.eq_of_toBitVec_eq
  fin_cases k <;>
  · ext i hi
    interval_cases i <;>
      simp [data2, data2w, byteShift, wordShift, -UInt32.toUInt16_toUInt8]

theorem or_shiftLeft_toUInt8 (v : UInt16) :
    v.toUInt8.toUInt16 ||| ((v >>> 8).toUInt8.toUInt16 <<< 8) = v := by
  apply UInt16.eq_of_toBitVec_eq
  ext i hi
  interval_cases i <;> simp [-UInt16.toUInt16_toUInt8]

@[simp] theorem data1w_withData1w (item : ItemData) (k j : Fin 6) (v : UInt16) :
    data1w (withData1w item k v) j = if k = j then v else data1w item j := by
  by_cases h : k = j
  · subst h
    simpa [data1w, withData1w, getElem_withByte, -UInt16.toUInt16_toUInt8] using or_shiftLeft_toUInt8 v
  · have hne : k.val ≠ j.val := fun heq => h (Fin.ext heq)
    simp only [data1w, withData1w, getElem_withByte, if_neg h]
    rw [if_neg (by omega), if_neg (by omega), if_neg (by omega), if_neg (by omega)]

theorem data1_withData1w (item : ItemData) {k : Fin 6} {z : Nat} (h : z / 2 ≠ k.val) (v : UInt16) :
    (withData1w item k v).data1[z] = item.data1[z] := by
  simp only [withData1w, getElem_withByte]
  rw [if_neg (by omega), if_neg (by omega)]

@[simp] theorem id_withData1w (item : ItemData) (k : Fin 6) (v : UInt16) :
    (withData1w item k v).id = item.id := rfl

@[simp] theorem data2_withData1w (item : ItemData) (k : Fin 6) (v : UInt16) (j : Fin 4) :
    data2 (withData1w item k v) j = data2 item j := rfl

@[simp] theorem data2w_withData1w (item : ItemData) (k : Fin 6) (v : UInt16) (j : Fin 2) :
    data2w (withData1w item k v) j = data2w item j := rfl

@[simp] theorem data1w_withData2 (item : ItemData) (k : Fin 4) (v : UInt8) (j : Fin 6) :
    data1w (withData2 item k v) j = data1w item j := rfl

@[simp] theorem data1w_withData2w (item : ItemData) (k : Fin 2) (v : UInt16) (j : Fin 6) :
    data1w (withData2w item k v) j = data1w item j := rfl

theorem bytes_of_data1w_eq {x y : ItemData} {k : Fin 6} (h : data1w x k = data1w y k) :
    x.data1[2 * k.val] = y.data1[2 * k.val] ∧ x.data1[2 * k.val + 1] = y.data1[2 * k.val + 1] := by
  have hbit : ∀ i : Nat, _ := fun i => congrArg (·.toBitVec.getLsbD i) h
  constructor
  · apply UInt8.eq_of_toBitVec_eq
    ext i hi
    have hi' := hbit i
    interval_cases i <;> simpa [data1w] using hi'
  · apply UInt8.eq_of_toBitVec_eq
    ext i hi
    have hi' := hbit (i + 8)
    interval_cases i <;> simpa [data1w] using hi'

/-- An item is determined by its ID and its views. -/
theorem eq_of_views {x y : ItemData} (hid : x.id = y.id) (h1 : ∀ k, data1w x k = data1w y k)
    (h2 : ∀ k, data2 x k = data2 y k) : x = y := by
  have hdata1 : x.data1 = y.data1 := by
    apply Data1.ext
    intro z hz
    obtain ⟨heven, hodd⟩ := bytes_of_data1w_eq (h1 ⟨z / 2, by omega⟩)
    rcases Nat.mod_two_eq_zero_or_one z with hmod | hmod
    · simpa [show 2 * (z / 2) = z by omega] using heven
    · simpa [show 2 * (z / 2) + 1 = z by omega] using hodd
  have hdata2 : x.data2d = y.data2d := by
    apply UInt32.eq_of_toBitVec_eq
    ext i hi
    have hi' := congrArg (·.toBitVec.getLsbD (i % 8)) (h2 ⟨i / 8, by omega⟩)
    interval_cases i <;> simpa [data2, byteShift] using hi'
  cases x
  cases y
  simp_all

theorem bswap32_bswap32 (v : UInt32) : bswap32 (bswap32 v) = v := by
  apply UInt32.eq_of_toBitVec_eq
  ext i hi
  interval_cases i <;> simp [bswap32]

@[simp] theorem data2w_withData2w (item : ItemData) (k j : Fin 2) (v : UInt16) :
    data2w (withData2w item k v) j = if k = j then v else data2w item j := by
  rw [data2w_eq, data2w_eq]
  have h := or_shiftLeft_toUInt8 v
  fin_cases k <;> fin_cases j <;> simp_all [-UInt16.toUInt16_toUInt8]

@[simp] theorem data2w_withData2 (item : ItemData) (k : Fin 4) (j : Fin 2) (v : UInt8)
    (h : k.val / 2 ≠ j.val) : data2w (withData2 item k v) j = data2w item j := by
  rw [data2w_eq, data2w_eq]
  fin_cases k <;> fin_cases j <;> simp_all

/-! ## Mags

The older clients keep the color and the flags in bits that a neutral mag leaves
clear. -/

theorem lowBit_of_even {w : UInt16} (h : w % 2 = 0) : w.toBitVec.getLsbD 0 = false := by
  have hmod := congrArg UInt16.toNat h
  simpa [BitVec.getLsbD] using hmod

theorem highBit_of_lt {w : UInt16} (h : w < 0x8000) : w.toBitVec.getLsbD 15 = false := by
  have hlt : w.toNat < 2 ^ 15 := h
  simpa [BitVec.getLsbD] using Nat.testBit_lt_two_pow hlt

theorem bit_of_lt {v bound : UInt8} (h : v < bound) {k i : Nat} (hbound : bound.toNat = 2 ^ k)
    (hi : k ≤ i) : v.toBitVec.getLsbD i = false := by
  have hlt : v.toNat < 2 ^ k := hbound ▸ h
  exact Nat.testBit_lt_two_pow (hlt.trans_le (Nat.pow_le_pow_right (by decide) hi))

theorem unpack_stat {w : UInt16} (hlt : w < 0x8000) (heven : w % 2 = 0) (a b : UInt16) :
    ((w &&& 0x7FFE) ||| (a &&& 0x8000) ||| (b &&& 1)) &&& 0x7FFE = w := by
  have hlow := lowBit_of_even heven
  have hhigh := highBit_of_lt hlt
  apply UInt16.eq_of_toBitVec_eq
  ext i hi
  interval_cases i <;> simp_all

theorem unpack_evenStat {w : UInt16} (heven : w % 2 = 0) (b : UInt16) :
    ((w &&& 0xFFFE) ||| (b &&& 1)) &&& 0xFFFE = w := by
  have hlow := lowBit_of_even heven
  apply UInt16.eq_of_toBitVec_eq
  ext i hi
  interval_cases i <;> simp_all

/-- The flags are read from the numbers into which they were written. -/
theorem photonBlastFlags_eq {flags : UInt8} (h : flags < 8) (w v a b : UInt16) (x : UInt8) :
    photonBlastFlags
        ((x.toUInt16 ||| ((flags.toUInt16 <<< (15 : UInt16)) &&& 0x8000)) >>> 8).toUInt8
        ((w &&& 0x7FFE) ||| ((flags.toUInt16 <<< (14 : UInt16)) &&& 0x8000) ||| (a &&& 1))
        ((v &&& 0x7FFE) ||| ((flags.toUInt16 <<< (13 : UInt16)) &&& 0x8000) ||| (b &&& 1)) =
      flags := by
  have hbit : ∀ i ≥ 3, flags.toBitVec.getLsbD i = false := fun i hi => bit_of_lt h rfl hi
  have h3 := hbit 3 (by decide)
  have h4 := hbit 4 (by decide)
  have h5 := hbit 5 (by decide)
  have h6 := hbit 6 (by decide)
  have h7 := hbit 7 (by decide)
  clear hbit h
  apply UInt8.eq_of_toBitVec_eq
  ext i hi
  interval_cases i <;> simp_all [photonBlastFlags]

theorem color_eq {c : UInt8} (h : c < 16) (w v y z a b : UInt16) :
    color ((w &&& 0x7FFE) ||| (a &&& 0x8000) ||| (c.toUInt16 &&& 1))
        ((v &&& 0x7FFE) ||| (b &&& 0x8000) ||| ((c.toUInt16 >>> (1 : UInt16)) &&& 1))
        ((y &&& 0xFFFE) ||| ((c.toUInt16 >>> (2 : UInt16)) &&& 1))
        ((z &&& 0xFFFE) ||| ((c.toUInt16 >>> (3 : UInt16)) &&& 1)) = c := by
  have hbit : ∀ i ≥ 4, c.toBitVec.getLsbD i = false := fun i hi => bit_of_lt h rfl hi
  have h4 := hbit 4 (by decide)
  have h5 := hbit 5 (by decide)
  have h6 := hbit 6 (by decide)
  have h7 := hbit 7 (by decide)
  clear hbit h
  apply UInt8.eq_of_toBitVec_eq
  ext i hi
  interval_cases i <;> simp_all [color]

theorem synchro_eq (x flags : UInt8) :
    ((x.toUInt16 ||| ((flags.toUInt16 <<< (15 : UInt16)) &&& 0x8000)) &&& 0x7FFF).toUInt8 = x := by
  apply UInt8.eq_of_toBitVec_eq
  ext i hi
  interval_cases i <;> simp

/-- The numbers of a mag that the older clients have no bits for. -/
structure NeutralMag (item : ItemData) : Prop where
  even : ∀ k ≥ 2, data1w item k % 2 = 0
  defense : data1w item 2 < 0x8000
  power : data1w item 3 < 0x8000
  flags : data2 item 2 < 8
  color : data2 item 3 < 16
  level : item.data1[2] ≤ 0xC8
  numbered : item.data1[1] > 0x2B → item.data1[2] = 0xC8

theorem id_packMag (item : ItemData) : (packMag item).id = item.id := by
  simp only [packMag, withData1w, withData2w, Items.id_withByte]

theorem id_unpackMag (item : ItemData) : (unpackMag item).id = item.id := by
  simp only [unpackMag, withData1w, withData2, Items.id_withByte]

/-- The numbers of a mag in the form for older clients. -/
theorem data1w_packMag (item : ItemData) :
    data1w (packMag item) 2 = ((data1w item 2 &&& 0x7FFE) |||
        (((data2 item 2).toUInt16 <<< (14 : UInt16)) &&& 0x8000) |||
        ((data2 item 3).toUInt16 &&& 1)) ∧
      data1w (packMag item) 3 = ((data1w item 3 &&& 0x7FFE) |||
        (((data2 item 2).toUInt16 <<< (13 : UInt16)) &&& 0x8000) |||
        (((data2 item 3).toUInt16 >>> (1 : UInt16)) &&& 1)) ∧
      data1w (packMag item) 4 = ((data1w item 4 &&& 0xFFFE) |||
        (((data2 item 3).toUInt16 >>> (2 : UInt16)) &&& 1)) ∧
      data1w (packMag item) 5 = ((data1w item 5 &&& 0xFFFE) |||
        (((data2 item 3).toUInt16 >>> (3 : UInt16)) &&& 1)) := by
  simp [packMag]

theorem data1w_packMag_of_lt (item : ItemData) {k : Fin 6} (hk : k < 2) :
    data1w (packMag item) k = data1w item k := by
  have hne : 2 ≠ k ∧ 3 ≠ k ∧ 4 ≠ k ∧ 5 ≠ k := by omega
  simp [packMag, hne]

theorem data2w_packMag (item : ItemData) :
    data2w (packMag item) 0 = (data2 item 1).toUInt16 ∧
      data2w (packMag item) 1 =
        (data2 item 0).toUInt16 ||| (((data2 item 2).toUInt16 <<< (15 : UInt16)) &&& 0x8000) := by
  simp [packMag]

theorem data2_three (item : ItemData) : data2 item 3 = (data2w item 1 >>> 8).toUInt8 := by
  apply UInt8.eq_of_toBitVec_eq
  ext i hi
  interval_cases i <;> simp [data2, data2w, byteShift, wordShift]

def statMask (k : Fin 6) : UInt16 :=
  if k < 2 then 0xFFFF else if k < 4 then 0x7FFE else 0xFFFE

theorem statMask_of_lt {k : Fin 6} (hk : k < 2) : statMask k = 0xFFFF := if_pos hk

theorem and_mask (w : UInt16) : w &&& 0xFFFF = w := by
  apply UInt16.eq_of_toBitVec_eq
  exact BitVec.and_allOnes

theorem data1w_unpackMag (item : ItemData) (k : Fin 6) :
    data1w (unpackMag item) k = data1w item k &&& statMask k := by
  fin_cases k <;> simp [unpackMag, statMask, and_mask]

theorem data2_unpackMag (item : ItemData) :
    data2 (unpackMag item) 0 = (data2w item 1 &&& 0x7FFF).toUInt8 ∧
      data2 (unpackMag item) 1 = (data2w item 0).toUInt8 ∧
      data2 (unpackMag item) 2 =
        photonBlastFlags (data2 item 3) (data1w item 2) (data1w item 3) ∧
      data2 (unpackMag item) 3 =
        color (data1w item 2) (data1w item 3) (data1w item 4) (data1w item 5) := by
  simp [unpackMag]

theorem unpackMag_packMag {item : ItemData} (h : NeutralMag item) :
    unpackMag (packMag item) = item := by
  obtain ⟨h2, h3, h4, h5⟩ := data1w_packMag item
  obtain ⟨hiq, hsynchro⟩ := data2w_packMag item
  obtain ⟨hu0, hu1, hu2, hu3⟩ := data2_unpackMag (packMag item)
  apply eq_of_views
  · rw [id_unpackMag, id_packMag]
  · intro k
    rw [data1w_unpackMag]
    match k with
    | 0 => rw [data1w_packMag_of_lt item (by decide), statMask_of_lt (by decide), and_mask]
    | 1 => rw [data1w_packMag_of_lt item (by decide), statMask_of_lt (by decide), and_mask]
    | 2 => rw [h2]; exact unpack_stat h.defense (h.even 2 (by decide)) _ _
    | 3 => rw [h3]; exact unpack_stat h.power (h.even 3 (by decide)) _ _
    | 4 => rw [h4]; exact unpack_evenStat (h.even 4 (by decide)) _
    | 5 => rw [h5]; exact unpack_evenStat (h.even 5 (by decide)) _
  · intro k
    match k with
    | 0 => rw [hu0, hsynchro, synchro_eq]
    | 1 => rw [hu1, hiq, UInt8.toUInt8_toUInt16]
    | 2 =>
        rw [hu2, data2_three, hsynchro, h2, h3]
        exact photonBlastFlags_eq h.flags _ _ _ _ _
    | 3 =>
        rw [hu3, h2, h3, h4, h5]
        exact color_eq h.color _ _ _ _ _ _

/-! ## Numbers that are moved -/

theorem eq_of_bytes {x y : ItemData} (hid : x.id = y.id) (h2 : x.data2d = y.data2d)
    (h1 : ∀ z (hz : z < 12), x.data1[z] = y.data1[z]) : x = y := by
  have hdata1 : x.data1 = y.data1 := Data1.ext h1
  cases x
  cases y
  simp_all

@[simp] theorem withByte_withByte (item : ItemData) (z : Fin 12) (v w : UInt8) :
    (item.withByte z v).withByte z w = item.withByte z w := by
  apply eq_of_bytes
  · rfl
  · rfl
  · intro i hi
    simp only [getElem_withByte]
    split <;> rfl

theorem withByte_comm (item : ItemData) {y z : Fin 12} (hne : y ≠ z) (v w : UInt8) :
    (item.withByte y v).withByte z w = (item.withByte z w).withByte y v := by
  apply eq_of_bytes
  · rfl
  · rfl
  · intro i hi
    simp only [getElem_withByte]
    split_ifs with hz hy
    · exact absurd (Fin.ext (hy.trans hz.symm)) hne
    all_goals rfl

/-- A byte that is put where it is already. -/
theorem withByte_of_eq {item : ItemData} {z : Fin 12} {v : UInt8} (h : item.data1[z] = v) :
    item.withByte z v = item := by
  apply eq_of_bytes
  · rfl
  · rfl
  · intro i hi
    rw [getElem_withByte, ← h]
    split_ifs with hz
    · subst hz
      rfl
    · rfl

/-- The encoded form of a weapon: its number is in another byte, and what is in
its place is below it and tells the decoder which byte that is. -/
structure Moved (item encoded : ItemData) : Prop where
  weapon : encoded.data1[0] = 0
  number : encoded.data1[5] = item.data1[1]
  below : encoded.data1[1] < encoded.data1[5]
  marked : encoded.data1[5] ≥ 0x89 → encoded.data1[1] = 0x0F
  rest : (encoded.withByte 5 0).withByte 1 item.data1[1] = item

theorem Moved.of_replacement {item : ItemData} (h0 : item.data1[0] = 0) (h5 : item.data1[5] = 0)
    {replacement : UInt8} (hbelow : replacement < item.data1[1])
    (hmarked : item.data1[1] ≥ 0x89 → replacement = 0x0F) :
    Moved item ((item.withByte 5 item.data1[1]).withByte 1 replacement) where
  weapon := by simpa using h0
  number := by simp
  below := by simpa using hbelow
  marked := by simpa using hmarked
  rest := by
    have hfive : item.withByte 5 0 = item := withByte_of_eq h5
    rw [withByte_comm _ (by decide : (1 : Fin 12) ≠ 5), withByte_withByte, withByte_withByte, hfive]
    exact withByte_of_eq rfl

/-- The replacement of each weapon that the first version lacks is below it. -/
def ReplacementsBelow (table : ItemParameterTable) : Prop :=
  ∀ data1_1 : UInt8, data1_1 > 0x26 → data1_1 < 0x89 →
    ∃ replacement, getWeaponV1Replacement table data1_1 = .ok replacement ∧ replacement < data1_1

theorem exists_encodeWeapon {table : ItemParameterTable} (htable : ReplacementsBelow table)
    {item : ItemData} (h0 : item.data1[0] = 0) (hnumber : item.data1[1] > 0x26)
    (h5 : item.data1[5] = 0) :
    ∃ encoded, encodeWeapon table item = .ok encoded ∧ Moved item encoded := by
  have hmark : (0x0F : UInt8) < item.data1[1] := by
    simp only [gt_iff_lt, UInt8.lt_iff_toNat_lt] at hnumber ⊢
    exact Nat.lt_trans (by decide) hnumber
  unfold encodeWeapon
  rw [if_pos hnumber]
  by_cases hlt : item.data1[1] < 0x89
  · rw [if_pos hlt]
    obtain ⟨replacement, hget, hbelow⟩ := htable _ hnumber hlt
    have hnotMarked : ¬ item.data1[1] ≥ 0x89 := UInt8.not_le.mpr hlt
    by_cases hzero : replacement = 0
    · refine ⟨_, ?_, Moved.of_replacement h0 h5 hmark fun _ => rfl⟩
      simp [hget, hzero]
    · refine ⟨_, ?_, Moved.of_replacement h0 h5 hbelow fun hge => absurd hge hnotMarked⟩
      simp [hget, hzero]
  · rw [if_neg hlt]
    refine ⟨_, ?_, Moved.of_replacement h0 h5 hmark fun _ => rfl⟩
    have hpos : item.data1[1] > 0 := UInt8.pos_iff_ne_zero.mpr fun h => by simp [h] at hnumber
    simp only [h5, hpos, if_true, ne_eq, not_true_eq_false, if_false]
    rfl

/-! ## Each class of items -/

/-- What a client's item is after it was sent to the client and back. -/
def sentBack (version : Version) (table : Option ItemParameterTable) (item : ItemData) :
    Except Exception ItemData := do
  decodeForVersion version (← encodeForVersion version table item)

theorem sentBack_of_ok {version : Version} {table : Option ItemParameterTable}
    {item encoded : ItemData} (h : encodeForVersion version table item = .ok encoded) :
    sentBack version table item = decodeForVersion version encoded := by
  rw [sentBack, h]
  rfl

theorem decode_moved {version : Version} (hmoves : movesNumbers version = true)
    {item encoded : ItemData} (h : Moved item encoded) :
    decodeForVersion version encoded = .ok item := by
  have henc : getEncodedV2Data encoded = item.data1[1] := by
    rw [getEncodedV2Data, if_pos h.weapon, h.number]
  have hhas : hasEncodedV2Data encoded = true := by
    rw [hasEncodedV2Data, if_pos h.weapon, henc, ← h.number]
    exact decide_eq_true h.below
  have hne : item.data1[1] ≠ 0 := fun hzero =>
    absurd (hzero ▸ h.number ▸ h.below) UInt8.not_lt_zero
  have hreset : getEncodedV2Data encoded < 0x89 ∨ encoded.data1[1] = 0x0F := by
    rw [henc, ← h.number]
    exact (UInt8.lt_or_le _ _).imp_right h.marked
  rw [decodeForVersion, if_pos h.weapon]
  simp only [hmoves, hhas, henc, ne_eq, hne, not_false_eq_true, decide_true, Bool.and_self, if_true]
  rw [decodeWeapon, if_pos (henc ▸ hreset), h.rest]

theorem sentBack_weapon_iff {version : Version} {table : Option ItemParameterTable}
    (htable : ∀ t, table = some t → ReplacementsBelow t) {item : ItemData}
    (h0 : item.data1[0] = 0) (h5 : item.data1[1] > 0x26 → item.data1[5] = 0) :
    sentBack version table item = .ok item ↔
      (movesNumbers version = true → item.data1[1] ≤ 0x26 → item.data1[5] ≤ item.data1[1]) := by
  by_cases hmoves : movesNumbers version = true
  swap
  · simp [sentBack, encodeForVersion, decodeForVersion, h0, hmoves]
  by_cases hnumber : item.data1[1] > 0x26
  · have hsmall : ¬ item.data1[1] ≤ 0x26 := UInt8.not_le.mpr hnumber
    have hhas : hasEncodedV2Data item = false := by
      simp [hasEncodedV2Data, getEncodedV2Data, h0, h5 hnumber]
    simp only [hmoves, hsmall, false_implies, implies_true, iff_true]
    cases ht : table with
    | none =>
        simp [sentBack, encodeForVersion, decodeForVersion, h0, hhas]
    | some t =>
        obtain ⟨encoded, hencode, hmoved⟩ := exists_encodeWeapon (htable t ht) h0 hnumber (h5 hnumber)
        have hsent : encodeForVersion version (some t) item = .ok encoded := by
          simpa [encodeForVersion, h0, hmoves, hhas] using hencode
        rw [sentBack, hsent]
        exact decode_moved hmoves hmoved
  · have hsmall : item.data1[1] ≤ 0x26 := UInt8.not_lt.mp hnumber
    have hsent : encodeForVersion version table item = .ok item := by
      unfold encodeForVersion
      rw [if_pos h0]
      split
      · rw [encodeWeapon, if_neg hnumber]
        rfl
      · rfl
    have hback : sentBack version table item = decodeForVersion version item := by
      rw [sentBack, hsent]
      rfl
    simp only [hback, hmoves, hsmall, true_implies]
    rw [decodeForVersion, if_pos h0]
    have henc : getEncodedV2Data item = item.data1[5] := if_pos h0
    have hhas : hasEncodedV2Data item = decide (item.data1[1] < item.data1[5]) := by
      rw [hasEncodedV2Data, if_pos h0, henc]
    by_cases hlt : item.data1[1] < item.data1[5]
    · have hne : item.data1[5] ≠ 0 := UInt8.pos_iff_ne_zero.mp (UInt8.lt_of_le_of_lt UInt8.zero_le hlt)
      simp only [hmoves, hhas, henc, hlt, ne_eq, hne, not_false_eq_true, decide_true, Bool.and_self,
        if_true, UInt8.not_le.mpr hlt, iff_false]
      intro h
      -- the byte that tells the number has become the number
      have hone := congrArg (fun d : ItemData => d.data1[1]) (Except.ok.inj h)
      rw [decodeWeapon, getElem_withByte, if_pos (by decide)] at hone
      exact absurd hone (UInt8.ne_of_lt hlt).symm
    · simp [hhas, hlt, UInt8.not_lt.mp hlt]

theorem encodeArmor_of_gt {item : ItemData} (h : item.data1[1] > 3) :
    encodeArmor item = .error .undefined := by
  have hlength : armorLimits[item.data1[1].toNat]? = none := List.getElem?_eq_none_iff.mpr h
  rw [encodeArmor, hlength]

theorem exists_encodeArmor {item : ItemData} (h : item.data1[1] ≤ 3) :
    encodeArmor item = .ok item ∨
      encodeArmor item = .ok ((item.withByte 3 item.data1[2]).withByte 2 0) := by
  have hlength : item.data1[1].toNat < armorLimits.length := Nat.lt_succ_of_le h
  rw [encodeArmor, List.getElem?_eq_getElem hlength]
  dsimp only
  split
  · exact .inr rfl
  · exact .inl rfl

theorem decode_movedArmor {version : Version} (hmoves : movesNumbers version = true)
    {item : ItemData} (h0 : item.data1[0] = 1) (h3 : item.data1[3] = 0) :
    decodeForVersion version ((item.withByte 3 item.data1[2]).withByte 2 0) = .ok item := by
  by_cases hzero : item.data1[2] = 0
  · have hthree : item.withByte 3 item.data1[2] = item := withByte_of_eq (h3.trans hzero.symm)
    rw [hthree, withByte_of_eq hzero]
    simp [decodeForVersion, getEncodedV2Data, h0, h3]
  · have hrest : (((item.withByte 3 item.data1[2]).withByte 2 0).withByte 3 0).withByte 2
        item.data1[2] = item := by
      have hthree : item.withByte 3 0 = item := withByte_of_eq h3
      rw [withByte_comm _ (by decide : (2 : Fin 12) ≠ 3), withByte_withByte, withByte_withByte, hthree]
      exact withByte_of_eq rfl
    simpa [decodeForVersion, getEncodedV2Data, hasEncodedV2Data, h0, hmoves, hzero, decodeArmor]
      using hrest

theorem sentBack_armor_iff (version : Version) (table : Option ItemParameterTable) {item : ItemData}
    (h0 : item.data1[0] = 1) (h3 : item.data1[3] = 0) :
    sentBack version table item = .ok item ↔
      (movesNumbers version = true → table.isSome → item.data1[1] ≤ 3) := by
  have hhas : hasEncodedV2Data item = false := by simp [hasEncodedV2Data, getEncodedV2Data, h0, h3]
  by_cases hmoves : movesNumbers version = true
  swap
  · simp [sentBack, encodeForVersion, decodeForVersion, h0, hmoves]
  cases table with
  | none =>
      simp [sentBack, encodeForVersion, decodeForVersion, h0, hhas]
  | some t =>
      have hsent : encodeForVersion version (some t) item = encodeArmor item := by
        simp [encodeForVersion, h0, hmoves, hhas]
      have hself : decodeForVersion version item = .ok item := by
        simp [decodeForVersion, h0, hhas]
      simp only [sentBack, hsent, hmoves, Option.isSome_some, true_implies]
      by_cases hle : item.data1[1] ≤ 3
      · simp only [hle, iff_true]
        rcases exists_encodeArmor hle with heq | heq
        · rw [heq]
          exact hself
        · rw [heq]
          exact decode_movedArmor hmoves h0 h3
      · rw [encodeArmor_of_gt (UInt8.not_le.mp hle)]
        simp only [hle, iff_false]
        exact nofun

theorem decode_tool {version : Version} (hmoves : movesNumbers version = true)
    {encoded : ItemData} (h0 : encoded.data1[0] = 3) (h3 : encoded.data1[3] ≠ 0) :
    decodeForVersion version encoded = .ok (decodeTool encoded.data1[3] encoded) := by
  simp [decodeForVersion, getEncodedV2Data, hasEncodedV2Data, h0, hmoves, h3]

theorem decode_encodeTool {version : Version} (hmoves : movesNumbers version = true)
    {item : ItemData} (h0 : item.data1[0] = 3) (h3 : item.data1[3] = 0) (h6 : item.data1[6] = 0)
    (h2 : item.data1[2] < 0xFF) : decodeForVersion version (encodeTool item) = .ok item := by
  have hself : decodeForVersion version item = .ok item := by
    simp [decodeForVersion, getEncodedV2Data, h0, h3]
  have hsucc : item.data1[2] + 1 ≠ 0 := by
    intro hzero
    have hlast : item.data1[2] = 0xFF := by grind
    exact absurd (hlast ▸ h2) (by decide)
  unfold encodeTool
  split
  · rename_i h1
    split
    · rename_i hgt
      have hsub : item.data1[2] - 0x0E ≠ 0 := by
        intro hzero
        have hfirst : item.data1[2] = 0x0E := by grind
        exact absurd (hfirst ▸ hgt) (by decide)
      rw [decode_tool hmoves (by simpa using h0) (by simpa using hsub)]
      refine congrArg Except.ok ?_
      simp only [decodeTool]
      apply eq_of_bytes
      · simp [h1]
      · simp [h1]
      · intro z hz
        interval_cases z <;> simp [h1, h3]
    · exact hself
  · split
    · rename_i h1
      rw [decode_tool hmoves (by simpa using h0) (by simpa using hsucc)]
      refine congrArg Except.ok ?_
      simp only [decodeTool]
      apply eq_of_bytes
      · simp
      · simp
      · intro z hz
        interval_cases z <;> simp [h1, h3]
    · split
      · rw [decode_tool hmoves (by simpa using h0) (by simpa using hsucc)]
        refine congrArg Except.ok ?_
        simp only [decodeTool]
        apply eq_of_bytes
        · simp
        · simp
        · intro z hz
          interval_cases z <;> simp [h3, h6]
      · exact hself

theorem sentBack_tool (version : Version) (table : Option ItemParameterTable) {item : ItemData}
    (h0 : item.data1[0] = 3) (h3 : item.data1[3] = 0) (h6 : item.data1[6] = 0)
    (h2 : item.data1[2] < 0xFF) : sentBack version table item = .ok item := by
  have hhas : hasEncodedV2Data item = false := by simp [hasEncodedV2Data, getEncodedV2Data, h0, h3]
  have hself : decodeForVersion version item = .ok item := by
    simp [decodeForVersion, h0, hhas]
  by_cases hmoved : movesNumbers version = true ∧ table.isSome
  swap
  · have hnone : (if movesNumbers version then table else none) = none := by
      cases table with
      | none => exact ite_self none
      | some t => simpa using hmoved
    simpa [sentBack, encodeForVersion, h0, hhas, hnone] using hself
  obtain ⟨hmoves, htable⟩ := hmoved
  have hsent : encodeForVersion version table item = .ok (encodeTool item) := by
    simp [encodeForVersion, h0, hmoves, hhas, htable]
  rw [sentBack, hsent]
  exact decode_encodeTool hmoves h0 h3 h6 h2

/-! The packing of a mag does not use its number and its level. -/

theorem data1w_withByte (item : ItemData) {z : Fin 12} {k : Fin 6} (h : z.val / 2 ≠ k.val)
    (v : UInt8) : data1w (item.withByte z v) k = data1w item k := by
  have hz := z.isLt
  simp only [data1w, getElem_withByte]
  rw [if_neg (by omega), if_neg (by omega)]

theorem withData1w_withByte (item : ItemData) {z : Fin 12} {k : Fin 6} (h : z.val / 2 ≠ k.val)
    (v : UInt8) (w : UInt16) :
    withData1w (item.withByte z v) k w = (withData1w item k w).withByte z v := by
  apply eq_of_bytes
  · rfl
  · rfl
  · intro i hi
    simp only [withData1w, getElem_withByte]
    split_ifs <;> first | rfl | omega

theorem packMag_withByte (item : ItemData) {z : Fin 12} (hz : z.val < 4) (v : UInt8) :
    packMag (item.withByte z v) = (packMag item).withByte z v := by
  have hne : ∀ k : Fin 6, 2 ≤ k.val → z.val / 2 ≠ k.val := fun k hk => by omega
  have h2 := hne 2 (by decide)
  have h3 := hne 3 (by decide)
  have h4 := hne 4 (by decide)
  have h5 := hne 5 (by decide)
  have hword : ∀ (d : ItemData) (k : Fin 2) (w : UInt16),
      withData2w (d.withByte z v) k w = (withData2w d k w).withByte z v := fun _ _ _ => rfl
  have hbyte : ∀ (d : ItemData) (k : Fin 4), data2 (d.withByte z v) k = data2 d k := fun _ _ => rfl
  simp only [packMag, hword, hbyte, data1w_withByte _ h2, data1w_withByte _ h3, data1w_withByte _ h4,
    data1w_withByte _ h5, withData1w_withByte _ h2, withData1w_withByte _ h3,
    withData1w_withByte _ h4, withData1w_withByte _ h5]

theorem data1_packMag (item : ItemData) {z : Nat} (hz : z < 4) :
    (packMag item).data1[z] = item.data1[z] := by
  have hword : (⟨z / 2, by omega⟩ : Fin 6) < 2 := by
    show z / 2 < 2
    omega
  have hbytes := bytes_of_data1w_eq (data1w_packMag_of_lt item hword)
  rcases Nat.mod_two_eq_zero_or_one z with hmod | hmod
  · simpa [show 2 * (z / 2) = z by omega] using hbytes.1
  · simpa [show 2 * (z / 2) + 1 = z by omega] using hbytes.2

theorem NeutralMag.withNumber {item : ItemData} (h : NeutralMag item) {number level : UInt8}
    (hlevel : level ≤ 0xC8) (hnumber : number ≤ 0x2B) :
    NeutralMag ((item.withByte 2 level).withByte 1 number) := by
  have hstat : ∀ k : Fin 6, 2 ≤ k →
      data1w ((item.withByte 2 level).withByte 1 number) k = data1w item k := by
    intro k hk
    rw [data1w_withByte _ (by show 1 / 2 ≠ k.val; omega),
      data1w_withByte _ (by show 2 / 2 ≠ k.val; omega)]
  constructor
  · intro k hk
    rw [hstat k hk]
    exact h.even k hk
  · rw [hstat 2 (by decide)]
    exact h.defense
  · rw [hstat 3 (by decide)]
    exact h.power
  · exact h.flags
  · exact h.color
  · simpa using hlevel
  · intro hgt
    exact absurd hnumber (UInt8.not_le.mpr (by simpa using hgt))

theorem decodeMag_packMag (encodedV2Data : UInt8) (item : ItemData) :
    decodeMag encodedV2Data (packMag item) = packMag (decodeMag encodedV2Data item) := by
  rw [decodeMag, decodeMag, packMag_withByte _ (by decide), packMag_withByte _ (by decide)]

theorem older_of_movesNumbers {version : Version} (h : movesNumbers version = true) :
    (isV1 version || isV2 version) = true :=
  (Bool.and_eq_true_iff.mp h).1

theorem decode_packMag {version : Version} (hmoves : movesNumbers version = true)
    {item : ItemData} (h0 : item.data1[0] = 2) :
    decodeForVersion version (packMag item) =
      .ok (unpackMag (packMag (if item.data1[2] > 0xC8 then
        decodeMag (item.data1[2] + 0x38) item else item))) := by
  have hclass : (packMag item).data1[0] = 2 := (data1_packMag item (by decide)).trans h0
  have hlevel : (packMag item).data1[2] = item.data1[2] := data1_packMag item (by decide)
  have holder := older_of_movesNumbers hmoves
  by_cases hgt : item.data1[2] > 0xC8
  · have hne : item.data1[2] + 0x38 ≠ 0 := by
      intro hzero
      have heq : item.data1[2] = 0xC8 := by grind
      exact absurd (heq ▸ hgt) (by decide)
    simp [decodeForVersion, getEncodedV2Data, hasEncodedV2Data, hclass, hlevel, hmoves, hgt, hne,
      decodeMag_packMag, -Bool.or_eq_true, holder]
  · simp [decodeForVersion, getEncodedV2Data, hclass, hlevel, hgt, -Bool.or_eq_true, holder]

theorem unpack_encodeMag_iff {item : ItemData} (h : NeutralMag item) :
    Except.ok (unpackMag (packMag (if (encodeMag item).data1[2] > 0xC8 then
        decodeMag ((encodeMag item).data1[2] + 0x38) (encodeMag item) else encodeMag item))) =
      (Except.ok item : Except Exception ItemData) ↔ item.data1[1] < 0x63 := by
  have hlow : ¬ item.data1[2] > 0xC8 := UInt8.not_lt.mpr h.level
  by_cases hnumber : item.data1[1] > 0x2B
  swap
  · have hlt : item.data1[1] < 0x63 :=
      UInt8.lt_of_le_of_lt (UInt8.not_lt.mp hnumber) (by decide)
    rw [encodeMag, if_neg hnumber, if_neg hlow, unpackMag_packMag h]
    simp [hlt]
  have hencode : encodeMag item = (item.withByte 2 (item.data1[1] - 0x2B - 0x38)).withByte 1 0 :=
    if_pos hnumber
  have hlevel : (encodeMag item).data1[2] = item.data1[1] - 0x2B - 0x38 := by
    rw [hencode]
    simp
  have hnat : item.data1[1].toNat > 0x2B := hnumber
  have hmax := item.data1[1].toNat_lt
  have hsub : (item.data1[1] - 0x2B - 0x38).toNat = (item.data1[1].toNat + (256 - 0x63)) % 256 := by
    simp [UInt8.toNat_sub]
    omega
  by_cases hlt : item.data1[1] < 0x63
  · have hltNat : item.data1[1].toNat < 0x63 := hlt
    have hgt : item.data1[1] - 0x2B - 0x38 > 0xC8 := by
      show 0xC8 < (item.data1[1] - 0x2B - 0x38).toNat
      omega
    have hback : decodeMag (item.data1[1] - 0x2B - 0x38 + 0x38) (encodeMag item) = item := by
      have htwo : item.withByte 2 0xC8 = item := withByte_of_eq (h.numbered hnumber)
      rw [hencode, decodeMag, withByte_comm _ (by decide : (1 : Fin 12) ≠ 2), withByte_withByte,
        withByte_withByte, htwo]
      apply withByte_of_eq
      rw [UInt8.sub_add_cancel, UInt8.sub_add_cancel]
      rfl
    rw [hlevel, if_pos hgt, hback, unpackMag_packMag h]
    simp [hlt]
  · have hgeNat : 0x63 ≤ item.data1[1].toNat := UInt8.not_lt.mp hlt
    have hle : item.data1[1] - 0x2B - 0x38 ≤ 0xC8 := by
      show (item.data1[1] - 0x2B - 0x38).toNat ≤ 0xC8
      omega
    rw [hlevel, if_neg (UInt8.not_lt.mpr hle), hencode,
      unpackMag_packMag (h.withNumber hle (by decide))]
    refine iff_of_false (fun heq => ?_) hlt
    have hone : (0 : UInt8) = item.data1[1] := by
      simpa using congrArg (fun d : ItemData => d.data1[1]) (Except.ok.inj heq)
    rw [← hone] at hnumber
    exact absurd hnumber (by decide)

theorem sentBack_mag_iff (version : Version) (table : Option ItemParameterTable) {item : ItemData}
    (h0 : item.data1[0] = 2) (h : NeutralMag item) :
    sentBack version table item = .ok item ↔
      (movesNumbers version = true → table.isSome → item.data1[1] < 0x63) := by
  have hlow : ¬ item.data1[2] > 0xC8 := UInt8.not_lt.mpr h.level
  have hhas : hasEncodedV2Data item = false := by
    simp [hasEncodedV2Data, getEncodedV2Data, h0, hlow]
  by_cases hmoves : movesNumbers version = true
  swap
  · refine iff_of_true ?_ fun h => absurd h hmoves
    by_cases holder : (isV1 version || isV2 version) = true
    · have hclass : (packMag item).data1[0] = 2 := (data1_packMag item (by decide)).trans h0
      simp [sentBack, encodeForVersion, decodeForVersion, h0, hmoves, hclass, -Bool.or_eq_true,
        holder, unpackMag_packMag h]
    · by_cases hbig : isBigEndian version = true
      · simp [sentBack, encodeForVersion, decodeForVersion, h0, hmoves, -Bool.or_eq_true, holder,
          hbig, bswap32_bswap32]
      · simp [sentBack, encodeForVersion, decodeForVersion, h0, hmoves, -Bool.or_eq_true, holder,
          hbig]
  have holder := older_of_movesNumbers hmoves
  cases table with
  | none =>
      simp only [Option.isSome_none, Bool.false_eq_true, false_implies, implies_true, iff_true]
      have hsent : encodeForVersion version none item = .ok (packMag item) := by
        simp [encodeForVersion, h0, -Bool.or_eq_true, holder]
      rw [sentBack_of_ok hsent, decode_packMag hmoves h0, if_neg hlow, unpackMag_packMag h]
  | some t =>
      simp only [hmoves, Option.isSome_some, true_implies]
      have hsent : encodeForVersion version (some t) item = .ok (packMag (encodeMag item)) := by
        simp [encodeForVersion, h0, hhas, hmoves, -Bool.or_eq_true, holder]
      have hencoded : (encodeMag item).data1[0] = 2 := by
        unfold encodeMag
        split
        · simpa using h0
        · exact h0
      rw [sentBack_of_ok hsent, decode_packMag hmoves hencoded]
      exact unpack_encodeMag_iff h

/-! ## All items -/

/-- The bytes that the older formats cannot carry have no meaning for the item. -/
structure Neutral (item : ItemData) : Prop where
  weapon : item.data1[0] = 0 → item.data1[1] > 0x26 → item.data1[5] = 0
  armor : item.data1[0] = 1 → item.data1[3] = 0
  mag : item.data1[0] = 2 → NeutralMag item
  tool : item.data1[0] = 3 → item.data1[3] = 0 ∧ item.data1[6] = 0 ∧ item.data1[2] < 0xFF

/-- The item is told apart from the items whose numbers were moved. -/
structure Distinguishable (version : Version) (table : Option ItemParameterTable)
    (item : ItemData) : Prop where
  weapon : item.data1[0] = 0 → movesNumbers version = true → item.data1[1] ≤ 0x26 →
    item.data1[5] ≤ item.data1[1]
  armor : item.data1[0] = 1 → movesNumbers version = true → table.isSome → item.data1[1] ≤ 3
  mag : item.data1[0] = 2 → movesNumbers version = true → table.isSome → item.data1[1] < 0x63

/-- A neutral item comes back from a client as it was sent if and only if it is
not taken for an item whose number was moved. -/
theorem sentBack_iff (version : Version) {table : Option ItemParameterTable}
    (htable : ∀ t, table = some t → ReplacementsBelow t) {item : ItemData}
    (hclass : item.data1[0] ≤ 4) (h : Neutral item) :
    sentBack version table item = .ok item ↔ Distinguishable version table item := by
  have hcases : item.data1[0] = 0 ∨ item.data1[0] = 1 ∨ item.data1[0] = 2 ∨ item.data1[0] = 3 ∨
      item.data1[0] = 4 := by
    simp only [← UInt8.toNat_inj]
    have hle : item.data1[0].toNat ≤ 4 := hclass
    simp
    omega
  rcases hcases with h0 | h0 | h0 | h0 | h0
  · rw [sentBack_weapon_iff htable h0 (h.weapon h0)]
    exact ⟨fun hw => ⟨fun _ => hw, by simp [h0], by simp [h0]⟩, fun hd => hd.weapon h0⟩
  · rw [sentBack_armor_iff version table h0 (h.armor h0)]
    exact ⟨fun hw => ⟨by simp [h0], fun _ => hw, by simp [h0]⟩, fun hd => hd.armor h0⟩
  · rw [sentBack_mag_iff version table h0 (h.mag h0)]
    exact ⟨fun hw => ⟨by simp [h0], by simp [h0], fun _ => hw⟩, fun hd => hd.mag h0⟩
  · obtain ⟨h3, h6, h2⟩ := h.tool h0
    exact iff_of_true (sentBack_tool version table h0 h3 h6 h2)
      ⟨by simp [h0], by simp [h0], by simp [h0]⟩
  · refine iff_of_true ?_ ⟨by simp [h0], by simp [h0], by simp [h0]⟩
    simp [sentBack, encodeForVersion, decodeForVersion, h0]

/-- A saber whose fifth byte is two. -/
def markedSaber : ItemData := ⟨#v[0, 1, 0, 0, 0, 2, 0, 0, 0, 0, 0, 0], 0x00010000, 0⟩

/-- Neutrality is not enough: the fifth byte of the weapon is taken for its
number. -/
theorem markedSaber_not_sentBack : markedSaber.data1[0] ≤ 4 ∧ Neutral markedSaber ∧
    sentBack .dcV2 none markedSaber ≠ .ok markedSaber ∧
    sentBack .dcV2 none markedSaber =
      .ok { markedSaber with data1 := #v[0, 2, 0, 0, 0, 0, 0, 0, 0, 0, 0, 0] } := by
  refine ⟨by decide, ⟨by decide, nofun, nofun, nofun⟩, by decide, by decide⟩

/-- A table of the first version, in which no later weapon has a replacement. -/
def firstTable : ItemParameterTable :=
  ⟨.dcV1, List.replicate 0x54 0, .v1V2, ⟨0, 0, 0, 0, 0, 0, 0⟩, 0x27, 0x0E, 0x29⟩

theorem replacementsBelow_firstTable : ReplacementsBelow firstTable := by
  intro data1_1 hgt _
  have hoffset : v1ReplacementTable firstTable = .ok 0 := by decide +kernel
  have hout : ¬ data1_1.toNat < firstTable.numWeaponClasses := Nat.not_lt.mpr hgt
  refine ⟨0, ?_, UInt8.lt_of_le_of_lt UInt8.zero_le hgt⟩
  rw [getWeaponV1Replacement, hoffset]
  exact if_neg hout

def laterWeapon : ItemData := ⟨#v[0, 0x30, 0, 0, 0, 0, 0, 0, 0, 0, 0, 0], 0x00010000, 0⟩

theorem laterWeapon_sentBack : sentBack .dcV1 (some firstTable) laterWeapon = .ok laterWeapon ↔
    Distinguishable .dcV1 (some firstTable) laterWeapon :=
  sentBack_iff .dcV1 (fun _ h => Option.some.inj h ▸ replacementsBelow_firstTable) (by decide)
    ⟨fun _ _ => rfl, nofun, nofun, nofun⟩

end HuntersGuild.ItemRoundTrip
