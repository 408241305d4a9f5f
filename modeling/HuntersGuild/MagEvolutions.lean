import HuntersGuild.ExceptionRules
import HuntersGuild.MagFeeding
import Mathlib.Data.List.Basic

/-!
When a mag can evolve: the classes that the evolutions know, and the photon
blasts for which a mag has room.
-/

namespace HuntersGuild.MagEvolutions

open HuntersGuild.ByteStreams
open HuntersGuild.ExceptionRules
open HuntersGuild.ItemEncoding
open HuntersGuild.Items (ItemData)
open HuntersGuild.MagFeeding

/-! ## Classes -/

theorem exists_charClassHas {cls : UInt8} (h : cls < 12) :
    ∃ flags ∈ classFlags, ∀ flag, charClassHas flag cls = .ok (flags.contains flag) := by
  have hlength : cls.toNat < classFlags.length := UInt8.lt_iff_toNat_lt.mp h
  refine ⟨classFlags[cls.toNat], List.getElem_mem hlength, ?_⟩
  intro flag
  rw [charClassHas, List.getElem?_eq_getElem hlength]

theorem charClassHas_of_le {cls : UInt8} (h : 12 ≤ cls) (flag : ClassFlag) :
    charClassHas flag cls = .error (.outOfRange "array::at") := by
  have hlength : classFlags.length ≤ cls.toNat := UInt8.le_iff_toNat_le.mp h
  rw [charClassHas, List.getElem?_eq_none hlength]

/-- A class is exactly one of hunter, ranger and force. -/
theorem one_top_level_class : ∀ flags ∈ classFlags,
    (flags.contains .hunter).toNat + (flags.contains .ranger).toNat +
      (flags.contains .force).toNat = 1 := by
  decide

theorem exists_level10Evolution_iff {charClass : UInt8} :
    (∃ number, level10Evolution charClass = .ok number) ↔ charClass < 12 := by
  simp only [level10Evolution, ← UInt8.toNat_inj, UInt8.lt_iff_toNat_lt, UInt8.reduceToNat]
  split_ifs
  · simp
    omega
  · simp
    omega
  · simp
    omega
  · simp
    omega

theorem exists_rareMagIndex (isMale : Bool) {isHunter isRanger isForce : Bool}
    {sectionIdGroup : UInt8} (hgroup : sectionIdGroup < 3)
    (hone : isHunter.toNat + isRanger.toNat + isForce.toNat = 1) :
    ∃ tableIndex, rareMagIndex isMale isHunter isRanger isForce sectionIdGroup = .ok tableIndex ∧
      tableIndex < 18 := by
  have hlt : sectionIdGroup.toNat < 3 := UInt8.lt_iff_toNat_lt.mp hgroup
  have hsex : (if isMale then 0 else 1) ≤ 1 := by
    cases isMale <;> decide
  cases isForce with
  | true => exact ⟨_, rfl, by omega⟩
  | false =>
      cases isRanger with
      | true => exact ⟨_, rfl, by omega⟩
      | false =>
          cases isHunter with
          | true => exact ⟨_, rfl, by omega⟩
          | false => exact absurd hone (by decide)

theorem exists_rareEvolution_iff {magItem : ItemData} {charClass sectionId : UInt8} :
    (∃ number, rareEvolution magItem charClass sectionId = .ok number) ↔ charClass < 12 := by
  rcases UInt8.lt_or_le charClass 12 with hclass | hclass
  · refine iff_of_true ?_ hclass
    obtain ⟨flags, hmem, hflags⟩ := exists_charClassHas hclass
    have hgroup : sectionId % 3 < 3 := UInt8.mod_lt _ (by decide)
    obtain ⟨tableIndex, hindex, hlt⟩ := exists_rareMagIndex (flags.contains .male) hgroup
      (one_top_level_class flags hmem)
    have hlength : tableIndex < rareMags.length := hlt
    simp only [rareEvolution, charClassIsMale, charClassIsHunter, charClassIsRanger,
      charClassIsForce, hflags, ok_bind, hindex, List.getElem?_eq_getElem hlength]
    split_ifs
    · exact ⟨_, rfl⟩
    · exact ⟨_, rfl⟩
  · refine iff_of_false ?_ (UInt8.not_lt.mpr hclass)
    rintro ⟨number, h⟩
    simp only [rareEvolution, charClassIsMale, charClassHas_of_le hclass, error_bind] at h
    cases h

theorem exists_level50Evolution_iff {magItem : ItemData} {charClass sectionId : UInt8} :
    (∃ number, level50Evolution magItem charClass sectionId = .ok number) ↔ charClass < 12 := by
  rcases UInt8.lt_or_le charClass 12 with hclass | hclass
  · refine iff_of_true ?_ hclass
    obtain ⟨flags, hmem, hflags⟩ := exists_charClassHas hclass
    have hone := one_top_level_class flags hmem
    simp only [level50Evolution, charClassIsHunter, charClassIsRanger, charClassIsForce, hflags,
      ok_bind]
    rw [if_neg (not_not.mpr hone)]
    exact ⟨_, rfl⟩
  · refine iff_of_false ?_ (UInt8.not_lt.mpr hclass)
    rintro ⟨number, h⟩
    simp only [level50Evolution, charClassIsHunter, charClassHas_of_le hclass, error_bind] at h
    cases h

theorem exists_lateEvolution_iff {magItem : ItemData} {charClass sectionId : UInt8}
    {versionHasRareMags : Bool} :
    (∃ number, lateEvolution magItem charClass sectionId versionHasRareMags = .ok number) ↔
      charClass < 12 := by
  unfold lateEvolution specialEvolution
  constructor
  · rintro ⟨number, h⟩
    obtain ⟨special, hspecial, hnormal⟩ := bind_eq_ok.mp h
    split_ifs at hspecial
    · exact exists_rareEvolution_iff.mp ⟨special, hspecial⟩
    · cases hspecial
      rw [if_pos rfl] at hnormal
      exact exists_level50Evolution_iff.mp ⟨number, hnormal⟩
  · intro hclass
    obtain ⟨special, hspecial⟩ := exists_rareEvolution_iff.mpr hclass
    obtain ⟨normal, hnormal⟩ := exists_level50Evolution_iff.mpr hclass
    rw [hspecial, hnormal]
    split_ifs
    · rw [ok_bind]
      split_ifs
      · exact ⟨normal, rfl⟩
      · exact ⟨special, rfl⟩
    · rw [ok_bind, if_pos rfl]
      exact ⟨normal, rfl⟩

/-! ## The evolution -/

/-- The evolution of a mag of this level is by the class of its owner. -/
def AsksClass (magLevel evolutionNumber : UInt8) : Prop :=
  10 ≤ magLevel ∧ magLevel < 35 ∧ evolutionNumber < 1 ∨
    50 ≤ magLevel ∧ magLevel % 5 = 0 ∧ evolutionNumber < 4

/-- An evolution that needs the class throws for the unknown ones, and no other
does. -/
theorem exists_evolvedNumber_iff {magItem : ItemData}
    {evolutionNumber charClass sectionId : UInt8} {versionHasRareMags : Bool} :
    (∃ number, evolvedNumber magItem evolutionNumber charClass sectionId versionHasRareMags =
      .ok number) ↔ (AsksClass magItem.data1[2] evolutionNumber → charClass < 12) := by
  have hnever : ∀ number : UInt8, ¬ AsksClass magItem.data1[2] evolutionNumber →
      ((∃ result, (.ok number : Except Exception UInt8) = .ok result) ↔
        (AsksClass magItem.data1[2] evolutionNumber → charClass < 12)) :=
    fun number hasks => iff_of_true ⟨number, rfl⟩ fun h => absurd h hasks
  unfold evolvedNumber
  dsimp only
  split_ifs with h10 h35 h1 h50 h2 h5
  · exact hnever _ (by grind [AsksClass])
  · have hasks : AsksClass magItem.data1[2] evolutionNumber := .inl ⟨UInt8.not_lt.mp h10, h35, h1⟩
    exact exists_level10Evolution_iff.trans ⟨fun h _ => h, fun h => h hasks⟩
  · exact hnever _ (by grind [AsksClass])
  · exact hnever _ (by grind [AsksClass])
  · exact hnever _ (by grind [AsksClass])
  · have hasks : AsksClass magItem.data1[2] evolutionNumber := .inr ⟨UInt8.not_lt.mp h50, h5⟩
    exact exists_lateEvolution_iff.trans ⟨fun h _ => h, fun h => h hasks⟩
  · exact hnever _ (by grind [AsksClass])

/-! ## Photon blasts -/

def centerBlast (self : ItemData) : UInt8 := self.data1[3] &&& 0x07

def rightBlast (self : ItemData) : UInt8 := (self.data1[3] &&& 0x38) >>> (3 : UInt8)

theorem magPhotonBlastForSlot_zero (self : ItemData) : magPhotonBlastForSlot self 0 =
    .ok (if data2 self 2 &&& 1 ≠ 0 then centerBlast self else 0xFF) := rfl

theorem magPhotonBlastForSlot_one (self : ItemData) : magPhotonBlastForSlot self 1 =
    .ok (if data2 self 2 &&& 2 ≠ 0 then rightBlast self else 0xFF) := rfl

theorem magPhotonBlastForSlot_two (self : ItemData) (h : data2 self 2 &&& 4 = 0) :
    magPhotonBlastForSlot self 2 = .ok 0xFF := if_pos h

/-- At least four numbers are left for the left slot. -/
theorem four_le_length_unused (center right : UInt8) :
    4 ≤ (([0, 1, 2, 3, 4, 5] : List UInt8).filter fun z => z ≠ center ∧ z ≠ right).length := by
  have hnodup : ([0, 1, 2, 3, 4, 5] : List UInt8).Nodup := by decide
  have herase : ([0, 1, 2, 3, 4, 5] : List UInt8).filter (fun z => z ≠ center ∧ z ≠ right) =
      (([0, 1, 2, 3, 4, 5] : List UInt8).erase center).erase right := by
    rw [(hnodup.erase center).erase_eq_filter, hnodup.erase_eq_filter, List.filter_filter]
    apply List.filter_congr
    intro z hz
    rw [Bool.eq_iff_iff]
    simp [and_comm]
  have hcenter := List.le_length_erase (a := center) (l := [0, 1, 2, 3, 4, 5])
  have hright := List.le_length_erase (a := right)
    (l := ([0, 1, 2, 3, 4, 5] : List UInt8).erase center)
  rw [herase]
  exact (Nat.sub_le_sub_right hcenter 1).trans hright

theorem exists_unusedPhotonBlast_iff {center right leftPbNum : UInt8} (h : leftPbNum.toNat < 4) :
    (∃ pbNum, unusedPhotonBlast center right leftPbNum = .ok pbNum) ↔ center < 6 ∧ right < 6 := by
  have hindex := List.getElem?_eq_getElem (h.trans_le (four_le_length_unused center right))
  unfold unusedPhotonBlast
  dsimp only
  rw [hindex]
  split_ifs with hwrite
  · refine iff_of_false ?_ ?_
    · rintro ⟨pbNum, hok⟩
      cases hok
    · rintro ⟨hcenter, hright⟩
      exact hwrite.elim (UInt8.not_le.mpr hcenter) (UInt8.not_le.mpr hright)
  · rw [not_or, UInt8.not_le, UInt8.not_le] at hwrite
    exact iff_of_true ⟨_, rfl⟩ hwrite

theorem exists_magPhotonBlastForSlot_two {self : ItemData} (h : data2 self 2 &&& 4 ≠ 0) :
    (∃ pbNum, magPhotonBlastForSlot self 2 = .ok pbNum) ↔
      centerBlast self < 6 ∧ rightBlast self < 6 := by
  have hslot : ((self.data1[3] &&& 0xC0) >>> (6 : UInt8)).toNat < 4 := by
    have hlt := (self.data1[3] &&& 0xC0).toNat_lt
    rw [UInt8.toNat_shiftRight]
    change _ >>> 6 < 4
    rw [Nat.shiftRight_eq_div_pow]
    omega
  have hrun : magPhotonBlastForSlot self 2 = unusedPhotonBlast (centerBlast self)
      (rightBlast self) ((self.data1[3] &&& 0xC0) >>> (6 : UInt8)) := if_neg h
  rw [hrun]
  exact exists_unusedPhotonBlast_iff hslot

/-- How many of the two blasts have a lower number. -/
def lowerBlasts (self : ItemData) (pbNum : UInt8) : ℕ :=
  [centerBlast self, rightBlast self].countP (· < pbNum)

/-- A mag does not get a photon blast, has it already, or has a place for it. -/
def PhotonBlastFits (self : ItemData) (pbNum : UInt8) : Prop :=
  6 ≤ pbNum ∨ data2 self 2 &&& 1 ≠ 0 ∧ centerBlast self = pbNum ∨
    data2 self 2 &&& 2 ≠ 0 ∧ rightBlast self = pbNum ∨
    if data2 self 2 &&& 4 = 0 then
      data2 self 2 &&& 1 = 0 ∨ data2 self 2 &&& 2 = 0 ∨
        lowerBlasts self pbNum ≤ pbNum.toNat ∧ pbNum.toNat < lowerBlasts self pbNum + 4
    else centerBlast self < 6 ∧ rightBlast self < 6

/-- A free slot has the number 0xFF, which is no photon blast. -/
theorem slot_eq_iff {occupied : Prop} [Decidable occupied] {slot pbNum : UInt8} (h : pbNum < 6) :
    (if occupied then slot else 0xFF) = pbNum ↔ occupied ∧ slot = pbNum := by
  split_ifs with hoccupied
  · exact ⟨fun heq => ⟨hoccupied, heq⟩, fun heq => heq.2⟩
  · refine iff_of_false ?_ fun heq => hoccupied heq.1
    rintro rfl
    exact absurd h (by decide)

theorem magHasPhotonBlastInAnySlot_eq {self : ItemData} {pbNum : UInt8} (h : pbNum < 6) :
    magHasPhotonBlastInAnySlot self pbNum =
      if data2 self 2 &&& 1 ≠ 0 ∧ centerBlast self = pbNum ∨
          data2 self 2 &&& 2 ≠ 0 ∧ rightBlast self = pbNum then .ok true
      else do return (← magPhotonBlastForSlot self 2) = pbNum := by
  unfold magHasPhotonBlastInAnySlot
  simp only [if_pos h, List.anyM, magPhotonBlastForSlot_zero, magPhotonBlastForSlot_one, ok_bind,
    pure_eq_ok, slot_eq_iff h]
  by_cases hcenter : data2 self 2 &&& 1 ≠ 0 ∧ centerBlast self = pbNum
  · rw [decide_eq_true hcenter, if_pos (Or.inl hcenter)]
  · by_cases hright : data2 self 2 &&& 2 ≠ 0 ∧ rightBlast self = pbNum
    · rw [decide_eq_false hcenter, decide_eq_true hright, if_pos (Or.inr hright)]
    · rw [decide_eq_false hcenter, decide_eq_false hright, if_neg (not_or.mpr ⟨hcenter, hright⟩)]
      rcases magPhotonBlastForSlot self 2 with e | left
      · rfl
      · rw [ok_bind, ok_bind]
        cases decide (left = pbNum) <;> rfl

/-- The number for the left slot does not count the lower ones in the other slots. -/
theorem left_number_lt_iff {self : ItemData} {pbNum : UInt8} (h : pbNum < 6) :
    ¬ 4 ≤ (if rightBlast self < pbNum then
        (if centerBlast self < pbNum then pbNum - 1 else pbNum) - 1
      else if centerBlast self < pbNum then pbNum - 1 else pbNum) ↔
      lowerBlasts self pbNum ≤ pbNum.toNat ∧ pbNum.toNat < lowerBlasts self pbNum + 4 := by
  simp only [lowerBlasts, List.countP_cons, List.countP_nil, decide_eq_true_eq]
  split_ifs
  all_goals
    simp only [UInt8.le_iff_toNat_le, UInt8.lt_iff_toNat_lt, UInt8.toNat_sub,
      UInt8.reduceToNat] at *
    omega

theorem exists_unless_iff {α : Type} {refused : Prop} [Decidable refused] {e : Exception} {a : α} :
    (∃ x, (if refused then throw e else pure a : Except Exception α) = .ok x) ↔ ¬ refused := by
  split_ifs with h
  · exact iff_of_false nofun (not_not.mpr h)
  · exact iff_of_true ⟨a, rfl⟩ h

theorem exists_addMagPhotonBlast_iff {self : ItemData} {pbNum : UInt8} :
    (∃ item, addMagPhotonBlast self pbNum = .ok item) ↔ PhotonBlastFits self pbNum := by
  unfold addMagPhotonBlast PhotonBlastFits
  dsimp only
  rcases UInt8.lt_or_le pbNum 6 with hpbNum | hpbNum
  · rw [if_neg (UInt8.not_le.mpr hpbNum), magHasPhotonBlastInAnySlot_eq hpbNum]
    by_cases hhas : data2 self 2 &&& 1 ≠ 0 ∧ centerBlast self = pbNum ∨
        data2 self 2 &&& 2 ≠ 0 ∧ rightBlast self = pbNum
    · rw [if_pos hhas]
      exact iff_of_true ⟨self, rfl⟩ (Or.inr (or_assoc.mp (Or.inl hhas)))
    · rw [if_neg hhas, ← or_assoc (a := data2 self 2 &&& 1 ≠ 0 ∧ _), or_iff_right hhas,
        or_iff_right (UInt8.not_le.mpr hpbNum)]
      by_cases hleft : data2 self 2 &&& 4 = 0
      · have hfree : ¬ (0xFF : UInt8) = pbNum := by
          rintro rfl
          exact absurd hpbNum (by decide)
        rw [if_pos hleft, if_pos hleft, magPhotonBlastForSlot_two self hleft]
        simp only [ok_bind, pure_eq_ok, decide_eq_false hfree, Bool.false_eq_true, if_false]
        by_cases h1 : data2 self 2 &&& 1 = 0
        · rw [if_pos h1]
          exact iff_of_true ⟨_, rfl⟩ (Or.inl h1)
        · by_cases h2 : data2 self 2 &&& 2 = 0
          · rw [if_neg h1, if_pos h2]
            exact iff_of_true ⟨_, rfl⟩ (Or.inr (Or.inl h2))
          · rw [if_neg h1, if_neg h2, or_iff_right h1, or_iff_right h2, ← left_number_lt_iff hpbNum,
              magPhotonBlastForSlot_zero, magPhotonBlastForSlot_one, if_pos h1, if_pos h2]
            exact exists_unless_iff
      · rw [if_neg hleft, if_neg hleft, ← exists_magPhotonBlastForSlot_two hleft]
        rcases magPhotonBlastForSlot self 2 with e | left
        · exact iff_of_false nofun nofun
        · refine iff_of_true ?_ ⟨left, rfl⟩
          rw [ok_bind, pure_eq_ok, ok_bind]
          split_ifs
          · exact ⟨_, rfl⟩
          · exact ⟨_, rfl⟩
          · exact ⟨_, rfl⟩
          · exact ⟨_, rfl⟩
  · rw [if_pos hpbNum]
    exact iff_of_true ⟨self, rfl⟩ (Or.inl hpbNum)

theorem eq_of_unless_eq_ok {α : Type} {refused : Prop} [Decidable refused] {e : Exception}
    {a x : α} (h : (if refused then throw e else pure a : Except Exception α) = .ok x) : x = a := by
  split_ifs at h
  exact (Except.ok.inj h).symm

/-- A new photon blast is in two bytes. -/
theorem addMagPhotonBlast_shape {self item : ItemData} {pbNum : UInt8}
    (h : addMagPhotonBlast self pbNum = .ok item) :
    item = self ∨ ∃ pbNums flags, item = withData2 (self.withByte 3 pbNums) 2 flags := by
  unfold addMagPhotonBlast at h
  dsimp only at h
  rcases UInt8.lt_or_le pbNum 6 with hpbNum | hpbNum
  · rw [if_neg (UInt8.not_le.mpr hpbNum)] at h
    obtain ⟨has, -, h⟩ := bind_eq_ok.mp h
    split_ifs at h
    · exact .inl (Except.ok.inj h).symm
    · exact .inr ⟨_, _, (Except.ok.inj h).symm⟩
    · exact .inr ⟨_, _, (Except.ok.inj h).symm⟩
    · obtain ⟨center, -, h⟩ := bind_eq_ok.mp h
      obtain ⟨right, -, h⟩ := bind_eq_ok.mp h
      exact .inr ⟨_, _, eq_of_unless_eq_ok h⟩
    · exact .inl (Except.ok.inj h).symm
  · rw [if_pos hpbNum] at h
    exact .inl (Except.ok.inj h).symm

end HuntersGuild.MagEvolutions
