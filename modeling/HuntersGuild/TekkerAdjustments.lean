import HuntersGuild.CallTrace
import HuntersGuild.WeaponShops

/-!
The tekker: how it changes a weapon, and the weapons on which no bonus wraps
around.
-/

namespace HuntersGuild.TekkerAdjustments

open HuntersGuild.ByteStreams
open HuntersGuild.CallTrace
open HuntersGuild.ExceptionRules
open HuntersGuild.ItemParameterHistory
open HuntersGuild.ItemParameters
open HuntersGuild.Items (ItemData data1_withByte getElem_withByte)
open HuntersGuild.LazyCaches
open HuntersGuild.StatefulPrograms
open HuntersGuild.WeaponShops (ProbabilityTable at? favoredWeaponBySectionId getItemStars)

/-! ## The tables of the tekker -/

/-- The offsets in the file. -/
structure TekkerAdjustmentSet where
  data : List UInt8
  specialUpgradeProbTableOffset : UInt32
  grindDeltaProbTableOffset : UInt32
  bonusDeltaProbTableOffset : UInt32
  specialUpgradeLuckTableOffset : UInt32
  grindDeltaLuckTableOffset : UInt32
  bonusDeltaLuckOffset : UInt32

/-- The tables of one kind that are built, by whether the weapon is favored and
by section ID. -/
abbrev ProbTables := Bool → UInt8 → ProbabilityTable UInt8 100

namespace TekkerAdjustmentSet

/-- `TekkerAdjustmentSet(data)`. -/
def load (data : List UInt8) : Except Exception TekkerAdjustmentSet := do
  let root ← pget data ((data.length + (2 ^ 64 - 0x10)) % 2 ^ 64) 4
  let offsets ← pget data (u32 true root 0).toNat 0x18
  return ⟨data, u32 true offsets 0x00, u32 true offsets 0x04, u32 true offsets 0x08,
    u32 true offsets 0x0C, u32 true offsets 0x10, u32 true offsets 0x14⟩

/-- The delta indexes that are pushed, each as often as its count says. The
bounds of the loop are words. -/
def deltaIndexes (self : TekkerAdjustmentSet) (offsetAndCountOffset : UInt32) (favored : Bool)
    (sectionId : UInt8) : Except Exception (List UInt8) := do
  let offset ← pget self.data offsetAndCountOffset.toNat 4
  let count ← pget self.data (offsetAndCountOffset + 4).toNat 4
  let countPerSectionId := u32 true count 0
  let entries ← pget self.data (u32 true offset 0).toNat (3 * countPerSectionId.toNat * 10)
  let first := (countPerSectionId * sectionId.toUInt32).toNat
  let last := (countPerSectionId * (sectionId.toUInt32 + 1)).toNat
  return (List.range' first (last - first)).flatMap fun z =>
    List.replicate (u8 entries (3 * z + if favored then 2 else 1)).toNat (u8 entries (3 * z))

def push (favored : Bool) (sectionId deltaIndex : UInt8) : EStateM Exception ProbTables PUnit := do
  let tables ← get
  let table ← fromExcept ((tables favored sectionId).push deltaIndex)
  set (Function.update tables favored (Function.update (tables favored) sectionId table))

/-- A table that is full when more is pushed stays as it is. -/
def getTable (self : TekkerAdjustmentSet) (offsetAndCountOffset : UInt32) (favored : Bool)
    (sectionId : UInt8) : EStateM Exception ProbTables (ProbabilityTable UInt8 100) := do
  if 10 ≤ sectionId then
    throw (.runtimeError "invalid section ID")
  else
    if ((← get) favored sectionId).items = [] then
      let deltaIndexes ← fromExcept (self.deltaIndexes offsetAndCountOffset favored sectionId)
      forM deltaIndexes (push favored sectionId)
    return (← get) favored sectionId

/-- The entries from the start of a luck table. -/
def findLuck (deltaIndex : UInt8) : List UInt8 → Except Exception Int8
  | [] => .ok 0
  | [_] => .error (.outOfRange "end of string")
  | index :: luck :: entries =>
    if index = 0xFF then .ok 0
    else if index = deltaIndex then .ok luck.toInt8
    else findLuck deltaIndex entries

def getLuck (self : TekkerAdjustmentSet) (startOffset : UInt32) (deltaIndex : UInt8) :
    Except Exception Int8 :=
  findLuck deltaIndex (self.data.drop startOffset.toNat)

end TekkerAdjustmentSet

/-! ## Rare weapons -/

/-- `get_item_base_stars`, for a weapon. -/
def getItemBaseStars (table : ItemParameterTable) (item : ItemData) : Lookup UInt8 := do
  let weapon ← table.getWeapon item.data1[1] item.data1[2]
  fromExcept (getItemStars table weapon.base.id)

def isItemRare (table : ItemParameterTable) (item : ItemData) : Lookup Bool :=
  tryCatch (do return 9 ≤ (← getItemBaseStars table item)) fun
    | .outOfRange _ => return false
    | e => throw e

/-! ## Adjustments -/

def deltaTable : List Int8 := [-10, -5, -3, -2, -1, 0, 1, 2, 3, 5, 10]

/-- The creator's members that these functions change, and the weapon. -/
structure Tekker where
  item : ItemData
  parsed : Parsed
  specialTables : ProbTables
  grindTables : ProbTables
  bonusTables : ProbTables

/-- One call, with the words that its samples draw from the random generator. -/
structure Request where
  sectionId : UInt8
  specialWord : UInt32
  grindWord : UInt32
  bonusWord : UInt32

abbrev Program (α : Type) := EStateM Exception Tekker α

def lookingUp {α : Type} (x : Lookup α) : Program α :=
  zoom Tekker.parsed (fun parsed tekker => { tekker with parsed }) x

def putByte (z : Fin 12) (v : UInt8) : Program PUnit :=
  modify fun tekker => { tekker with item := tekker.item.withByte z v }

/-- Reading past the end of the array is undefined. -/
def isFavored (item : ItemData) (sectionId : UInt8) : Except Exception Bool :=
  match favoredWeaponBySectionId[sectionId.toNat]? with
  | some favoredWeapon => .ok (item.data1[1] = favoredWeapon)
  | none => .error .undefined

/-- A delta index, which is sampled with a word, and its delta. -/
def drawDelta (set : TekkerAdjustmentSet) (offset : UInt32) (favored : Bool) (sectionId : UInt8)
    (word : UInt32) : EStateM Exception ProbTables (UInt8 × Int8) := do
  let probTable ← set.getTable offset favored sectionId
  let deltaIndex ← fromExcept (outcome (probTable.sample.run (Stream'.const word)))
  let delta ← fromExcept (at? deltaTable deltaIndex.toNat)
  return (deltaIndex, delta)

/-- Only the sign of the delta matters. -/
def movedSpecial (special : UInt8) (delta : Int8) : UInt8 :=
  if delta < 0 then special - 1 else if 0 < delta then special + 1 else special

/-- The type of the first special is read before the second one is looked up. -/
def moveSpecial (table : ItemParameterTable) (delta : Int8) : Program PUnit := do
  let special := (← get).item.data1[4]
  if movedSpecial special delta ≠ special then
    let before ← lookingUp (table.getSpecial special)
    let after ← lookingUp (table.getSpecial (movedSpecial special delta))
    if before.type = after.type then
      putByte 4 (movedSpecial special delta)

def adjustSpecial (set : TekkerAdjustmentSet) (table : ItemParameterTable) (favored : Bool)
    (request : Request) : Program Int8 := do
  let (deltaIndex, delta) ← zoom Tekker.specialTables
    (fun specialTables tekker => { tekker with specialTables })
    (drawDelta set set.specialUpgradeProbTableOffset favored request.sectionId request.specialWord)
  tryCatch (moveSpecial table delta) fun
    | .outOfRange _ => return
    | e => throw e
  fromExcept (set.getLuck set.specialUpgradeLuckTableOffset deltaIndex)

def adjustedGrind (grind : UInt8) (delta : Int8) (maxGrind : UInt8) : UInt8 :=
  .ofNat (min (max (grind.toNat + delta.toInt) 0) maxGrind.toNat).toNat

def adjustGrind (set : TekkerAdjustmentSet) (table : ItemParameterTable) (favored : Bool)
    (request : Request) : Program Int8 := do
  let item := (← get).item
  if ← lookingUp (isItemRare table item) then
    return 0
  else
    let weapon ← lookingUp (table.getWeapon item.data1[1] item.data1[2])
    let (deltaIndex, delta) ← zoom Tekker.grindTables
      (fun grindTables tekker => { tekker with grindTables })
      (drawDelta set set.grindDeltaProbTableOffset favored request.sectionId request.grindWord)
    putByte 3 (adjustedGrind item.data1[3] delta weapon.maxGrind)
    fromExcept (set.getLuck set.grindDeltaLuckTableOffset deltaIndex)

def IsPresent (type : UInt8) : Prop := 1 ≤ type ∧ type ≤ 5

instance (type : UInt8) : Decidable (IsPresent type) :=
  inferInstanceAs (Decidable (1 ≤ type ∧ type ≤ 5))

/-- The sum becomes a signed byte before it is compared. -/
def adjustedBonus (bonus : UInt8) (delta : Int8) : UInt8 :=
  (min (Int8.ofInt (bonus.toNat + delta.toInt)) 100).toUInt8

/-- The places of the types of bonuses and of their values. -/
def bonusSlots : List (Fin 12 × Fin 12) := [(6, 7), (8, 9), (10, 11)]

def adjustBonus (delta : Int8) (item : ItemData) (slot : Fin 12 × Fin 12) : ItemData :=
  if IsPresent item.data1[slot.1] then
    item.withByte slot.2 (adjustedBonus item.data1[slot.2] delta)
  else
    item

def adjustBonuses (set : TekkerAdjustmentSet) (favored : Bool) (request : Request) :
    Program Int8 := do
  let (deltaIndex, delta) ← zoom Tekker.bonusTables
    (fun bonusTables tekker => { tekker with bonusTables })
    (drawDelta set set.bonusDeltaProbTableOffset favored request.sectionId request.bonusWord)
  modify fun tekker =>
    { tekker with item := bonusSlots.foldl (adjustBonus delta) tekker.item }
  fromExcept (set.getLuck set.bonusDeltaLuckOffset deltaIndex)

/-- The result is the luck. -/
def applyTekkerDeltas (set : TekkerAdjustmentSet) (table : ItemParameterTable)
    (request : Request) : Program Int := do
  let item := (← get).item
  if item.data1[0] ≠ 0 then
    throw (.runtimeError "tekker deltas can only be applied to weapons")
  else
    let favored ← fromExcept (isFavored item request.sectionId)
    let specialLuck ← adjustSpecial set table favored request
    let grindLuck ← adjustGrind set table favored request
    let bonusLuck ← adjustBonuses set favored request
    return specialLuck.toInt + grindLuck.toInt + bonusLuck.toInt

/-! ## Right adjustments -/

def weaponDef (table : ItemParameterTable) (item : ItemData) : Except Exception WeaponV4 :=
  entry table (.getWeapon item.data1[1] item.data1[2])

def specialDef (table : ItemParameterTable) (special : UInt8) : Except Exception Special :=
  entry table (.getSpecial special)

def baseStars (table : ItemParameterTable) (item : ItemData) : Except Exception UInt8 := do
  let weapon ← weaponDef table item
  getItemStars table weapon.base.id

def IsRare (table : ItemParameterTable) (item : ItemData) : Prop :=
  ∃ stars, baseStars table item = .ok stars ∧ 9 ≤ stars

def SameType (table : ItemParameterTable) (special special' : UInt8) : Prop :=
  ∃ before after, specialDef table special = .ok before ∧ specialDef table special' = .ok after ∧
    before.type = after.type

/-- A byte as the signed number that it stands for. -/
def signed (value : UInt8) : Int := value.toInt8.toInt

/-- What an adjustment should make of a weapon. -/
structure Adjusted (table : ItemParameterTable) (item item' : ItemData) : Prop where
  bonuses : ∃ delta ∈ deltaTable, ∀ slot ∈ bonusSlots,
    signed item'.data1[slot.2] =
      if IsPresent item.data1[slot.1] then min (signed item.data1[slot.2] + delta.toInt) 100
      else signed item.data1[slot.2]
  special : item'.data1[4] = item.data1[4] ∨ SameType table item.data1[4] item'.data1[4]
  grind_of_rare : IsRare table item → item'.data1[3] = item.data1[3]
  grind_of_not_rare : ¬ IsRare table item →
    ∃ weapon, weaponDef table item = .ok weapon ∧ item'.data1[3] ≤ weapon.maxGrind
  others : ∀ (z : Nat) (hz : z < 12), z ∉ [3, 4, 7, 9, 11] → item'.data1[z] = item.data1[z]
  id : item'.id = item.id
  data2d : item'.data2d = item.data2d

/-! ## Bonuses -/

theorem toInt_min (a b : Int8) : (min a b).toInt = min a.toInt b.toInt := by
  rw [Int.min_def]
  change (if a ≤ b then a else b).toInt = _
  simp only [Int8.le_iff_toInt_le]
  split <;> rfl

theorem signed_adjustedBonus (bonus : UInt8) (delta : Int8) :
    signed (adjustedBonus bonus delta) = min ((signed bonus + delta.toInt).bmod 256) 100 := by
  have hbyte : signed bonus = (bonus.toNat : Int).bmod 256 := BitVec.toInt_eq_toNat_bmod _
  rw [hbyte, Int.bmod_add_bmod]
  unfold signed adjustedBonus
  rw [Int8.toInt8_toUInt8, toInt_min, Int8.toInt_ofInt]
  rfl

theorem toInt_of_mem_deltaTable {delta : Int8} (h : delta ∈ deltaTable) :
    -10 ≤ delta.toInt ∧ delta.toInt ≤ 10 := by
  have hall : deltaTable.all fun delta => -10 ≤ delta.toInt ∧ delta.toInt ≤ 10 := by decide
  exact of_decide_eq_true (List.all_eq_true.mp hall delta h)

theorem signed_bounds (value : UInt8) : -128 ≤ signed value ∧ signed value ≤ 127 :=
  ⟨Int8.le_toInt _, Int.le_of_lt_add_one (Int8.toInt_lt _)⟩

/-- The sum of a bonus and a delta is a signed byte. -/
def BonusFits (bonus : UInt8) (delta : Int8) : Prop :=
  -128 ≤ signed bonus + delta.toInt ∧ signed bonus + delta.toInt ≤ 127

theorem signed_adjustedBonus_of_fits {bonus : UInt8} {delta : Int8} (h : BonusFits bonus delta) :
    signed (adjustedBonus bonus delta) = min (signed bonus + delta.toInt) 100 := by
  obtain ⟨hlow, hhigh⟩ := h
  rw [signed_adjustedBonus, Int.bmod_eq_of_le (by omega) (by omega)]

/-- No other delta of the table gives what a sum that wraps around gives. -/
theorem fits_of_signed_adjustedBonus {bonus : UInt8} {delta delta' : Int8} (h : delta ∈ deltaTable)
    (h' : delta' ∈ deltaTable)
    (heq : signed (adjustedBonus bonus delta) = min (signed bonus + delta'.toInt) 100) :
    BonusFits bonus delta := by
  obtain ⟨hlow, hhigh⟩ := toInt_of_mem_deltaTable h
  obtain ⟨hlow', hhigh'⟩ := toInt_of_mem_deltaTable h'
  obtain ⟨hmin, hmax⟩ := signed_bounds bonus
  rw [signed_adjustedBonus] at heq
  unfold BonusFits
  by_contra hwraps
  have hrange : 127 < signed bonus + delta.toInt ∨ signed bonus + delta.toInt < -128 := by omega
  rcases hrange with hbig | hsmall
  · have hbmod : (signed bonus + delta.toInt).bmod 256 = signed bonus + delta.toInt - 256 := by
      rw [← Int.sub_bmod_right, Int.bmod_eq_of_le (by omega) (by omega)]
      rfl
    rw [hbmod] at heq
    omega
  · have hbmod : (signed bonus + delta.toInt).bmod 256 = signed bonus + delta.toInt + 256 := by
      rw [← Int.add_bmod_right, Int.bmod_eq_of_le (by omega) (by omega)]
      rfl
    rw [hbmod] at heq
    omega

theorem data1_adjustBonus (delta : Int8) (item : ItemData) (slot : Fin 12 × Fin 12) (z : Nat)
    (hz : z < 12) :
    (adjustBonus delta item slot).data1[z] =
      if slot.2 = ⟨z, hz⟩ ∧ IsPresent item.data1[slot.1] then adjustedBonus item.data1[slot.2] delta
      else item.data1[z] := by
  unfold adjustBonus
  by_cases hpresent : IsPresent item.data1[slot.1]
  · rw [if_pos hpresent, data1_withByte item slot.2 _ z hz]
    simp only [hpresent, and_true]
  · rw [if_neg hpresent, if_neg fun h => hpresent h.2]

theorem data1_foldl_adjustBonus (delta : Int8) (item : ItemData) {slot : Fin 12 × Fin 12}
    (h : slot ∈ bonusSlots) :
    (bonusSlots.foldl (adjustBonus delta) item).data1[slot.2] =
      if IsPresent item.data1[slot.1] then adjustedBonus item.data1[slot.2] delta
      else item.data1[slot.2] := by
  unfold bonusSlots at h ⊢
  simp only [List.mem_cons, List.not_mem_nil, or_false] at h
  rcases h with rfl | rfl | rfl
  all_goals
    rw [List.foldl_cons, List.foldl_cons, List.foldl_cons, List.foldl_nil]
    simp [data1_adjustBonus]

theorem data1_foldl_adjustBonus_of_ne (delta : Int8) (item : ItemData) {z : Nat} (hz : z < 12)
    (hne : ∀ slot ∈ bonusSlots, slot.2 ≠ ⟨z, hz⟩) :
    (bonusSlots.foldl (adjustBonus delta) item).data1[z] = item.data1[z] := by
  apply List.foldlRecOn bonusSlots _
    (motive := fun item' : ItemData => item'.data1[z] = item.data1[z])
  · rfl
  · intro item' h slot hslot
    rw [data1_adjustBonus delta item' slot z hz, if_neg fun hboth => hne slot hslot hboth.1, h]

theorem foldl_adjustBonus_frame (delta : Int8) (item : ItemData) :
    (bonusSlots.foldl (adjustBonus delta) item).id = item.id ∧
      (bonusSlots.foldl (adjustBonus delta) item).data2d = item.data2d := by
  apply List.foldlRecOn bonusSlots _
    (motive := fun item' : ItemData => item'.id = item.id ∧ item'.data2d = item.data2d)
  · exact ⟨rfl, rfl⟩
  · intro item' h slot _
    unfold adjustBonus
    split
    · exact h
    · exact h

/-! ## What the parts of a call do -/

variable {set : TekkerAdjustmentSet} {table : ItemParameterTable} {favored : Bool}
  {request : Request} {tekker tekker' : Tekker}

/-- The weapon that the code looks up is that of the table, and so are its
exceptions. -/
theorem agree_weaponDef {parsed : Parsed} (h : Reliable table parsed) (item : ItemData) :
    Agree SameKind (outcome ((table.getWeapon item.data1[1] item.data1[2]).run parsed))
        (weaponDef table item) ∧
      Reliable table (finalState ((table.getWeapon item.data1[1] item.data1[2]).run parsed)) :=
  ⟨agree_getWeapon h.weapons _ _, keeps_perform table (.getWeapon _ _) parsed h⟩

theorem agree_baseStars {parsed : Parsed} (h : Reliable table parsed) (item : ItemData) :
    Agree SameKind (outcome ((getItemBaseStars table item).run parsed)) (baseStars table item) ∧
      Reliable table (finalState ((getItemBaseStars table item).run parsed)) := by
  obtain ⟨hagree, hkeeps⟩ := agree_weaponDef h item
  unfold getItemBaseStars baseStars
  rcases hcall : (table.getWeapon item.data1[1] item.data1[2]).run parsed with
    ⟨weapon, parsed'⟩ | ⟨e, parsed'⟩
  · rw [hcall] at hagree hkeeps
    rw [run_bind_of_ok hcall]
    cases hdef : weaponDef table item with
    | ok weapon' =>
        rw [hdef] at hagree
        obtain rfl : weapon = weapon' := hagree
        rw [ok_bind, readOnly_fromExcept]
        exact ⟨agree_fromExcept _ _, hkeeps⟩
    | error f =>
        rw [hdef] at hagree
        exact hagree.elim
  · rw [hcall] at hagree hkeeps
    rw [run_bind_of_error hcall]
    cases hdef : weaponDef table item with
    | ok weapon' =>
        rw [hdef] at hagree
        exact hagree.elim
    | error f =>
        rw [hdef] at hagree
        rw [error_bind]
        exact ⟨hagree, hkeeps⟩

theorem isRare_of_isItemRare {parsed parsed' : Parsed} {item : ItemData} {rare : Bool}
    (h : Reliable table parsed) (hrun : (isItemRare table item).run parsed = .ok rare parsed') :
    (rare = true ↔ IsRare table item) ∧ Reliable table parsed' := by
  obtain ⟨hagree, hkeeps⟩ := agree_baseStars h item
  unfold isItemRare at hrun
  rw [run_tryCatch] at hrun
  rcases hcall : (getItemBaseStars table item).run parsed with ⟨stars, mid⟩ | ⟨e, mid⟩
  · rw [run_bind_of_ok hcall] at hrun
    rw [hcall] at hagree hkeeps
    cases hrun
    refine ⟨?_, hkeeps⟩
    cases hstars : baseStars table item with
    | ok stars' =>
        rw [hstars] at hagree
        obtain rfl : stars = stars' := hagree
        simp only [IsRare, hstars, decide_eq_true_eq, Except.ok.injEq, exists_eq_left']
    | error f =>
        rw [hstars] at hagree
        exact hagree.elim
  · rw [run_bind_of_error hcall] at hrun
    rw [hcall] at hagree hkeeps
    have hcaught : rare = false ∧ parsed' = mid := by
      cases e
      all_goals cases hrun
      exact ⟨rfl, rfl⟩
    obtain ⟨rfl, rfl⟩ := hcaught
    refine ⟨iff_of_false Bool.false_ne_true ?_, hkeeps⟩
    rintro ⟨stars, hstars, -⟩
    rw [hstars] at hagree
    exact hagree.elim

/-! ### Specials -/

/-- The table has no such special, is not one that converts its specials, or has
converted this one. -/
def Current (table : ItemParameterTable) (parsed : Parsed) (special : UInt8) : Prop :=
  table.layout.bigEndian = false ∨ table.numSpecials ≤ (special &&& 0x3F).toNat ∨
    ∃ x, parsed.specials[(special &&& 0x3F).toNat]? = some x ∧ x.type ≠ 0xFFFF

theorem Current.untouched {parsed : Parsed} {special : UInt8} (h : Current table parsed special) :
    Untouched table parsed (.getSpecial special) := by
  rcases h with hlittle | hcount | ⟨x, hx, htype⟩
  · exact .inl hlittle
  · exact .inr (.inl hcount)
  · refine .inr (.inr fun y hy hplaceholder => ?_)
    obtain rfl : x = y := Option.some.inj (hx.symm.trans hy)
    exact absurd hplaceholder htype

theorem Current.untouched_after {parsed : Parsed} {special special' : UInt8}
    (h : Current table parsed special) (h' : Current table parsed special') :
    Untouched table (finalState ((table.getSpecial special).run parsed)) (.getSpecial special') := by
  rcases h' with hlittle | hcount | ⟨x', hx', htype'⟩
  · exact .inl hlittle
  · exact .inr (.inl hcount)
  · unfold ItemParameterTable.getSpecial
    dsimp only
    split_ifs with hcount hbig
    · exact Current.untouched (.inr (.inr ⟨x', hx', htype'⟩))
    · have hconverted : ∃ x, parsed.specials[(special &&& 0x3F).toNat]? = some x ∧
          x.type ≠ 0xFFFF := by
        rcases h with hlittle | hnone | hx
        · exact absurd hbig (Bool.eq_false_iff.mp hlittle)
        · exact absurd hnone hcount
        · exact hx
      obtain ⟨x, hx, htype⟩ := hconverted
      refine .inr (.inr fun y hy hplaceholder => ?_)
      rw [finalState_zoom] at hy
      change (finalState ((lookupResizing table.specialEntry {} (fun entry => entry.type != 0xFFFF)
        (special &&& 0x3F).toNat).run parsed.specials))[(special' &&& 0x3F).toNat]? = some y at hy
      have hparsed : (fun entry : Special => entry.type != 0xFFFF) x = true := bne_iff_ne.mpr htype
      rw [finalState_lookupResizing hx hparsed] at hy
      have hother : parsed.specials[(special' &&& 0x3F).toNat]? ≠ some y := by
        intro hget
        obtain rfl : x' = y := Option.some.inj (hx'.symm.trans hget)
        exact htype' hplaceholder
      cases hread : table.specialEntry (special &&& 0x3F).toNat with
      | error e =>
          rw [hread] at hy
          exact absurd hy hother
      | ok entry =>
          rw [hread] at hy
          -- only the special that was looked up is put there
          by_cases hsame : (special &&& 0x3F).toNat = (special' &&& 0x3F).toNat
          · have hlt := (List.getElem?_eq_some_iff.mp hx).1
            rw [← hsame] at hy ⊢
            rw [List.getElem?_set_self hlt] at hy
            rw [hread, Option.some.inj hy]
          · rw [List.getElem?_set_ne hsame] at hy
            exact absurd hy hother
    · rw [readOnly_fromExcept]
      exact Current.untouched (.inr (.inr ⟨x', hx', htype'⟩))

theorem agree_specialDef {parsed : Parsed} {special : UInt8} (h : Reliable table parsed)
    (huntouched : Untouched table parsed (.getSpecial special)) :
    Agree SameKind (outcome ((table.getSpecial special).run parsed)) (specialDef table special) ∧
      Reliable table (finalState ((table.getSpecial special).run parsed)) :=
  ⟨(agree_getSpecial_iff table parsed special).mpr huntouched,
    keeps_perform table (.getSpecial special) parsed h⟩

/-- What the step for the special leaves, however it ends. -/
structure Moved (table : ItemParameterTable) (tekker tekker' : Tekker) : Prop where
  item : tekker'.item = tekker.item ∨
    ∃ v, tekker'.item = tekker.item.withByte 4 v ∧ SameType table tekker.item.data1[4] v
  reliable : Reliable table tekker'.parsed
  bonusTables : tekker'.bonusTables = tekker.bonusTables

theorem moved_lookups {parsed' : Parsed} (h : Reliable table parsed') :
    Moved table tekker { tekker with parsed := parsed' } := ⟨.inl rfl, h, rfl⟩

theorem eq_ok_of_agree {α : Type} {x y : Except Exception α} {a : α} (h : Agree SameKind x y)
    (hx : x = .ok a) : y = .ok a := by
  subst hx
  cases y with
  | ok b => exact congrArg Except.ok (Eq.symm h)
  | error e => exact h.elim

/-- The special of the weapon and its neighbours can be looked up. -/
def SpecialsCurrent (table : ItemParameterTable) (tekker : Tekker) : Prop :=
  ∀ special ∈ [tekker.item.data1[4] - 1, tekker.item.data1[4], tekker.item.data1[4] + 1],
    Current table tekker.parsed special

theorem SpecialsCurrent.movedSpecial (h : SpecialsCurrent table tekker) (delta : Int8) :
    Current table tekker.parsed (movedSpecial tekker.item.data1[4] delta) := by
  apply h
  unfold TekkerAdjustments.movedSpecial
  split_ifs <;> simp

theorem run_lookingUp_of_ok (tekker : Tekker) {α : Type} {x : Lookup α} {a : α} {parsed : Parsed}
    (h : x.run tekker.parsed = .ok a parsed) :
    (lookingUp x).run tekker = .ok a { tekker with parsed } := by
  rw [lookingUp, run_zoom, h]

theorem run_lookingUp_of_error (tekker : Tekker) {α : Type} {x : Lookup α} {e : Exception} {parsed : Parsed}
    (h : x.run tekker.parsed = .error e parsed) :
    (lookingUp x).run tekker = .error e { tekker with parsed } := by
  rw [lookingUp, run_zoom, h]

theorem moved_moveSpecial (tekker : Tekker) (h : Reliable table tekker.parsed)
    (hcurrent : SpecialsCurrent table tekker) (delta : Int8) :
    Moved table tekker (finalState ((moveSpecial table delta).run tekker)) := by
  have hspecial : Current table tekker.parsed tekker.item.data1[4] := hcurrent _ (by simp)
  have hmoved := hcurrent.movedSpecial delta
  obtain ⟨hagree, hreliable⟩ := agree_specialDef h hspecial.untouched
  have huntouched := hspecial.untouched_after hmoved
  unfold moveSpecial
  rw [run_get_bind]
  dsimp only
  split_ifs with hsame
  · rcases hbefore : (table.getSpecial tekker.item.data1[4]).run tekker.parsed with
      ⟨before, mid⟩ | ⟨e, mid⟩
    · rw [hbefore] at hagree hreliable huntouched
      rw [run_bind_of_ok (run_lookingUp_of_ok tekker hbefore)]
      obtain ⟨hagree', hreliable'⟩ := agree_specialDef hreliable huntouched
      rcases hafter : (table.getSpecial (movedSpecial tekker.item.data1[4] delta)).run mid with
        ⟨after, last⟩ | ⟨e, last⟩
      · rw [finalState_ok, hafter] at hagree' hreliable'
        have hrun := run_lookingUp_of_ok { tekker with parsed := mid } hafter
        rw [run_bind_of_ok hrun]
        split_ifs with htype
        · refine ⟨.inr ⟨_, rfl, before, after, ?_, ?_, htype⟩, hreliable', rfl⟩
          · exact eq_ok_of_agree hagree rfl
          · exact eq_ok_of_agree hagree' rfl
        · exact moved_lookups hreliable'
      · rw [finalState_ok, hafter] at hreliable'
        have hrun := run_lookingUp_of_error { tekker with parsed := mid } hafter
        rw [run_bind_of_error hrun]
        exact moved_lookups hreliable'
    · rw [hbefore] at hreliable
      rw [run_bind_of_error (run_lookingUp_of_error tekker hbefore)]
      exact moved_lookups hreliable
  · exact ⟨.inl rfl, h, rfl⟩

/-! ### The parts of a call -/

/-- An exception from the lookups that is caught leaves what they have changed. -/
theorem state_of_run_tryCatch {σ : Type} {x : EStateM Exception σ PUnit} {s s' : σ}
    (h : (tryCatch x fun
      | .outOfRange _ => return
      | e => throw e).run s = .ok ⟨⟩ s') : s' = finalState (x.run s) := by
  rw [run_tryCatch] at h
  rcases hcall : x.run s with ⟨⟨⟩, mid⟩ | ⟨e, mid⟩
  · rw [hcall] at h
    cases h
    rfl
  · rw [hcall] at h
    cases e
    all_goals cases h
    rfl

theorem moved_adjustSpecial (h : Reliable table tekker.parsed)
    (hcurrent : SpecialsCurrent table tekker) {luck : Int8}
    (hrun : (adjustSpecial set table favored request).run tekker = .ok luck tekker') :
    Moved table tekker tekker' := by
  unfold adjustSpecial at hrun
  obtain ⟨⟨deltaIndex, delta⟩, drawn, hdraw, hrun⟩ := exists_of_run_bind hrun
  obtain ⟨specialTables, -, rfl⟩ := exists_of_run_zoom hdraw
  obtain ⟨_, last, hmove, hluck⟩ := exists_of_run_bind hrun
  obtain ⟨-, rfl⟩ := of_run_fromExcept hluck
  have hmoved := moved_moveSpecial { tekker with specialTables } h hcurrent delta
  rw [state_of_run_tryCatch hmove]
  exact ⟨hmoved.item, hmoved.reliable, hmoved.bonusTables⟩

/-- What the step for the grind leaves. -/
structure Ground (table : ItemParameterTable) (tekker tekker' : Tekker) : Prop where
  item : IsRare table tekker.item ∧ tekker'.item = tekker.item ∨
    ¬ IsRare table tekker.item ∧ ∃ weapon grind, weaponDef table tekker.item = .ok weapon ∧
      grind ≤ weapon.maxGrind ∧ tekker'.item = tekker.item.withByte 3 grind
  reliable : Reliable table tekker'.parsed
  bonusTables : tekker'.bonusTables = tekker.bonusTables

theorem adjustedGrind_le (grind : UInt8) (delta : Int8) (maxGrind : UInt8) :
    adjustedGrind grind delta maxGrind ≤ maxGrind := by
  have hmax := maxGrind.toNat_lt
  have hbyte : (min (max ((grind.toNat : Int) + delta.toInt) 0) maxGrind.toNat).toNat < UInt8.size := by
    change _ < 256
    omega
  rw [UInt8.le_iff_toNat_le, adjustedGrind, UInt8.toNat_ofNat_of_lt' hbyte]
  omega

theorem ground_adjustGrind (h : Reliable table tekker.parsed) {luck : Int8}
    (hrun : (adjustGrind set table favored request).run tekker = .ok luck tekker') :
    Ground table tekker tekker' := by
  unfold adjustGrind at hrun
  rw [run_get_bind] at hrun
  obtain ⟨rare, mid, hlookup, hrun⟩ := exists_of_run_bind hrun
  obtain ⟨parsed, hrare, rfl⟩ := exists_of_run_zoom hlookup
  obtain ⟨hiff, hreliable⟩ := isRare_of_isItemRare h hrare
  cases rare with
  | true =>
      obtain ⟨-, rfl⟩ := of_run_pure hrun
      exact ⟨.inl ⟨hiff.mp rfl, rfl⟩, hreliable, rfl⟩
  | false =>
      obtain ⟨weapon, mid, hlookup', hrun⟩ := exists_of_run_bind hrun
      obtain ⟨parsed', hweapon, rfl⟩ := exists_of_run_zoom hlookup'
      obtain ⟨hagree, hreliable'⟩ := agree_weaponDef hreliable tekker.item
      obtain ⟨⟨deltaIndex, delta⟩, drawn, hdraw, hrun⟩ := exists_of_run_bind hrun
      obtain ⟨grindTables, -, rfl⟩ := exists_of_run_zoom hdraw
      obtain ⟨_, last, hput, hluck⟩ := exists_of_run_bind hrun
      obtain ⟨-, rfl⟩ := of_run_fromExcept hluck
      obtain rfl := of_run_modify hput
      dsimp only at hweapon
      rw [hweapon] at hagree hreliable'
      refine ⟨.inr ⟨fun hrare => Bool.false_ne_true (hiff.mpr hrare), weapon, _, ?_,
        adjustedGrind_le tekker.item.data1[3] delta weapon.maxGrind, rfl⟩, hreliable', rfl⟩
      exact eq_ok_of_agree hagree rfl

theorem exists_of_adjustBonuses {luck : Int8}
    (hrun : (adjustBonuses set favored request).run tekker = .ok luck tekker') :
    ∃ deltaIndex delta bonusTables,
      (drawDelta set set.bonusDeltaProbTableOffset favored request.sectionId request.bonusWord).run
          tekker.bonusTables = .ok (deltaIndex, delta) bonusTables ∧
        tekker'.item = bonusSlots.foldl (adjustBonus delta) tekker.item ∧
        tekker'.parsed = tekker.parsed := by
  unfold adjustBonuses at hrun
  obtain ⟨⟨deltaIndex, delta⟩, drawn, hzoom, hrun⟩ := exists_of_run_bind hrun
  obtain ⟨bonusTables, hdraw, rfl⟩ := exists_of_run_zoom hzoom
  rw [run_modify_bind] at hrun
  obtain ⟨-, rfl⟩ := of_run_fromExcept hrun
  refine ⟨deltaIndex, delta, bonusTables, hdraw, ?_, rfl⟩
  dsimp only

/-! ## One call -/

/-- The delta of the bonuses, as the code draws it in this state. -/
def drawnBonusDelta (set : TekkerAdjustmentSet) (tekker : Tekker) (request : Request) :
    Except Exception Int8 := do
  let favored ← isFavored tekker.item request.sectionId
  let drawn ← outcome ((drawDelta set set.bonusDeltaProbTableOffset favored request.sectionId
    request.bonusWord).run tekker.bonusTables)
  return drawn.2

def BonusesFit (item : ItemData) (delta : Int8) : Prop :=
  ∀ slot ∈ bonusSlots, IsPresent item.data1[slot.1] → BonusFits item.data1[slot.2] delta

/-- Each present bonus and the drawn delta add up to a signed byte. -/
def Fits (set : TekkerAdjustmentSet) (tekker : Tekker) (request : Request) : Prop :=
  ∀ delta, drawnBonusDelta set tekker request = .ok delta → BonusesFit tekker.item delta

/-- The weapon before its bonuses are adjusted. -/
structure Prepared (table : ItemParameterTable) (item item' : ItemData) : Prop where
  special : item'.data1[4] = item.data1[4] ∨ SameType table item.data1[4] item'.data1[4]
  grind_of_rare : IsRare table item → item'.data1[3] = item.data1[3]
  grind_of_not_rare : ¬ IsRare table item →
    ∃ weapon, weaponDef table item = .ok weapon ∧ item'.data1[3] ≤ weapon.maxGrind
  others : ∀ (z : Nat) (hz : z < 12), z ∉ [3, 4] → item'.data1[z] = item.data1[z]
  id : item'.id = item.id
  data2d : item'.data2d = item.data2d

theorem prepared_of_parts {mid last : Tekker} (hmoved : Moved table tekker mid)
    (hground : Ground table mid last) : Prepared table tekker.item last.item := by
  have hkind : mid.item.data1[1] = tekker.item.data1[1] ∧
      mid.item.data1[2] = tekker.item.data1[2] := by
    rcases hmoved.item with hitem | ⟨v, hitem, -⟩
    · rw [hitem]
      exact ⟨rfl, rfl⟩
    · simp [hitem]
  have hweapon : weaponDef table mid.item = weaponDef table tekker.item := by
    rw [weaponDef, hkind.1, hkind.2]
    rfl
  have hrare : IsRare table mid.item ↔ IsRare table tekker.item := by
    rw [IsRare, IsRare, baseStars, baseStars, hweapon]
  -- the special is byte 4, and the grind is byte 3
  have hmid : mid.item.data1[3] = tekker.item.data1[3] ∧
      (mid.item.data1[4] = tekker.item.data1[4] ∨
        SameType table tekker.item.data1[4] mid.item.data1[4]) ∧
      (∀ (z : Nat) (hz : z < 12), z ≠ 4 → mid.item.data1[z] = tekker.item.data1[z]) ∧
      mid.item.id = tekker.item.id ∧ mid.item.data2d = tekker.item.data2d := by
    rcases hmoved.item with hitem | ⟨v, hitem, hsame⟩
    · rw [hitem]
      exact ⟨rfl, .inl rfl, fun _ _ _ => rfl, rfl, rfl⟩
    · rw [hitem]
      refine ⟨by simp, .inr (by simpa using hsame), ?_, rfl, rfl⟩
      intro z hz hne
      rw [getElem_withByte, if_neg fun h => hne h.symm]
  obtain ⟨hgrind, hspecial, hothers, hid, hdata2d⟩ := hmid
  rcases hground.item with ⟨hisRare, hitem⟩ | ⟨hnotRare, weapon, grind, hdef, hle, hitem⟩
  · rw [hitem]
    rw [hrare] at hisRare
    refine ⟨hspecial, fun _ => hgrind, fun h => absurd hisRare h, ?_, hid, hdata2d⟩
    intro z hz hne
    exact hothers z hz fun h => hne (by simp [h])
  · rw [hitem]
    rw [hrare] at hnotRare
    rw [hweapon] at hdef
    refine ⟨by simpa using hspecial, fun h => absurd h hnotRare, fun _ => ?_, ?_, hid, hdata2d⟩
    · exact ⟨weapon, hdef, by simpa using hle⟩
    · intro z hz hne
      simp only [List.mem_cons, List.not_mem_nil, or_false, not_or] at hne
      rw [getElem_withByte, if_neg fun h => hne.1 h.symm, hothers z hz hne.2]

theorem adjusted_iff_bonusesFit {item item' : ItemData} {delta : Int8}
    (h : Prepared table item item') (hdelta : delta ∈ deltaTable) :
    Adjusted table item (bonusSlots.foldl (adjustBonus delta) item') ↔ BonusesFit item delta := by
  have hslot : ∀ slot ∈ bonusSlots, item'.data1[slot.1] = item.data1[slot.1] ∧
      item'.data1[slot.2] = item.data1[slot.2] := by
    intro slot hmem
    unfold bonusSlots at hmem
    simp only [List.mem_cons, List.not_mem_nil, or_false] at hmem
    rcases hmem with rfl | rfl | rfl
    all_goals exact ⟨h.others _ (by decide) (by decide), h.others _ (by decide) (by decide)⟩
  have hbonus : ∀ slot ∈ bonusSlots,
      (bonusSlots.foldl (adjustBonus delta) item').data1[slot.2] =
        if IsPresent item.data1[slot.1] then adjustedBonus item.data1[slot.2] delta
        else item.data1[slot.2] := by
    intro slot hmem
    rw [data1_foldl_adjustBonus delta item' hmem, (hslot slot hmem).1, (hslot slot hmem).2]
  have hframe : ∀ (z : Nat) (hz : z < 12), z ∉ [7, 9, 11] →
      (bonusSlots.foldl (adjustBonus delta) item').data1[z] = item'.data1[z] := by
    intro z hz hne
    simp only [List.mem_cons, List.not_mem_nil, or_false, not_or] at hne
    apply data1_foldl_adjustBonus_of_ne delta item' hz
    intro slot hmem hslot
    have hz' := congrArg Fin.val hslot
    unfold bonusSlots at hmem
    simp only [List.mem_cons, List.not_mem_nil, or_false] at hmem
    rcases hmem with rfl | rfl | rfl
    · exact hne.1 hz'.symm
    · exact hne.2.1 hz'.symm
    · exact hne.2.2 hz'.symm
  constructor
  · rintro ⟨⟨delta', hdelta', hbonuses⟩, -, -, -, -, -, -⟩ slot hmem hpresent
    have hsigned := hbonuses slot hmem
    rw [hbonus slot hmem, if_pos hpresent, if_pos hpresent] at hsigned
    exact fits_of_signed_adjustedBonus hdelta hdelta' hsigned
  · intro hfits
    obtain ⟨hid, hdata2d⟩ := foldl_adjustBonus_frame delta item'
    refine ⟨⟨delta, hdelta, ?_⟩, ?_, ?_, ?_, ?_, hid.trans h.id, hdata2d.trans h.data2d⟩
    · intro slot hmem
      rw [hbonus slot hmem]
      split_ifs with hpresent
      · exact signed_adjustedBonus_of_fits (hfits slot hmem hpresent)
      · rfl
    · rw [hframe 4 (by decide) (by decide)]
      exact h.special
    · rw [hframe 3 (by decide) (by decide)]
      exact h.grind_of_rare
    · rw [hframe 3 (by decide) (by decide)]
      exact h.grind_of_not_rare
    · intro z hz hne
      simp only [List.mem_cons, List.not_mem_nil, or_false, not_or] at hne
      rw [hframe z hz (by simp [hne]), h.others z hz (by simp [hne])]

theorem mem_deltaTable_of_drawDelta {offset word : UInt32} {sectionId deltaIndex : UInt8}
    {delta : Int8} {tables tables' : ProbTables}
    (hrun : (drawDelta set offset favored sectionId word).run tables =
      .ok (deltaIndex, delta) tables') : delta ∈ deltaTable := by
  unfold drawDelta at hrun
  obtain ⟨probTable, mid, -, hrun⟩ := exists_of_run_bind hrun
  obtain ⟨deltaIndex', mid', -, hrun⟩ := exists_of_run_bind hrun
  obtain ⟨delta', mid'', hdelta, hrun⟩ := exists_of_run_bind hrun
  obtain ⟨hget, -⟩ := of_run_fromExcept hdelta
  have hpair : (deltaIndex', delta') = (deltaIndex, delta) := (EStateM.Result.ok.inj hrun).1
  obtain ⟨-, rfl⟩ := Prod.mk.inj hpair
  unfold WeaponShops.at? at hget
  cases hindex : deltaTable[deltaIndex'.toNat]? with
  | none =>
      rw [hindex] at hget
      cases hget
  | some value =>
      rw [hindex] at hget
      cases hget
      exact List.mem_of_getElem? hindex

/-- A call that returns is right exactly when the bonuses fit. -/
theorem adjusted_applyTekkerDeltas_iff (h : Reliable table tekker.parsed)
    (hcurrent : SpecialsCurrent table tekker) {luck : Int}
    (hrun : (applyTekkerDeltas set table request).run tekker = .ok luck tekker') :
    Adjusted table tekker.item tekker'.item ↔ Fits set tekker request := by
  unfold applyTekkerDeltas at hrun
  rw [run_get_bind] at hrun
  dsimp only at hrun
  split_ifs at hrun
  · cases hrun
  obtain ⟨favored, start, hcall, hparts⟩ := exists_of_run_bind hrun
  obtain ⟨hfavored, hstart⟩ := of_run_fromExcept hcall
  rw [hstart] at hparts
  obtain ⟨specialLuck, mid, hspecial, hrun⟩ := exists_of_run_bind hparts
  have hmoved := moved_adjustSpecial h hcurrent hspecial
  obtain ⟨grindLuck, last, hgrind, hrun⟩ := exists_of_run_bind hrun
  have hground := ground_adjustGrind hmoved.reliable hgrind
  obtain ⟨bonusLuck, end', hbonuses, hrun⟩ := exists_of_run_bind hrun
  obtain ⟨-, rfl⟩ := of_run_pure hrun
  obtain ⟨deltaIndex, delta, bonusTables, hdraw, hitem, -⟩ := exists_of_adjustBonuses hbonuses
  have hdrawn : drawnBonusDelta set tekker request = .ok delta := by
    unfold drawnBonusDelta
    rw [hfavored, ok_bind, ← hmoved.bonusTables, ← hground.bonusTables, hdraw]
    rfl
  rw [hitem, adjusted_iff_bonusesFit (prepared_of_parts hmoved hground)
    (mem_deltaTable_of_drawDelta hdraw)]
  simp only [Fits, hdrawn, Except.ok.injEq, forall_eq']

/-! ## Runs -/

/-- What earlier lookups have left is right, specials apart. -/
abbrev Trusted (table : ItemParameterTable) (tekker : Tekker) : Prop :=
  Reliable table tekker.parsed

theorem keeps_lookingUp {α : Type} {x : Lookup α} (hx : Keeps (Reliable table) x) :
    Keeps (Trusted table) (lookingUp x) :=
  hx.zoom (fun _ h => h) fun _ _ _ h => h

theorem keeps_drawDelta {replace : ProbTables → Tekker → Tekker} {part : Tekker → ProbTables}
    (hreplace : ∀ tables tekker, (replace tables tekker).parsed = tekker.parsed)
    (x : EStateM Exception ProbTables (UInt8 × Int8)) :
    Keeps (Trusted table) (zoom part replace x) := by
  intro tekker h
  rw [finalState_zoom]
  change Reliable table _
  rw [hreplace]
  exact h

theorem keeps_putByte (z : Fin 12) (v : UInt8) : Keeps (Trusted table) (putByte z v) :=
  keeps_modify fun _ h => h

theorem keeps_moveSpecial (table : ItemParameterTable) (delta : Int8) :
    Keeps (Trusted table) (moveSpecial table delta) := by
  apply keeps_get_bind
  intro tekker h
  dsimp only
  split_ifs
  · apply Keeps.bind (keeps_lookingUp (keeps_perform table (.getSpecial _))) _ tekker h
    intro before
    apply Keeps.bind (keeps_lookingUp (keeps_perform table (.getSpecial _)))
    intro after
    split_ifs
    · exact keeps_putByte _ _
    · exact (readOnly_pure _).keeps
  · exact h

theorem keeps_isItemRare (table : ItemParameterTable) (item : ItemData) :
    Keeps (Reliable table) (isItemRare table item) := by
  apply keeps_tryCatch
  · apply Keeps.bind
    · exact fun parsed h => (agree_baseStars h item).2
    · exact fun _ => (readOnly_pure _).keeps
  · intro e
    cases e
    all_goals first | exact (readOnly_pure _).keeps | exact (readOnly_throw _).keeps

theorem keeps_adjustSpecial (set : TekkerAdjustmentSet) (table : ItemParameterTable)
    (favored : Bool) (request : Request) :
    Keeps (Trusted table) (adjustSpecial set table favored request) := by
  apply Keeps.bind
  · apply keeps_drawDelta
    exact fun _ _ => rfl
  · intro drawn
    apply Keeps.bind
    · apply keeps_tryCatch (keeps_moveSpecial table _)
      intro e
      cases e
      all_goals first | exact (readOnly_pure _).keeps | exact (readOnly_throw _).keeps
    · exact fun _ => (readOnly_fromExcept _).keeps

theorem keeps_adjustGrind (set : TekkerAdjustmentSet) (table : ItemParameterTable)
    (favored : Bool) (request : Request) :
    Keeps (Trusted table) (adjustGrind set table favored request) := by
  apply keeps_get_bind
  intro tekker h
  apply Keeps.bind (keeps_lookingUp (keeps_isItemRare table _)) _ tekker h
  intro rare
  split_ifs
  · exact (readOnly_pure _).keeps
  · apply Keeps.bind (keeps_lookingUp (keeps_perform table (.getWeapon _ _)))
    intro weapon
    apply Keeps.bind
    · apply keeps_drawDelta
      exact fun _ _ => rfl
    · intro drawn
      apply Keeps.bind (keeps_putByte _ _)
      exact fun _ => (readOnly_fromExcept _).keeps

theorem keeps_adjustBonuses (set : TekkerAdjustmentSet) (table : ItemParameterTable)
    (favored : Bool) (request : Request) :
    Keeps (Trusted table) (adjustBonuses set favored request) := by
  apply Keeps.bind
  · apply keeps_drawDelta
    exact fun _ _ => rfl
  · intro drawn
    apply Keeps.bind
    · exact keeps_modify fun _ h => h
    · exact fun _ => (readOnly_fromExcept _).keeps

theorem keeps_applyTekkerDeltas (set : TekkerAdjustmentSet) (table : ItemParameterTable)
    (request : Request) : Keeps (Trusted table) (applyTekkerDeltas set table request) := by
  apply keeps_get_bind
  intro tekker h
  dsimp only
  split_ifs
  · exact h
  · apply Keeps.bind (readOnly_fromExcept _).keeps _ tekker h
    intro favored
    apply Keeps.bind (keeps_adjustSpecial set table favored request)
    intro specialLuck
    apply Keeps.bind (keeps_adjustGrind set table favored request)
    intro grindLuck
    apply Keeps.bind (keeps_adjustBonuses set table favored request)
    exact fun _ => (readOnly_pure _).keeps

/-- The calls of a run, each with the state before it. An exception ends a call
and not the run. -/
def calls (set : TekkerAdjustmentSet) (table : ItemParameterTable) (tekker : Tekker)
    (requests : List Request) : List (Tekker × Request) :=
  trace (fun request => attempt (applyTekkerDeltas set table request)) tekker requests

theorem trusted_of_mem_calls {requests : List Request} (h : Trusted table tekker) :
    ∀ c ∈ calls set table tekker requests, Trusted table c.1 := by
  apply invariant_of_mem_trace (Trusted table) _ h
  intro t ht request _ r t' hcall
  rw [(attempt_eq_ok.mp hcall).2]
  exact keeps_applyTekkerDeltas set table request t ht

/-- In a run, every call that returns adjusts the weapon as it should exactly
when at every such call no present bonus and the drawn delta leave the signed
bytes. -/
theorem adjusted_iff_fits (set : TekkerAdjustmentSet) (table : ItemParameterTable)
    (tekker : Tekker) (h : Reliable table tekker.parsed) (requests : List Request)
    (hcurrent : ∀ c ∈ calls set table tekker requests, SpecialsCurrent table c.1) :
    (∀ c ∈ calls set table tekker requests, ∀ luck tekker',
        (applyTekkerDeltas set table c.2).run c.1 = .ok luck tekker' →
          Adjusted table c.1.item tekker'.item) ↔
      ∀ c ∈ calls set table tekker requests,
        (∃ luck tekker', (applyTekkerDeltas set table c.2).run c.1 = .ok luck tekker') →
          Fits set c.1 c.2 := by
  refine forall₂_congr fun c hc => ?_
  have htrusted := trusted_of_mem_calls h c hc
  constructor
  · rintro hright ⟨luck, tekker', hrun⟩
    have hadjusted := hright luck tekker' hrun
    exact (adjusted_applyTekkerDeltas_iff htrusted (hcurrent c hc) hrun).mp hadjusted
  · intro hfits luck tekker' hrun
    have hfit := hfits ⟨luck, tekker', hrun⟩
    exact (adjusted_applyTekkerDeltas_iff htrusted (hcurrent c hc) hrun).mpr hfit

/-! The tables of a weapon class with one weapon, and of a tekker who always
draws one delta. -/

def weaponData : List UInt8 :=
  [0x5C] ++ List.replicate 0x5B 0 ++ [1, 0, 0, 0, 0x64, 0, 0, 0] ++ List.replicate 0x1A 0 ++ [9] ++
    List.replicate 0x21 0

def weaponTable : ItemParameterTable :=
  ⟨.bbV4, weaponData, .v4, ⟨0x5C, 0, 0, 0, 0, 0, 0⟩, 0xED, 0x1B, 0x29⟩

def tekkerData (deltaIndex : UInt8) : List UInt8 :=
  [0, 0, 0, 0x18, 0, 0, 0, 0x18, 0, 0, 0, 0x18, 0, 0, 0, 0xFF, 0, 0, 0, 0xFF, 0, 0, 0, 0xFF,
    0, 0, 0, 0x20, 0, 0, 0, 1] ++ (List.replicate 10 [deltaIndex, 1, 1]).flatten ++
    List.replicate 0x10 0

def tekkerSet (deltaIndex : UInt8) : TekkerAdjustmentSet :=
  ⟨tekkerData deltaIndex, 0x18, 0x18, 0x18, 0xFF, 0xFF, 0xFF⟩

def freshTekker (bonus : UInt8) : Tekker where
  item := ⟨#v[0, 0, 0, 5, 0, 0, 1, bonus, 0, 0, 0, 0], 0x10000, 0⟩
  parsed := .empty
  specialTables := fun _ _ => .empty
  grindTables := fun _ _ => .empty
  bonusTables := fun _ _ => .empty

def wordless : Request := ⟨0, 0, 0, 0⟩

theorem adjusted_iff_fits_lowBonus :
    (∀ c ∈ calls (tekkerSet 0) weaponTable (freshTekker 0x88) [wordless, wordless], ∀ luck tekker',
        (applyTekkerDeltas (tekkerSet 0) weaponTable c.2).run c.1 = .ok luck tekker' →
          Adjusted weaponTable c.1.item tekker'.item) ↔
      ∀ c ∈ calls (tekkerSet 0) weaponTable (freshTekker 0x88) [wordless, wordless],
        (∃ luck tekker', (applyTekkerDeltas (tekkerSet 0) weaponTable c.2).run c.1 =
          .ok luck tekker') → Fits (tekkerSet 0) c.1 c.2 :=
  adjusted_iff_fits (tekkerSet 0) weaponTable (freshTekker 0x88) (reliable_empty weaponTable)
    [wordless, wordless] fun _ _ _ _ => .inl rfl

set_option maxRecDepth 8000 in
/-- Ten less than -120 is 126 as a signed byte, so the bonus becomes 100. -/
theorem not_adjusted_lowBonus :
    TekkerAdjustmentSet.load (tekkerData 0) = .ok (tekkerSet 0) ∧
      ItemParameterTable.load weaponData .bbV4 = .ok weaponTable ∧
      ¬ ∀ c ∈ calls (tekkerSet 0) weaponTable (freshTekker 0x88) [wordless], ∀ luck tekker',
        (applyTekkerDeltas (tekkerSet 0) weaponTable c.2).run c.1 = .ok luck tekker' →
          Adjusted weaponTable c.1.item tekker'.item := by
  refine ⟨rfl, rfl, fun h => ?_⟩
  have hreturns : outcome ((applyTekkerDeltas (tekkerSet 0) weaponTable wordless).run
      (freshTekker 0x88)) = .ok 0 := rfl
  rcases hrun : (applyTekkerDeltas (tekkerSet 0) weaponTable wordless).run (freshTekker 0x88) with
    ⟨luck, tekker'⟩ | ⟨e, tekker'⟩
  · have hadjusted := h (freshTekker 0x88, wordless) List.mem_cons_self luck tekker' hrun
    have hiff := adjusted_applyTekkerDeltas_iff (reliable_empty weaponTable)
      (fun _ _ => .inl rfl) hrun
    have hfit := hiff.mp hadjusted (-10) rfl (6, 7) List.mem_cons_self (by decide)
    exact absurd hfit.1 (by decide)
  · rw [hrun] at hreturns
    cases hreturns

end HuntersGuild.TekkerAdjustments
