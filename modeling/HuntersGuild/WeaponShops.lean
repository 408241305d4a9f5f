import HuntersGuild.ItemParameterHistory
import HuntersGuild.MapStates
import HuntersGuild.RandomPrograms
import Mathlib.Data.List.Sort

/-!
The weapons that a shop offers: the tables they are drawn from, the parts of a
weapon, and the loop that fills the shop.
-/

namespace HuntersGuild.WeaponShops

open HuntersGuild.ByteStreams
open HuntersGuild.ItemParameters
open HuntersGuild.Items (ItemData Version)
open HuntersGuild.MapStates (Difficulty)
open HuntersGuild.RandomPrograms
open HuntersGuild.StatefulPrograms

/-- The random generator gives any stream of words. -/
abbrev Program := EStateM Exception (Stream' UInt32)

/-- What a call leaves undefined is an exception of its own here: a remainder
of a division by zero is one. -/
def randInt (max : UInt64) : Program UInt32 := do
  let r ← next
  if max = 0 then throw .undefined else return (r.toUInt64 % max).toUInt32

/-- `std::clamp`, which is undefined when the bounds are the wrong way round. -/
def clamp (v lo hi : UInt8) : Except Exception UInt8 :=
  if hi < lo then .error .undefined else .ok (if v < lo then lo else if hi < v then hi else v)

/-! ## Probability tables -/

/-- The items in the order of the array. The last one is the first to be popped. -/
structure ProbabilityTable (α : Type) (maxCount : Nat) where
  items : List α
  count_le : items.length ≤ maxCount

namespace ProbabilityTable

variable {α : Type} {maxCount : Nat}

def empty : ProbabilityTable α maxCount := ⟨[], Nat.zero_le _⟩

def push (self : ProbabilityTable α maxCount) (item : α) :
    Except Exception (ProbabilityTable α maxCount) :=
  if h : self.items.length < maxCount then
    .ok ⟨self.items ++ [item], by rw [List.length_append]; exact h⟩
  else
    .error (.runtimeError "push to full probability table")

/-- The items in the order in which they are popped. -/
def pops (self : ProbabilityTable α maxCount) : List α := self.items.reverse

def swapItems (z otherZ : Nat) (items : List α) : List α :=
  match items[z]?, items[otherZ]? with
  | some t, some other => (items.set z other).set otherZ t
  | _, _ => items

@[simp] theorem length_swapItems (z otherZ : Nat) (items : List α) :
    (swapItems z otherZ items).length = items.length := by
  unfold swapItems
  split
  · rw [List.length_set, List.length_set]
  · rfl

/-- One round of the loop in `shuffle`. -/
def shuffleStep (self : ProbabilityTable α maxCount) (z : Nat) :
    Program (ProbabilityTable α maxCount) := do
  let r ← next
  return ⟨swapItems z (r.toNat % (z + 1)) self.items, by
    rw [length_swapItems]
    exact self.count_le⟩

def shuffle (self : ProbabilityTable α maxCount) : Program (ProbabilityTable α maxCount) :=
  (List.range' 1 (self.items.length - 1)).foldlM shuffleStep self

/-- A single item is taken without a draw. -/
def sample (self : ProbabilityTable α maxCount) : Program α :=
  match self.items with
  | [] => throw (.runtimeError "sample from empty probability table")
  | [item] => return item
  | item :: rest => do
    let r ← next
    return (item :: rest).getD (r.toNat % (rest.length + 1)) item

end ProbabilityTable

/-! ## The tables of a shop -/

/-- The values in the file are words or bytes, and so are the weights. -/
structure WeightTableEntry where
  value : UInt32
  weight : UInt32

structure RangeTableEntry where
  min : UInt32
  max : UInt32
deriving DecidableEq

/-- Each value is pushed as often as its weight says. Only the low byte of a
value is pushed. -/
def pushWeights (entries : List WeightTableEntry) :
    Except Exception (ProbabilityTable UInt8 100) :=
  entries.foldlM
    (fun pt e => (List.replicate e.weight.toNat e.value.toUInt8).foldlM ProbabilityTable.push pt) .empty

/-- The offsets in the file. -/
structure WeaponRandomSet where
  data : List UInt8
  weaponTypeTable : UInt32
  bonusTypeTable1 : UInt32
  bonusTypeTable2 : UInt32
  bonusRangeTable1 : UInt32
  bonusRangeTable2 : UInt32
  specialModeTable : UInt32
  standardGrindRangeTable : UInt32
  favoredGrindRangeTable : UInt32
deriving DecidableEq

namespace WeaponRandomSet

/-- `WeaponRandomSet(data)`. -/
def load (data : List UInt8) : Except Exception WeaponRandomSet := do
  let root ← pget data ((data.length + (2 ^ 64 - 0x10)) % 2 ^ 64) 4
  let offsets ← pget data (u32 true root 0).toNat 0x20
  return ⟨data, u32 true offsets 0x00, u32 true offsets 0x04, u32 true offsets 0x08,
    u32 true offsets 0x0C, u32 true offsets 0x10, u32 true offsets 0x14, u32 true offsets 0x18,
    u32 true offsets 0x1C⟩

/-- Entries with a word for the value and a word for the weight. -/
def entries32 (count : Nat) (bytes : List UInt8) : List WeightTableEntry :=
  (List.range count).map fun z => ⟨u32 true bytes (8 * z), u32 true bytes (8 * z + 4)⟩

def getWeaponTypeTable (self : WeaponRandomSet) (index : Nat) :
    Except Exception (List WeightTableEntry) := do
  let spec ← pget self.data (self.weaponTypeTable.toNat + index * 8) 8
  let count := (u8 spec 4).toNat
  let bytes ← pget self.data (u32 true spec 0).toNat (count * 2)
  return (List.range count).map fun z =>
    ⟨(u8 bytes (2 * z)).toUInt32, (u8 bytes (2 * z + 1)).toUInt32⟩

def getBonusTypeTable (self : WeaponRandomSet) (which index : Nat) :
    Except Exception (List WeightTableEntry) := do
  let baseOffset := if which ≠ 0 then self.bonusTypeTable2 else self.bonusTypeTable1
  let bytes ← pget self.data (baseOffset.toNat + 0x30 * index) 0x30
  return entries32 6 bytes

def getRange (self : WeaponRandomSet) (baseOffset : UInt32) (index : Nat) :
    Except Exception RangeTableEntry := do
  let bytes ← pget self.data (baseOffset.toNat + 8 * index) 8
  return ⟨u32 true bytes 0, u32 true bytes 4⟩

def getBonusRange (self : WeaponRandomSet) (which index : Nat) : Except Exception RangeTableEntry :=
  self.getRange (if which ≠ 0 then self.bonusRangeTable2 else self.bonusRangeTable1) index

def getSpecialModeTable (self : WeaponRandomSet) (index : Nat) :
    Except Exception (List WeightTableEntry) := do
  let bytes ← pget self.data (self.specialModeTable.toNat + 0x18 * index) 0x18
  return entries32 3 bytes

def getStandardGrindRange (self : WeaponRandomSet) (index : Nat) : Except Exception RangeTableEntry :=
  self.getRange self.standardGrindRangeTable index

def getFavoredGrindRange (self : WeaponRandomSet) (index : Nat) : Except Exception RangeTableEntry :=
  self.getRange self.favoredGrindRangeTable index

end WeaponRandomSet

/-! ## Stars of specials -/

/-- The first item ID with stars, the end of these IDs, and the ID of the first
special. -/
def starIds (version : Version) : Nat × Nat × Nat :=
  match version with
  | .dcNte => (0x22, 0x168, 0xAA)
  | .dc112000 | .dcV1 => (0x26, 0x16C, 0xAE)
  | .dcV2 | .pcNte | .pcV2 => (0x4E, 0x215, 0x138)
  | .gcNte => (0x76, 0x298, 0x1A3)
  | .gcEp3Nte | .gcEp3 | .gcV3 | .xbV3 => (0x94, 0x2F7, 0x1CB)
  | .bbV4 => (0xB1, 0x437, 0x256)
  | .pcPatch | .bbPatch | .unknown => (0, 0, 0)

/-- The offset is in the table offsets, which are found as `load` finds them. -/
def starValueTable (self : ItemParameterTable) : Except Exception UInt32 := do
  let root ← pget self.data ((self.data.length + (2 ^ 64 - 0x10)) % 2 ^ 64) 4
  let entry ← pget self.data (u32 (isBigEndian self.version) root 0).toNat self.layout.offsetsSize
  return u32 self.layout.bigEndian entry
    (match self.layout with
    | .dcProtos | .v1V2 => 0x30
    | .gcNte | .v3Le | .v3Be | .v4 => 0x2C)

def getItemStars (self : ItemParameterTable) (itemId : UInt32) : Except Exception UInt8 := do
  let baseOffset ← starValueTable self
  let (firstId, lastId, _) := starIds self.version
  if firstId ≤ itemId.toNat ∧ itemId.toNat < lastId then
    let stars ← pget self.data (((baseOffset + itemId).toNat + (2 ^ 64 - firstId)) % 2 ^ 64) 1
    return u8 stars 0
  else
    return 0

def getSpecialStars (self : ItemParameterTable) (special : UInt8) : Except Exception UInt8 :=
  if special &&& 0x3F ≠ 0 ∧ special &&& 0x80 = 0 then
    getItemStars self (.ofNat (special.toNat + (starIds self.version).2.2))
  else
    .ok 0

/-! ## Parts of a weapon -/

structure ItemCreator where
  difficulty : Difficulty
  sectionId : UInt8
  weaponRandomSet : WeaponRandomSet
  itemParameterTable : ItemParameterTable

def favoredWeaponBySectionId : List UInt8 :=
  [0x09, 0x07, 0x02, 0x04, 0x08, 0x0A, 0xFF, 0x03, 0xFF, 0x05]

def at? {α : Type} (items : List α) (index : Nat) : Except Exception α :=
  match items[index]? with
  | some item => .ok item
  | none => .error (.outOfRange "array::at")

/-- The number of the first bound that the level is below, or the number after
the last one. -/
def levelIndex (bounds : List Nat) (playerLevel : Nat) : Nat :=
  bounds.findIdx (playerLevel < ·)

def numItems (playerLevel : Nat) : Nat :=
  if playerLevel < 11 then 10 else if playerLevel < 43 then 12 else 16

def specials39 : List (UInt8 × UInt8) :=
  [(0x28, 0x00), (0x2A, 0x00), (0x2B, 0x00), (0x35, 0x00), (0x52, 0x00), (0x48, 0x00), (0x64, 0x00),
    (0x59, 0x00), (0x8A, 0x00), (0x99, 0x00)]

def specials3A : List (UInt8 × UInt8) :=
  [(0x99, 0x00), (0x64, 0x00), (0x8A, 0x00), (0x28, 0x00), (0x59, 0x00), (0x2B, 0x00), (0x52, 0x00),
    (0x2A, 0x00), (0x48, 0x00), (0x35, 0x00)]

def weaponDefs : List (UInt8 × UInt8) :=
  [(0x01, 0x00), (0x01, 0x01), (0x01, 0x02), (0x01, 0x03), (0x01, 0x04),
    (0x03, 0x00), (0x03, 0x01), (0x03, 0x02), (0x03, 0x03), (0x03, 0x04),
    (0x02, 0x00), (0x02, 0x01), (0x02, 0x02), (0x02, 0x03), (0x02, 0x04),
    (0x05, 0x00), (0x05, 0x01), (0x05, 0x02), (0x05, 0x03), (0x05, 0x04),
    (0x04, 0x00), (0x04, 0x01), (0x04, 0x02), (0x04, 0x03), (0x04, 0x04),
    (0x06, 0x00), (0x06, 0x01), (0x06, 0x02), (0x06, 0x03), (0x06, 0x04),
    (0x07, 0x00), (0x07, 0x01), (0x07, 0x02), (0x07, 0x03), (0x07, 0x04),
    (0x08, 0x00), (0x08, 0x01), (0x08, 0x02), (0x08, 0x03), (0x08, 0x04),
    (0x09, 0x00), (0x09, 0x01), (0x09, 0x02), (0x09, 0x03), (0x09, 0x04),
    (0x0A, 0x00), (0x0A, 0x01), (0x0A, 0x02), (0x0A, 0x03),
    (0x0B, 0x00), (0x0B, 0x01), (0x0B, 0x02), (0x0B, 0x03),
    (0x0C, 0x00), (0x0C, 0x01), (0x0C, 0x02), (0x0C, 0x03),
    -- the next two are looked up by section ID
    (0xFF, 0xFF), (0xFF, 0xFF),
    (0x01, 0x05), (0x02, 0x05), (0x06, 0x05), (0x08, 0x05), (0x0A, 0x04), (0x0C, 0x04), (0x0B, 0x04),
    (0x01, 0x06), (0x03, 0x05), (0x07, 0x05), (0x0A, 0x05), (0x0C, 0x05), (0x0B, 0x05)]

def bonusValues : List Int8 :=
  [-50, -45, -40, -35, -30, -25, -20, -15, -10, -5, 5, 10, 15, 20, 25, 30, 35, 40, 45, 50]

namespace ItemCreator

/-- The class and the subclass of a weapon. -/
def weaponKind (self : ItemCreator) (which : UInt8) : Except Exception (UInt8 × UInt8) :=
  if which = 0x39 then at? specials39 self.sectionId.toNat
  else if which = 0x3A then at? specials3A self.sectionId.toNat
  else at? weaponDefs which.toNat

/-- `get_weapon` gives the entry of the table, whatever was looked up before. -/
def weaponDef (self : ItemCreator) (kind : UInt8 × UInt8) : Except Exception WeaponV4 :=
  ItemParameterHistory.entry self.itemParameterTable (.getWeapon kind.1 kind.2)

def grindRange (self : ItemCreator) (playerLevel : Nat) (data1_1 : UInt8) :
    Except Exception RangeTableEntry := do
  let tableIndex := levelIndex [4, 11, 26, 41, 56] playerLevel
  let favoredWeapon ← at? favoredWeaponBySectionId self.sectionId.toNat
  if favoredWeapon ≠ 0xFF ∧ data1_1 = favoredWeapon then
    self.weaponRandomSet.getFavoredGrindRange tableIndex
  else
    self.weaponRandomSet.getStandardGrindRange tableIndex

def generateWeaponShopItemGrind (self : ItemCreator) (playerLevel : Nat) (item : ItemData) :
    Program ItemData := do
  let range ← fromExcept (self.grindRange playerLevel item.data1[1])
  let weaponDef ← fromExcept (self.weaponDef (item.data1[1], item.data1[2]))
  let r ← randInt (range.max + 1).toUInt64
  let grind ← fromExcept (clamp r.toUInt8 range.min.toUInt8 weaponDef.maxGrind)
  return item.withByte 3 grind

/-- The special with a number among those with these stars, or none. -/
def findSpecial (table : ItemParameterTable) (stars : Nat) : List Nat → Nat → Except Exception UInt8
  | [], _ => .ok 0
  | z :: zs, number => do
    if (← getSpecialStars table (.ofNat z)).toNat = stars then
      match number with
      | 0 => return .ofNat z
      | number + 1 => findSpecial table stars zs number
    else
      findSpecial table stars zs number

/-- The search of `choose_weapon_special`, after the draw. -/
def specialFor (self : ItemCreator) (det : Nat) (det2 : Nat) : Except Exception UInt8 :=
  findSpecial self.itemParameterTable (det + 1)
    (List.range' 1 (self.itemParameterTable.numSpecials - 1)) det2

def specialMaxes : List UInt64 := [8, 10, 11, 11]

def chooseWeaponSpecial (self : ItemCreator) (det : Nat) : Program UInt8 :=
  match specialMaxes[det]? with
  | none => return 0
  | some max => do
    let det2 ← randInt max
    fromExcept (self.specialFor det det2.toUInt8.toNat)

def specialTable (self : ItemCreator) (playerLevel : Nat) :
    Except Exception (ProbabilityTable UInt8 100) := do
  let table ← self.weaponRandomSet.getSpecialModeTable
    (levelIndex [11, 18, 26, 36, 46, 61, 76] playerLevel)
  pushWeights table

def generateWeaponShopItemSpecial (self : ItemCreator) (playerLevel : Nat) (item : ItemData) :
    Program ItemData := do
  let pt ← fromExcept (self.specialTable playerLevel)
  let mode ← pt.sample
  if mode = 0 then
    return item.withByte 4 0
  else if mode = 1 then
    return item.withByte 4 (← self.chooseWeaponSpecial 0)
  else if mode = 2 then
    return item.withByte 4 (← self.chooseWeaponSpecial 1)
  else
    throw (.runtimeError "invalid special mode")

def bonusTable (self : ItemCreator) (which tableIndex : Nat) :
    Except Exception (ProbabilityTable UInt8 100) := do
  let table ← self.weaponRandomSet.getBonusTypeTable which tableIndex
  pushWeights table

def bonus1Index (playerLevel : Nat) : Nat := levelIndex [4, 11, 18, 26, 36, 46, 61, 76] playerLevel

def bonus2Index (playerLevel : Nat) : Nat := levelIndex [6, 11, 18, 26, 36, 46, 61, 76] playerLevel

/-- The amount of a bonus of a type that is not zero. -/
def bonusAmount (self : ItemCreator) (which tableIndex : Nat) : Program UInt8 := do
  let range ← fromExcept (self.weaponRandomSet.getBonusRange which tableIndex)
  let r ← randInt (range.max + 1).toUInt64
  let value ← fromExcept (at? bonusValues (max r.toNat range.min.toNat))
  return value.toUInt8

def generateWeaponShopItemBonus1 (self : ItemCreator) (playerLevel : Nat) (item : ItemData) :
    Program ItemData := do
  let pt ← fromExcept (self.bonusTable 0 (bonus1Index playerLevel))
  let type ← pt.sample
  if type = 0 then
    return (item.withByte 6 type).withByte 7 0
  else
    return (item.withByte 6 type).withByte 7 (← self.bonusAmount 0 (bonus1Index playerLevel))

/-- The loop that pops types until one is not the other type. -/
def popOtherType (otherType : UInt8) : List UInt8 → Except Exception UInt8
  | [] => .error (.runtimeError "pop from empty probability table")
  | type :: pops =>
    if type ≠ 0 ∧ type = otherType then popOtherType otherType pops else .ok type

def generateWeaponShopItemBonus2 (self : ItemCreator) (playerLevel : Nat) (item : ItemData) :
    Program ItemData := do
  let pt ← fromExcept (self.bonusTable 1 (bonus2Index playerLevel))
  let pt ← pt.shuffle
  let type ← fromExcept (popOtherType item.data1[6] pt.pops)
  if type = 0 then
    return (item.withByte 8 type).withByte 9 0
  else
    return (item.withByte 8 type).withByte 9 (← self.bonusAmount 1 (bonus2Index playerLevel))

/-! ## The shop -/

/-- One round of the loop, after the pop. -/
def generateWeapon (self : ItemCreator) (playerLevel : Nat) (which : UInt8) : Program ItemData := do
  let kind ← fromExcept (self.weaponKind which)
  let item := ((ItemData.cleared.withByte 0 0).withByte 1 kind.1).withByte 2 kind.2
  let item ← self.generateWeaponShopItemGrind playerLevel item
  let item ← self.generateWeaponShopItemSpecial playerLevel item
  let item ← self.generateWeaponShopItemBonus1 playerLevel item
  let item ← self.generateWeaponShopItemBonus2 playerLevel item
  return (item.withByte 10 0).withByte 11 0

end ItemCreator

/-- No item is the same one, and fewer than two are of the same class. -/
def shopDoesNotContainDuplicateOrTooManySimilarWeapons (shop : List ItemData) (item : ItemData) : Bool :=
  shop.all (· ≠ item) &&
    shop.countP (fun shopItem => shopItem.data1[0] = item.data1[0] ∧ shopItem.data1[1] = item.data1[1]) < 2

def compareBytes : List UInt8 → List UInt8 → Bool
  | a :: as, b :: bs => if a < b then true else if b < a then false else compareBytes as bs
  | _, _ => false

/-- The bytes that items are sorted by. -/
def sortBytes (item : ItemData) : List UInt8 :=
  item.data1.toList ++ WordBytes.littleEndian 4 item.data2d.toNat

def compareForSort (a b : ItemData) : Bool := compareBytes (sortBytes a) (sortBytes b)

namespace ItemCreator

/-- The loop over the items that are left in the table. -/
def fillShop (self : ItemCreator) (playerLevel : Nat) :
    List UInt8 → List ItemData → Program (List ItemData)
  | [], shop =>
    if shop.length < numItems playerLevel then
      throw (.runtimeError "pop from empty probability table")
    else
      return shop
  | which :: pops, shop =>
    if shop.length < numItems playerLevel then do
      let item ← self.generateWeapon playerLevel which
      self.fillShop playerLevel pops
        (if shopDoesNotContainDuplicateOrTooManySimilarWeapons shop item then shop ++ [item] else shop)
    else
      return shop

def typeIndex (self : ItemCreator) (playerLevel : Nat) : Nat :=
  if self.difficulty = .ultimate then levelIndex [11, 26, 43, 61, 100, 151] playerLevel
  else levelIndex [11, 26, 43, 61] playerLevel

def typeTable (self : ItemCreator) (playerLevel : Nat) :
    Except Exception (ProbabilityTable UInt8 100) := do
  let table ← self.weaponRandomSet.getWeaponTypeTable (self.typeIndex playerLevel)
  pushWeights table

def generateWeaponShopContents (self : ItemCreator) (playerLevel : Nat) : Program (List ItemData) := do
  let pt ← fromExcept (self.typeTable playerLevel)
  let pt ← pt.shuffle
  let shop ← self.fillShop playerLevel pt.pops []
  return shop.insertionSort fun a b => compareForSort b a = false

end ItemCreator

end HuntersGuild.WeaponShops
