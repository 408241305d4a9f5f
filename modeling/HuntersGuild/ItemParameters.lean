import HuntersGuild.Items
import HuntersGuild.LazyCaches
import HuntersGuild.StringReaders

/-!
The item parameter table: its entries in each of the six layouts, and the
lookups that keep the entries that were converted.
-/

namespace HuntersGuild.ItemParameters

open HuntersGuild.Items (Version)
open HuntersGuild.ByteStreams
open HuntersGuild.WordBytes
open HuntersGuild.StringReaders (Parray)
open HuntersGuild.StatefulPrograms
open HuntersGuild.LazyCaches

/-! ## Members of packed structures -/

def u8 (entry : List UInt8) (offset : Nat) : UInt8 := entry.getD offset 0

def number (bigEndian : Bool) (entry : List UInt8) (offset size : Nat) : Nat :=
  let bytes := (entry.drop offset).take size
  if bigEndian then fromBigEndian bytes else fromLittleEndian bytes

def u16 (bigEndian : Bool) (entry : List UInt8) (offset : Nat) : UInt16 :=
  .ofNat (number bigEndian entry offset 2)

def u32 (bigEndian : Bool) (entry : List UInt8) (offset : Nat) : UInt32 :=
  .ofNat (number bigEndian entry offset 4)

def parray (size : Nat) (entry : List UInt8) (offset : Nat) : Parray size :=
  ⟨(List.range size).map fun z => u8 entry (offset + z), by simp⟩

/-! ## Definitions and their conversions

Each conversion is `to_v4` of the structure of its name, whose members are read
at their offsets. -/

structure ItemBaseV4 where
  id : UInt32 := 0xFFFFFFFF
  type : UInt16 := 0
  skin : UInt16 := 0
  teamPoints : UInt32 := 0
  deriving DecidableEq

def baseV2 (entry : List UInt8) : ItemBaseV4 := { id := u32 false entry 0x00 }

def baseV3 (be : Bool) (entry : List UInt8) : ItemBaseV4 :=
  { id := u32 be entry 0x00, type := u16 be entry 0x04, skin := u16 be entry 0x06 }

def baseV4 (entry : List UInt8) : ItemBaseV4 :=
  { baseV3 false entry with teamPoints := u32 false entry 0x08 }

structure WeaponV4 where
  base : ItemBaseV4 := {}
  classFlags : UInt16 := 0x00FF
  atpMin : UInt16 := 0
  atpMax : UInt16 := 0
  atpRequired : UInt16 := 0
  mstRequired : UInt16 := 0
  ataRequired : UInt16 := 0
  mst : UInt16 := 0
  maxGrind : UInt8 := 0
  photon : UInt8 := 0
  special : UInt8 := 0
  ata : UInt8 := 0
  statBoostEntryIndex : UInt8 := 0
  projectile : UInt8 := 0
  trail1X : Int8 := 0
  trail1Y : Int8 := 0
  trail2X : Int8 := 0
  trail2Y : Int8 := 0
  color : Int8 := 0
  unknownA1 : Parray 3 := parray 3 [] 0
  unknownA4 : UInt8 := 0
  unknownA5 : UInt8 := 0
  techBoost : UInt8 := 0
  behaviorFlags : UInt8 := 0
  deriving DecidableEq

def weaponDCProtos (entry : List UInt8) : WeaponV4 where
  base := baseV2 entry
  classFlags := u16 false entry 0x04
  atpMin := u16 false entry 0x06
  atpMax := u16 false entry 0x08
  atpRequired := u16 false entry 0x0A
  mstRequired := u16 false entry 0x0C
  ataRequired := u16 false entry 0x0E
  maxGrind := u8 entry 0x10
  photon := u8 entry 0x11
  special := u8 entry 0x12
  ata := u8 entry 0x13

def weaponV1V2 (entry : List UInt8) : WeaponV4 :=
  { weaponDCProtos entry with statBoostEntryIndex := u8 entry 0x14 }

/-- The members of `WeaponGCNTE` and the first ones of `WeaponV3T`. -/
def weaponGCNTE (be : Bool) (entry : List UInt8) : WeaponV4 where
  base := baseV3 be entry
  classFlags := u16 be entry 0x08
  atpMin := u16 be entry 0x0A
  atpMax := u16 be entry 0x0C
  atpRequired := u16 be entry 0x0E
  mstRequired := u16 be entry 0x10
  ataRequired := u16 be entry 0x12
  mst := u16 be entry 0x14
  maxGrind := u8 entry 0x16
  photon := u8 entry 0x17
  special := u8 entry 0x18
  ata := u8 entry 0x19
  statBoostEntryIndex := u8 entry 0x1A
  projectile := u8 entry 0x1B
  trail1X := (u8 entry 0x1C).toInt8
  trail1Y := (u8 entry 0x1D).toInt8
  trail2X := (u8 entry 0x1E).toInt8
  trail2Y := (u8 entry 0x1F).toInt8
  color := (u8 entry 0x20).toInt8
  unknownA1 := parray 3 entry 0x21

def weaponV3 (be : Bool) (entry : List UInt8) : WeaponV4 :=
  { weaponGCNTE be entry with
    unknownA4 := u8 entry 0x24
    unknownA5 := u8 entry 0x25
    techBoost := u8 entry 0x26
    behaviorFlags := u8 entry 0x27 }

/-- A `WeaponV4` in the data: after its longer base it has the members of
`WeaponV3`. -/
def weaponV4 (entry : List UInt8) : WeaponV4 :=
  { weaponV3 false (entry.drop 4) with base := baseV4 entry }

structure ArmorOrShieldV4 where
  base : ItemBaseV4 := {}
  dfp : UInt16 := 0
  evp : UInt16 := 0
  blockParticle : UInt8 := 0
  blockEffect : UInt8 := 0
  classFlags : UInt16 := 0x00FF
  requiredLevel : UInt8 := 0
  efr : UInt8 := 0
  eth : UInt8 := 0
  eic : UInt8 := 0
  edk : UInt8 := 0
  elt : UInt8 := 0
  dfpRange : UInt8 := 0
  evpRange : UInt8 := 0
  statBoostEntryIndex : UInt8 := 0
  techBoost : UInt8 := 0
  flagsType : UInt8 := 0
  unknownA4 : UInt8 := 0
  deriving DecidableEq

/-- The members of `ArmorOrShieldT`, after its base. -/
def armorOrShieldT (base : ItemBaseV4) (be : Bool) (entry : List UInt8) : ArmorOrShieldV4 where
  base
  dfp := u16 be entry 0x00
  evp := u16 be entry 0x02
  blockParticle := u8 entry 0x04
  blockEffect := u8 entry 0x05
  classFlags := u16 be entry 0x06
  requiredLevel := u8 entry 0x08
  efr := u8 entry 0x09
  eth := u8 entry 0x0A
  eic := u8 entry 0x0B
  edk := u8 entry 0x0C
  elt := u8 entry 0x0D
  dfpRange := u8 entry 0x0E
  evpRange := u8 entry 0x0F

def armorOrShieldFinalT (base : ItemBaseV4) (be : Bool) (entry : List UInt8) : ArmorOrShieldV4 :=
  { armorOrShieldT base be entry with
    statBoostEntryIndex := u8 entry 0x10
    techBoost := u8 entry 0x11
    flagsType := u8 entry 0x12
    unknownA4 := u8 entry 0x13 }

def armorOrShieldDCProtos (entry : List UInt8) : ArmorOrShieldV4 :=
  armorOrShieldT (baseV2 entry) false (entry.drop 4)

def armorOrShieldV1V2 (entry : List UInt8) : ArmorOrShieldV4 :=
  armorOrShieldFinalT (baseV2 entry) false (entry.drop 4)

def armorOrShieldV3 (be : Bool) (entry : List UInt8) : ArmorOrShieldV4 :=
  armorOrShieldFinalT (baseV3 be entry) be (entry.drop 8)

def armorOrShieldV4 (entry : List UInt8) : ArmorOrShieldV4 :=
  armorOrShieldFinalT (baseV4 entry) false (entry.drop 0x0C)

structure UnitV4 where
  base : ItemBaseV4 := {}
  stat : UInt16 := 0
  statAmount : UInt16 := 0
  modifierAmount : Int16 := 0
  unused : Parray 2 := parray 2 [] 0
  deriving DecidableEq

def unitDCProtos (entry : List UInt8) : UnitV4 where
  base := baseV2 entry
  stat := u16 false entry 0x04
  statAmount := u16 false entry 0x06

def unitV1V2 (entry : List UInt8) : UnitV4 :=
  { unitDCProtos entry with modifierAmount := (u16 false entry 0x08).toInt16 }

def unitV3 (be : Bool) (entry : List UInt8) : UnitV4 where
  base := baseV3 be entry
  stat := u16 be entry 0x08
  statAmount := u16 be entry 0x0A
  modifierAmount := (u16 be entry 0x0C).toInt16

def unitV4 (entry : List UInt8) : UnitV4 where
  base := baseV4 entry
  stat := u16 false entry 0x0C
  statAmount := u16 false entry 0x0E
  modifierAmount := (u16 false entry 0x10).toInt16
  unused := parray 2 entry 0x12

structure MagV4 where
  base : ItemBaseV4 := {}
  feedTable : UInt16 := 0
  photonBlast : UInt8 := 0
  activation : UInt8 := 0
  onPbFull : UInt8 := 0
  onLowHp : UInt8 := 0
  onDeath : UInt8 := 0
  onBoss : UInt8 := 0
  onPbFullFlag : UInt8 := 0
  onLowHpFlag : UInt8 := 0
  onDeathFlag : UInt8 := 0
  onBossFlag : UInt8 := 0
  classFlags : UInt16 := 0x00FF
  unused : Parray 2 := parray 2 [] 0
  deriving DecidableEq

/-- The members of `MagT`, after its base. -/
def magT (base : ItemBaseV4) (be : Bool) (entry : List UInt8) : MagV4 where
  base
  feedTable := u16 be entry 0x00
  photonBlast := u8 entry 0x02
  activation := u8 entry 0x03
  onPbFull := u8 entry 0x04
  onLowHp := u8 entry 0x05
  onDeath := u8 entry 0x06
  onBoss := u8 entry 0x07
  onPbFullFlag := u8 entry 0x08
  onLowHpFlag := u8 entry 0x09
  onDeathFlag := u8 entry 0x0A
  onBossFlag := u8 entry 0x0B

def magV1 (entry : List UInt8) : MagV4 := magT (baseV2 entry) false (entry.drop 4)

def magV2 (entry : List UInt8) : MagV4 :=
  { magV1 entry with classFlags := u16 false entry 0x10 }

def magV3 (be : Bool) (entry : List UInt8) : MagV4 :=
  { magT (baseV3 be entry) be (entry.drop 8) with classFlags := u16 be entry 0x14 }

def magV4 (entry : List UInt8) : MagV4 :=
  { magT (baseV4 entry) false (entry.drop 0x0C) with
    classFlags := u16 false entry 0x18
    unused := parray 2 entry 0x1A }

structure ToolV4 where
  base : ItemBaseV4 := {}
  amount : UInt16 := 0
  tech : UInt16 := 0
  cost : Int32 := 0
  itemFlags : UInt32 := 0
  deriving DecidableEq

/-- The members of `ToolT`, after its base. -/
def toolT (base : ItemBaseV4) (be : Bool) (entry : List UInt8) : ToolV4 where
  base
  amount := u16 be entry 0x00
  tech := u16 be entry 0x02
  cost := (u32 be entry 0x04).toInt32
  itemFlags := u32 be entry 0x08

def toolV1V2 (entry : List UInt8) : ToolV4 := toolT (baseV2 entry) false (entry.drop 4)

def toolV3 (be : Bool) (entry : List UInt8) : ToolV4 :=
  toolT (baseV3 be entry) be (entry.drop 8)

def toolV4 (entry : List UInt8) : ToolV4 := toolT (baseV4 entry) false (entry.drop 0x0C)

structure Special where
  type : UInt16 := 0xFFFF
  amount : UInt16 := 0
  deriving DecidableEq

def special (be : Bool) (entry : List UInt8) : Special where
  type := u16 be entry 0x00
  amount := u16 be entry 0x02

structure StatBoost where
  stats : Parray 2 := parray 2 [] 0
  amounts : UInt16 × UInt16 := (0, 0)
  deriving DecidableEq

def statBoost (be : Bool) (entry : List UInt8) : StatBoost where
  stats := parray 2 entry 0x00
  amounts := (u16 be entry 0x02, u16 be entry 0x04)

/-! ## The table -/

/-- Which of the pointers to table offsets is set. -/
inductive Layout where
  | dcProtos
  | v1V2
  | gcNte
  | v3Le
  | v3Be
  | v4
  deriving DecidableEq

def Layout.bigEndian : Layout → Bool
  | .gcNte | .v3Be => true
  | .dcProtos | .v1V2 | .v3Le | .v4 => false

structure TableOffsets where
  weaponTable : UInt32
  armorTable : UInt32
  unitTable : UInt32
  toolTable : UInt32
  magTable : UInt32
  specialDataTable : UInt32
  statBoostTable : UInt32

/-- The offsets used here, where the structure of each layout has them. -/
def tableOffsets (layout : Layout) (entry : List UInt8) : TableOffsets :=
  let be := layout.bigEndian
  match layout with
  | .dcProtos | .v1V2 =>
      ⟨u32 be entry 0x04, u32 be entry 0x08, u32 be entry 0x0C, u32 be entry 0x10,
        u32 be entry 0x14, u32 be entry 0x38, u32 be entry 0x3C⟩
  | .gcNte | .v3Le | .v3Be | .v4 =>
      ⟨u32 be entry 0x00, u32 be entry 0x04, u32 be entry 0x08, u32 be entry 0x0C,
        u32 be entry 0x10, u32 be entry 0x30, u32 be entry 0x38⟩

def Layout.offsetsSize : Layout → Nat
  | .dcProtos | .gcNte => 0x50
  | .v1V2 => 0x44
  | .v3Le | .v3Be | .v4 => 0x5C

structure ItemParameterTable where
  version : Version
  data : List UInt8
  layout : Layout
  offsets : TableOffsets
  numWeaponClasses : Nat
  numToolClasses : Nat
  numSpecials : Nat

/-- A read at an absolute offset, which throws `out_of_range` outside the data. -/
def pget (data : List UInt8) (offset size : Nat) : Except Exception (List UInt8) :=
  if offset + size ≤ data.length then .ok ((data.drop offset).take size)
  else .error (.outOfRange "end of string")

def isBigEndian (version : Version) : Bool :=
  version = .gcNte || version = .gcV3 || version = .gcEp3Nte || version = .gcEp3

def isV1 (version : Version) : Bool :=
  version = .dcNte || version = .dc112000 || version = .dcV1

/-- The layout, and the numbers of weapon classes, tool classes and specials. -/
def dimensions (version : Version) : Except Exception (Layout × Nat × Nat × Nat) :=
  match version with
  | .dcNte => .ok (.dcProtos, 0x27, 0x0D, 0x28)
  | .dc112000 => .ok (.dcProtos, 0x27, 0x0E, 0x28)
  | .dcV1 => .ok (.v1V2, 0x27, 0x0E, 0x29)
  | .dcV2 | .pcNte | .pcV2 => .ok (.v1V2, 0x89, 0x10, 0x29)
  | .gcNte => .ok (.gcNte, 0x8D, 0x13, 0x29)
  | .gcEp3Nte | .gcEp3 | .gcV3 | .xbV3 =>
      .ok (if isBigEndian version then .v3Be else .v3Le, 0xAA, 0x18, 0x29)
  | .bbV4 => .ok (.v4, 0xED, 0x1B, 0x29)
  | .pcPatch | .bbPatch | .unknown =>
      .error (.logicError "invalid item parameter table version")

/-- `ItemParameterTable(data, version)`. -/
def ItemParameterTable.load (data : List UInt8) (version : Version) :
    Except Exception ItemParameterTable := do
  -- The position is unsigned, so it is past the end when the data is too short.
  let position := if data.length < 0x10 then 2 ^ 64 + data.length - 0x10 else data.length - 0x10
  let root ← pget data position 4
  let (layout, numWeaponClasses, numToolClasses, numSpecials) ← dimensions version
  let entry ← pget data (u32 (isBigEndian version) root 0).toNat layout.offsetsSize
  return ⟨version, data, layout, tableOffsets layout entry, numWeaponClasses, numToolClasses,
    numSpecials⟩

variable {α : Type}

/-- `indirect_lookup_2d`: the array is found through its count and offset. -/
def ItemParameterTable.indirectLookup2d (self : ItemParameterTable) (rootOffset : UInt32)
    (coIndex : Nat) (size : Nat) (convert : List UInt8 → α) (itemIndex : Nat) :
    Except Exception α := do
  let co ← pget self.data (rootOffset.toNat + 8 * coIndex) 8
  if (u32 self.layout.bigEndian co 0).toNat ≤ itemIndex then
    throw (.outOfRange "item ID out of range")
  else do
    let entry ← pget self.data ((u32 self.layout.bigEndian co 4).toNat + size * itemIndex) size
    return convert entry

def ItemParameterTable.weaponEntry (self : ItemParameterTable) (data1_1 data1_2 : UInt8) :
    Except Exception WeaponV4 :=
  let lookup := fun size convert =>
    self.indirectLookup2d self.offsets.weaponTable data1_1.toNat size convert data1_2.toNat
  match self.layout with
  | .dcProtos => lookup 0x14 weaponDCProtos
  | .v1V2 => lookup 0x18 weaponV1V2
  | .gcNte => lookup 0x24 (weaponGCNTE true)
  | .v3Le => lookup 0x28 (weaponV3 false)
  | .v3Be => lookup 0x28 (weaponV3 true)
  | .v4 => lookup 0x2C weaponV4

def ItemParameterTable.armorOrShieldEntry (self : ItemParameterTable) (data1_1 : UInt8)
    (index : Nat) : Except Exception ArmorOrShieldV4 :=
  let lookup := fun size convert =>
    self.indirectLookup2d self.offsets.armorTable (data1_1.toNat - 1) size convert index
  match self.layout with
  | .dcProtos => lookup 0x14 armorOrShieldDCProtos
  | .v1V2 => lookup 0x18 armorOrShieldV1V2
  | .gcNte => lookup 0x1C (armorOrShieldV3 true)
  | .v3Le => lookup 0x1C (armorOrShieldV3 false)
  | .v3Be => lookup 0x1C (armorOrShieldV3 true)
  | .v4 => lookup 0x20 armorOrShieldV4

def ItemParameterTable.unitEntry (self : ItemParameterTable) (index : Nat) :
    Except Exception UnitV4 :=
  let lookup := fun size convert =>
    self.indirectLookup2d self.offsets.unitTable 0 size convert index
  match self.layout with
  | .dcProtos => lookup 0x08 unitDCProtos
  | .v1V2 => lookup 0x0C unitV1V2
  | .gcNte => lookup 0x10 (unitV3 true)
  | .v3Le => lookup 0x10 (unitV3 false)
  | .v3Be => lookup 0x10 (unitV3 true)
  | .v4 => lookup 0x14 unitV4

def ItemParameterTable.magEntry (self : ItemParameterTable) (index : Nat) :
    Except Exception MagV4 :=
  let lookup := fun size convert =>
    self.indirectLookup2d self.offsets.magTable 0 size convert index
  match self.layout with
  | .dcProtos => lookup 0x10 magV1
  | .v1V2 => if isV1 self.version then lookup 0x10 magV1 else lookup 0x14 magV2
  | .gcNte => lookup 0x18 (magV3 true)
  | .v3Le => lookup 0x18 (magV3 false)
  | .v3Be => lookup 0x18 (magV3 true)
  | .v4 => lookup 0x1C magV4

def ItemParameterTable.toolEntry (self : ItemParameterTable) (data1_1 data1_2 : UInt8) :
    Except Exception ToolV4 :=
  let lookup := fun size convert =>
    self.indirectLookup2d self.offsets.toolTable data1_1.toNat size convert data1_2.toNat
  match self.layout with
  | .dcProtos => lookup 0x10 toolV1V2
  | .v1V2 => lookup 0x10 toolV1V2
  | .gcNte => lookup 0x14 (toolV3 true)
  | .v3Le => lookup 0x14 (toolV3 false)
  | .v3Be => lookup 0x14 (toolV3 true)
  | .v4 => lookup 0x18 toolV4

def ItemParameterTable.specialEntry (self : ItemParameterTable) (index : Nat) :
    Except Exception Special := do
  let entry ← pget self.data (self.offsets.specialDataTable.toNat + 4 * index) 4
  return special self.layout.bigEndian entry

def ItemParameterTable.statBoostEntry (self : ItemParameterTable) (index : Nat) :
    Except Exception StatBoost := do
  let entry ← pget self.data (self.offsets.statBoostTable.toNat + 6 * index) 6
  return statBoost self.layout.bigEndian entry

/-! ## The lookups -/

/-- The mutable members of a table. -/
structure Parsed where
  weapons : UInt16 → Option WeaponV4
  armors : List ArmorOrShieldV4
  shields : List ArmorOrShieldV4
  units : List UnitV4
  mags : List MagV4
  tools : UInt16 → Option ToolV4
  specials : List Special
  statBoosts : List StatBoost

def Parsed.empty : Parsed := ⟨fun _ => none, [], [], [], [], fun _ => none, [], []⟩

abbrev Lookup (α : Type) := EStateM Exception Parsed α

/-- The key of a weapon or tool. -/
def cacheKey (data1_1 data1_2 : UInt8) : UInt16 :=
  (data1_1.toUInt16 <<< 8) ||| data1_2.toUInt16

def populated (base : ItemBaseV4) : Bool := base.id != 0xFFFFFFFF

namespace ItemParameterTable

def getWeapon (self : ItemParameterTable) (data1_1 data1_2 : UInt8) : Lookup WeaponV4 :=
  if self.numWeaponClasses ≤ data1_1.toNat then
    throw (.outOfRange "weapon ID out of range")
  else if self.layout = .v4 then
    fromExcept (self.weaponEntry data1_1 data1_2)
  else
    zoom Parsed.weapons (fun weapons parsed => { parsed with weapons })
      (lookupKeyed (cacheKey data1_1 data1_2) (self.weaponEntry data1_1 data1_2))

/-- The loop shared by armors, shields, units and mags: a blank definition is in
the vector while its entry is read. -/
def lookupDefinition (base : α → ItemBaseV4) (blank : α) (entry : Nat → Except Exception α)
    (index : Nat) : EStateM Exception (List α) α :=
  lookup entry blank [blank] (fun definition => populated (base definition)) index

def getArmorOrShield (self : ItemParameterTable) (data1_1 data1_2 : UInt8) :
    Lookup ArmorOrShieldV4 :=
  if data1_1 < 1 ∨ 2 < data1_1 then
    throw (.outOfRange "armor/shield class ID out of range")
  else if self.layout = .v4 then
    fromExcept (self.armorOrShieldEntry data1_1 data1_2.toNat)
  else if data1_1 = 2 then
    zoom Parsed.shields (fun shields parsed => { parsed with shields })
      (lookupDefinition (·.base) {} (self.armorOrShieldEntry 2) data1_2.toNat)
  else
    zoom Parsed.armors (fun armors parsed => { parsed with armors })
      (lookupDefinition (·.base) {} (self.armorOrShieldEntry 1) data1_2.toNat)

def getUnit (self : ItemParameterTable) (data1_2 : UInt8) : Lookup UnitV4 :=
  if self.layout = .v4 then fromExcept (self.unitEntry data1_2.toNat)
  else
    zoom Parsed.units (fun units parsed => { parsed with units })
      (lookupDefinition (·.base) {} self.unitEntry data1_2.toNat)

def getMag (self : ItemParameterTable) (data1_1 : UInt8) : Lookup MagV4 :=
  if self.layout = .v4 then fromExcept (self.magEntry data1_1.toNat)
  else
    zoom Parsed.mags (fun mags parsed => { parsed with mags })
      (lookupDefinition (·.base) {} self.magEntry data1_1.toNat)

def getTool (self : ItemParameterTable) (data1_1 data1_2 : UInt8) : Lookup ToolV4 :=
  if self.numToolClasses ≤ data1_1.toNat then
    throw (.outOfRange "tool class ID out of range")
  else if self.layout = .v4 then
    fromExcept (self.toolEntry data1_1 data1_2)
  else
    zoom Parsed.tools (fun tools parsed => { parsed with tools })
      (lookupKeyed (cacheKey data1_1 data1_2) (self.toolEntry data1_1 data1_2))

/-- A special whose type is not 0xFFFF is converted again, and one whose type is
0xFFFF is taken as it is. -/
def getSpecial (self : ItemParameterTable) (special : UInt8) : Lookup Special :=
  let special := special &&& 0x3F
  if self.numSpecials ≤ special.toNat then
    throw (.outOfRange "invalid special index")
  else if self.layout.bigEndian then
    zoom Parsed.specials (fun specials parsed => { parsed with specials })
      (lookupResizing self.specialEntry {} (fun entry => entry.type != 0xFFFF) special.toNat)
  else
    fromExcept (self.specialEntry special.toNat)

/-- Here the entry is read before it is added. -/
def getStatBoost (self : ItemParameterTable) (entryIndex : UInt8) : Lookup StatBoost :=
  if self.layout.bigEndian then
    zoom Parsed.statBoosts (fun statBoosts parsed => { parsed with statBoosts })
      (lookup self.statBoostEntry {} [] (fun _ => false) entryIndex.toNat)
  else
    fromExcept (self.statBoostEntry entryIndex.toNat)

end ItemParameterTable

end HuntersGuild.ItemParameters
