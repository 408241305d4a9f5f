import HuntersGuild.ItemParameters

/-!
The forms in which items are sent to the clients of each version.
-/

namespace HuntersGuild.ItemEncoding

open HuntersGuild.ByteStreams
open HuntersGuild.ItemParameters
open HuntersGuild.Items (ItemData Version)

def isV2 (version : Version) : Bool :=
  version = .dcV2 || version = .pcNte || version = .pcV2 || version = .gcNte

/-! ## The views of the two fields of an item -/

scoped instance neZero_six : NeZero 6 := ⟨by decide⟩

scoped instance neZero_four : NeZero 4 := ⟨by decide⟩

scoped instance neZero_two : NeZero 2 := ⟨by decide⟩

def data1w (self : ItemData) (k : Fin 6) : UInt16 :=
  self.data1[2 * k.val].toUInt16 ||| (self.data1[2 * k.val + 1].toUInt16 <<< 8)

def withData1w (self : ItemData) (k : Fin 6) (v : UInt16) : ItemData :=
  let item := self.withByte ⟨2 * k.val, by omega⟩ v.toUInt8
  item.withByte ⟨2 * k.val + 1, by omega⟩ (v >>> 8).toUInt8

/-- The number of bits below a byte of `data2`. -/
def byteShift (k : Fin 4) : UInt32 := .ofNat (8 * k.val)

def data2 (self : ItemData) (k : Fin 4) : UInt8 := (self.data2d >>> byteShift k).toUInt8

def withData2 (self : ItemData) (k : Fin 4) (v : UInt8) : ItemData :=
  { self with
    data2d := (self.data2d &&& ~~~((0xFF : UInt32) <<< byteShift k)) ||| (v.toUInt32 <<< byteShift k) }

def wordShift (k : Fin 2) : UInt32 := .ofNat (16 * k.val)

def data2w (self : ItemData) (k : Fin 2) : UInt16 := (self.data2d >>> wordShift k).toUInt16

def withData2w (self : ItemData) (k : Fin 2) (v : UInt16) : ItemData :=
  { self with
    data2d := (self.data2d &&& ~~~((0xFFFF : UInt32) <<< wordShift k)) ||| (v.toUInt32 <<< wordShift k) }

def bswap32 (v : UInt32) : UInt32 :=
  (v >>> (24 : UInt32)) ||| ((v >>> (8 : UInt32)) &&& 0xFF00) ||| ((v <<< (8 : UInt32)) &&& 0xFF0000) |||
    (v <<< (24 : UInt32))

/-! ## Numbers that the older formats keep elsewhere -/

def getEncodedV2Data (self : ItemData) : UInt8 :=
  if self.data1[0] = 0 then
    self.data1[5]
  else if self.data1[0] = 1 ∨ self.data1[0] = 3 then
    self.data1[3]
  else if self.data1[0] = 2 then
    if self.data1[2] > 0xC8 then self.data1[2] + 0x38 else 0
  else
    0

def hasEncodedV2Data (self : ItemData) : Bool :=
  if self.data1[0] = 0 then self.data1[1] < getEncodedV2Data self else getEncodedV2Data self ≠ 0

/-- The versions whose clients know the weapons of the first version only. -/
def movesNumbers (version : Version) : Bool :=
  (isV1 version || isV2 version) && version ≠ .gcNte

/-! ## Decoding -/

def decodeWeapon (encodedV2Data : UInt8) (self : ItemData) : ItemData :=
  let item := self.withByte 5
    (if encodedV2Data < 0x89 ∨ self.data1[1] = 0x0F then 0 else self.data1[1])
  item.withByte 1 encodedV2Data

def decodeArmor (encodedV2Data : UInt8) (self : ItemData) : ItemData :=
  (self.withByte 3 0).withByte 2 encodedV2Data

def decodeMag (encodedV2Data : UInt8) (self : ItemData) : ItemData :=
  (self.withByte 2 0xC8).withByte 1 (encodedV2Data + 0x2B)

/-- The three flags, each from a spare bit of another number. -/
def photonBlastFlags (data2_3 : UInt8) (def' pow : UInt16) : UInt8 :=
  ((data2_3 >>> (7 : UInt8)) &&& 1) ||| ((def' >>> (14 : UInt16)) &&& 2).toUInt8 |||
    ((pow >>> (13 : UInt16)) &&& 4).toUInt8

def color (def' pow dex mind : UInt16) : UInt8 :=
  ((def' &&& 1) ||| ((pow &&& 1) <<< (1 : UInt16)) ||| ((dex &&& 1) <<< (2 : UInt16)) |||
    ((mind &&& 1) <<< (3 : UInt16))).toUInt8

/-- The statements are in the order of the source, since each of them reads what
the ones before it have left. -/
def unpackMag (self : ItemData) : ItemData :=
  let item := withData2 self 1 (data2w self 0).toUInt8
  let item := withData2 item 0 (data2w item 1 &&& 0x7FFF).toUInt8
  let item := withData2 item 2
    (photonBlastFlags (data2 item 3) (data1w item 2) (data1w item 3))
  let item := withData2 item 3
    (color (data1w item 2) (data1w item 3) (data1w item 4) (data1w item 5))
  let item := withData1w item 2 (data1w item 2 &&& 0x7FFE)
  let item := withData1w item 3 (data1w item 3 &&& 0x7FFE)
  let item := withData1w item 4 (data1w item 4 &&& 0xFFFE)
  withData1w item 5 (data1w item 5 &&& 0xFFFE)

def decodeTool (encodedV2Data : UInt8) (self : ItemData) : ItemData :=
  let item := self.withByte 3 0
  if item.data1[1] = 0x02 then
    item.withByte 2 (encodedV2Data + 0x0E)
  else if item.data1[1] = 0x0D then
    if item.data1[2] = 0x06 then
      (item.withByte 1 0x0E).withByte 2 (encodedV2Data - 1)
    else if item.data1[2] = 0x07 then
      let item := item.withByte 1 item.data1[6]
      (item.withByte 2 (encodedV2Data - 1)).withByte 6 0
    else
      item
  else
    item

def decodeForVersion (fromVersion : Version) (self : ItemData) : Except Exception ItemData :=
  let encodedV2Data := getEncodedV2Data self
  let shouldDecodeV2Data :=
    movesNumbers fromVersion && encodedV2Data ≠ 0 && hasEncodedV2Data self
  if self.data1[0] = 0x00 then
    .ok (if shouldDecodeV2Data then decodeWeapon encodedV2Data self else self)
  else if self.data1[0] = 0x01 then
    .ok (if shouldDecodeV2Data then decodeArmor encodedV2Data self else self)
  else if self.data1[0] = 0x02 then
    let item := if shouldDecodeV2Data then decodeMag encodedV2Data self else self
    if isV1 fromVersion || isV2 fromVersion then
      .ok (unpackMag item)
    else if isBigEndian fromVersion then
      .ok { item with data2d := bswap32 item.data2d }
    else
      .ok item
  else if self.data1[0] = 0x03 then
    .ok (if shouldDecodeV2Data then decodeTool encodedV2Data self else self)
  else if self.data1[0] = 0x04 then
    .ok self
  else
    .error (.runtimeError "invalid item class")

/-! ## Encoding -/

/-- The offset is in the table offsets, which are found as `load` finds them. -/
def v1ReplacementTable (self : ItemParameterTable) : Except Exception UInt32 := do
  let root ← pget self.data ((self.data.length + (2 ^ 64 - 0x10)) % 2 ^ 64) 4
  let entry ← pget self.data (u32 (isBigEndian self.version) root 0).toNat self.layout.offsetsSize
  return u32 self.layout.bigEndian entry
    (match self.layout with
    | .dcProtos | .v1V2 => 0x18
    | .gcNte | .v3Le | .v3Be | .v4 => 0x14)

def getWeaponV1Replacement (self : ItemParameterTable) (data1_1 : UInt8) :
    Except Exception UInt8 := do
  let offset ← v1ReplacementTable self
  if data1_1.toNat < self.numWeaponClasses then
    let replacement ← pget self.data (offset + data1_1.toUInt32).toNat 1
    return u8 replacement 0
  else
    return 0

def encodeWeapon (table : ItemParameterTable) (self : ItemData) : Except Exception ItemData := do
  if self.data1[1] > 0x26 then
    if self.data1[1] < 0x89 then
      let item := self.withByte 5 self.data1[1]
      let item := item.withByte 1 (← getWeaponV1Replacement table item.data1[1])
      return if item.data1[1] = 0x00 then item.withByte 1 0x0F else item
    else
      let data1_5 := self.data1[5]
      if self.data1[1] > data1_5 then
        let item := self.withByte 5 self.data1[1]
        return item.withByte 1 (if data1_5 ≠ 0 then data1_5 else 0x0F)
      else
        return self
  else
    return self

def armorLimits : List UInt8 := [0x00, 0x29, 0x27, 0x44]

/-- The read of a limit outside the array is not defined. -/
def encodeArmor (self : ItemData) : Except Exception ItemData :=
  match armorLimits[self.data1[1].toNat]? with
  | some limit =>
      if self.data1[2] ≥ limit then
        let item := self.withByte 3 self.data1[2]
        .ok (item.withByte 2 0x00)
      else
        .ok self
  | none => .error .undefined

def encodeMag (self : ItemData) : ItemData :=
  if self.data1[1] > 0x2B then
    let item := self.withByte 2 (self.data1[1] - 0x2B - 0x38)
    item.withByte 1 0x00
  else
    self

/-- The statements are in the order of the source, as in `unpackMag`. -/
def packMag (self : ItemData) : ItemData :=
  let item := withData1w self 2 ((data1w self 2 &&& 0x7FFE) |||
    (((data2 self 2).toUInt16 <<< (14 : UInt16)) &&& 0x8000) ||| ((data2 self 3).toUInt16 &&& 1))
  let item := withData1w item 3 ((data1w item 3 &&& 0x7FFE) |||
    (((data2 item 2).toUInt16 <<< (13 : UInt16)) &&& 0x8000) |||
    (((data2 item 3).toUInt16 >>> (1 : UInt16)) &&& 1))
  let item := withData1w item 4
    ((data1w item 4 &&& 0xFFFE) ||| (((data2 item 3).toUInt16 >>> (2 : UInt16)) &&& 1))
  let item := withData1w item 5
    ((data1w item 5 &&& 0xFFFE) ||| (((data2 item 3).toUInt16 >>> (3 : UInt16)) &&& 1))
  let item := withData2w item 1
    ((data2 item 0).toUInt16 ||| (((data2 item 2).toUInt16 <<< (15 : UInt16)) &&& 0x8000))
  withData2w item 0 (data2 item 1).toUInt16

def encodeTool (self : ItemData) : ItemData :=
  if self.data1[1] = 2 then
    if self.data1[2] > 0x0E then
      let item := self.withByte 3 (self.data1[2] - 0x0E)
      item.withByte 2 (item.data1[2] % 0x0F)
    else
      self
  else if self.data1[1] = 0x0E then
    let item := self.withByte 3 (self.data1[2] + 1)
    (item.withByte 1 0x0D).withByte 2 0x06
  else if self.data1[1] > 0x0E then
    let item := self.withByte 6 self.data1[1]
    let item := item.withByte 3 (item.data1[2] + 0x01)
    (item.withByte 1 0x0D).withByte 2 0x07
  else
    self

def encodeForVersion (toVersion : Version) (itemParameterTable : Option ItemParameterTable)
    (self : ItemData) : Except Exception ItemData :=
  let movedNumbers := if movesNumbers toVersion ∧ !hasEncodedV2Data self then
    itemParameterTable else none
  if self.data1[0] = 0x00 then
    match movedNumbers with
    | some table => encodeWeapon table self
    | none => .ok self
  else if self.data1[0] = 0x01 then
    if movedNumbers.isSome then encodeArmor self else .ok self
  else if self.data1[0] = 0x02 then
    let item := if movedNumbers.isSome then encodeMag self else self
    if isV1 toVersion || isV2 toVersion then
      .ok (packMag item)
    else if isBigEndian toVersion then
      .ok { item with data2d := bswap32 item.data2d }
    else
      .ok item
  else if self.data1[0] = 0x03 then
    .ok (if movedNumbers.isSome then encodeTool self else self)
  else if self.data1[0] = 0x04 then
    .ok self
  else
    .error (.runtimeError "invalid item class")

end HuntersGuild.ItemEncoding
