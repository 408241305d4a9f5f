import HuntersGuild.RareItemSets
import HuntersGuild.StringReaders

/-!
Rare item tables in the layout of the REL files: a list of drops by monster,
and two parallel arrays of box areas and box drops.
-/

namespace HuntersGuild.RareTableFiles

open HuntersGuild.ExceptionRules
open HuntersGuild.ByteStreams
open HuntersGuild.Items (ItemData)
open HuntersGuild.StringReaders
open HuntersGuild.RareItemSets

/-! ## Packed structures -/

structure PackedDrop where
  probability : UInt8 := 0
  itemCode : Parray 3 := ⟨[0, 0, 0], rfl⟩
  deriving DecidableEq

def emptyDrop : PackedDrop := {}

def PackedDrop.ofExpanded (exp : ExpandedDrop) : Except Exception PackedDrop :=
  if exp.data.canBeEncodedInRelRareTable then
    .ok ⟨compressRate exp.probability, ⟨[exp.data.data1[0], exp.data.data1[1], exp.data.data1[2]], rfl⟩⟩
  else
    .error (.runtimeError ("item " ++ exp.data.shortHex ++
      " has extended attributes and cannot be encoded in a REL file"))

def PackedDrop.expand (self : PackedDrop) : ExpandedDrop where
  probability := expandRate self.probability
  data :=
    { ItemData.cleared with
      data1 := ((ItemData.cleared.data1.set 0 (self.itemCode.bytes.getD 0 0)).set 1
        (self.itemCode.bytes.getD 1 0)).set 2 (self.itemCode.bytes.getD 2 0) }

def PackedDrop.bytes (self : PackedDrop) : List UInt8 :=
  self.probability :: self.itemCode.bytes

def getPackedDrop : Reader PackedDrop := do
  let probability ← getU8
  let itemCode ← getParray 3
  return ⟨probability, itemCode⟩

structure Offsets where
  monsterRaresOffset : UInt32
  boxCount : UInt32
  boxAreasOffset : UInt32
  boxRaresOffset : UInt32
  deriving DecidableEq

def Offsets.bytes (bigEndian : Bool) (self : Offsets) : List UInt8 :=
  putU32 bigEndian self.monsterRaresOffset ++ (putU32 bigEndian self.boxCount ++
    (putU32 bigEndian self.boxAreasOffset ++ putU32 bigEndian self.boxRaresOffset))

def getOffsets (bigEndian : Bool) : Reader Offsets := do
  let monsterRaresOffset ← getU32 bigEndian
  let boxCount ← getU32 bigEndian
  let boxAreasOffset ← getU32 bigEndian
  let boxRaresOffset ← getU32 bigEndian
  return ⟨monsterRaresOffset, boxCount, boxAreasOffset, boxRaresOffset⟩

structure RELFileFooter where
  relocationsOffset : UInt32 := 0
  numRelocations : UInt32 := 0
  unused1 : Vector UInt32 2 := #v[0, 0]
  rootOffset : UInt32 := 0
  unused2 : Vector UInt32 3 := #v[0, 0, 0]
  deriving DecidableEq

def RELFileFooter.bytes (bigEndian : Bool) (self : RELFileFooter) : List UInt8 :=
  putU32 bigEndian self.relocationsOffset ++ (putU32 bigEndian self.numRelocations ++
    (putU32 bigEndian self.unused1[0] ++ (putU32 bigEndian self.unused1[1] ++
      (putU32 bigEndian self.rootOffset ++ (putU32 bigEndian self.unused2[0] ++
        (putU32 bigEndian self.unused2[1] ++ putU32 bigEndian self.unused2[2]))))))

def getRELFileFooter (bigEndian : Bool) : Reader RELFileFooter := do
  let relocationsOffset ← getU32 bigEndian
  let numRelocations ← getU32 bigEndian
  let unused10 ← getU32 bigEndian
  let unused11 ← getU32 bigEndian
  let rootOffset ← getU32 bigEndian
  let unused20 ← getU32 bigEndian
  let unused21 ← getU32 bigEndian
  let unused22 ← getU32 bigEndian
  return ⟨relocationsOffset, numRelocations, #v[unused10, unused11], rootOffset,
    #v[unused20, unused21, unused22]⟩

/-! ## Files -/

structure BoxRare where
  areaNormPlus1 : UInt8
  drop : ExpandedDrop
  deriving DecidableEq

structure ParsedRELData where
  monsterRares : List ExpandedDrop := []
  boxRares : List BoxRare := []
  deriving DecidableEq

/-- The number of monsters for which a file is read. -/
def monsterCount (isV1 : Bool) : Nat := if isV1 then 0x33 else 0x65

def getMonsterRares : Nat → Reader (List ExpandedDrop)
  | 0 => pure []
  | count + 1 => do
    let d ← getPackedDrop
    let monsterRares ← getMonsterRares count
    return d.expand :: monsterRares

/-- The two arrays are read side by side. -/
def getBoxRares : Nat → StringReader → StringReader → Except Exception (List BoxRare)
  | 0, _, _ => return []
  | count + 1, boxAreasR, boxDropsR => do
    let (area, boxAreasR) ← getU8 boxAreasR
    let (drop, boxDropsR) ← getPackedDrop boxDropsR
    let boxRares ← getBoxRares count boxAreasR boxDropsR
    return if drop.itemCode.bytes.all (· == 0) then boxRares else ⟨area, drop.expand⟩ :: boxRares

/-- A file shorter than its footer is refused where the footer is read. -/
def ParsedRELData.parse (data : List UInt8) (bigEndian isV1 : Bool) :
    Except Exception ParsedRELData := do
  let footer ← pget (getRELFileFooter bigEndian) data (data.length - 0x20)
  let root ← pget (getOffsets bigEndian) data footer.rootOffset.toNat
  let monsterRares ← pget (getMonsterRares (monsterCount isV1)) data root.monsterRaresOffset.toNat
  let boxAreasR := (data.drop root.boxAreasOffset.toNat).take root.boxCount.toNat
  let boxDropsR := (data.drop root.boxRaresOffset.toNat).take (root.boxCount.toNat * 4)
  let boxRares ← getBoxRares root.boxCount.toNat (.ofBytes boxAreasR) (.ofBytes boxDropsR)
  return ⟨monsterRares, boxRares⟩

/-- Zeros up to the next multiple of `size`. -/
def padTo (size : Nat) (w : List UInt8) : List UInt8 :=
  w ++ List.replicate ((size - w.length % size) % size) 0

/-- The drops in a file, behind which come as many empty ones as are missing. -/
def monsterRaresSection (isV1 : Bool) (drops : List PackedDrop) : List UInt8 :=
  (drops ++ List.replicate (monsterCount isV1 - drops.length) emptyDrop).flatMap PackedDrop.bytes

def boxAreasSection (boxRares : List BoxRare) : List UInt8 :=
  boxRares.map BoxRare.areaNormPlus1 ++ List.replicate (30 - boxRares.length) 0xFF

def boxRaresSection (drops : List PackedDrop) : List UInt8 :=
  drops.flatMap PackedDrop.bytes ++ (List.replicate (30 - drops.length) (putU32l 0)).flatten

/-- What comes behind the sections: the root structure, the relocations and the
footer. The offsets are taken modulo 2^32. -/
def finish (bigEndian : Bool) (sections : List UInt8) (root : Offsets) : List UInt8 :=
  let w := padTo 4 sections
  let rootOffset := UInt32.ofNat w.length
  let w := padTo 0x20 (w ++ root.bytes bigEndian)
  let footer : RELFileFooter :=
    { relocationsOffset := .ofNat w.length
      numRelocations := 3
      unused1 := #v[1, 0]
      rootOffset }
  let w := w ++ (putU16 bigEndian (rootOffset >>> 2).toUInt16 ++ putU16 bigEndian 2 ++
    putU16 bigEndian 1)
  padTo 0x20 w ++ footer.bytes bigEndian

def rootStructure (monsters areas : List UInt8) (boxRares : List BoxRare) : Offsets where
  monsterRaresOffset := 0
  boxCount := .ofNat boxRares.length
  boxAreasOffset := .ofNat monsters.length
  boxRaresOffset := .ofNat (monsters ++ areas).length

def ParsedRELData.serialize (self : ParsedRELData) (bigEndian isV1 : Bool) :
    Except Exception (List UInt8) := do
  let monsterDrops ← self.monsterRares.mapM PackedDrop.ofExpanded
  let boxDrops ← self.boxRares.mapM fun boxRare => PackedDrop.ofExpanded boxRare.drop
  let monsters := monsterRaresSection isV1 monsterDrops
  let areas := boxAreasSection self.boxRares
  return finish bigEndian (monsters ++ areas ++ boxRaresSection boxDrops)
    (rootStructure monsters areas self.boxRares)

/-! ## Collections -/

/-- One turn of the loop that looks for a monster's only specification. -/
def checkSpec (effectiveSpec spec : ExpandedDrop) : Except Exception ExpandedDrop :=
  if effectiveSpec.data.empty then
    .ok spec
  else if effectiveSpec.probability ≠ spec.probability ∨ effectiveSpec.data ≠ spec.data then
    .error (.runtimeError "monster spec cannot be converted to ItemRT format")
  else
    .ok effectiveSpec

def monsterRare (specs : List ExpandedDrop) : Except Exception ExpandedDrop := do
  let _ ← specs.foldlM checkSpec {}
  return specs.headD {}

def ParsedRELData.ofCollection (collection : SpecCollection) : Except Exception ParsedRELData := do
  let monsterRares ← collection.rtIndexToSpecs.mapM monsterRare
  if collection.boxAreaNormToSpecs.length > 0xFF then
    throw (.runtimeError "area_norm value too high")
  let boxRares := collection.boxAreaNormToSpecs.zipIdx.flatMap fun (specs, areaNorm) =>
    specs.map fun spec => ⟨.ofNat areaNorm + 1, spec⟩
  return ⟨monsterRares, boxRares⟩

/-- `emplace_back` in the list at an index, to which the lists are extended. -/
def emplaceBackAt (specs : List (List ExpandedDrop)) (z : Nat) (drop : ExpandedDrop) :
    List (List ExpandedDrop) :=
  (specs ++ List.replicate (z + 1 - specs.length) []).modify z (· ++ [drop])

def addMonsterRare (specs : List (List ExpandedDrop)) : ExpandedDrop × Nat →
    List (List ExpandedDrop)
  | (drop, z) => if drop.data.empty then specs else emplaceBackAt specs z drop

def addBoxRare (specs : List (List ExpandedDrop)) (drop : BoxRare) : List (List ExpandedDrop) :=
  if drop.areaNormPlus1 = 0 ∨ drop.drop.data.empty then specs
  else emplaceBackAt specs (drop.areaNormPlus1 - 1).toNat drop.drop

def ParsedRELData.asCollection (self : ParsedRELData) : SpecCollection where
  rtIndexToSpecs := self.monsterRares.zipIdx.foldl addMonsterRare []
  boxAreaNormToSpecs := self.boxRares.foldl addBoxRare []

/-- A collection that is written to a file and read back. -/
def convert (bigEndian isV1 : Bool) (collection : SpecCollection) :
    Except Exception SpecCollection := do
  let rel ← ParsedRELData.ofCollection collection
  let data ← rel.serialize bigEndian isV1
  let rel ← ParsedRELData.parse data bigEndian isV1
  return rel.asCollection

end HuntersGuild.RareTableFiles
