import HuntersGuild.ItemRoundTrip

/-!
Mags: their photon blasts, the food that changes their stats, and the forms
that they evolve into.
-/

namespace HuntersGuild.MagFeeding

open HuntersGuild.ByteStreams
open HuntersGuild.ItemEncoding
open HuntersGuild.ItemParameters
open HuntersGuild.Items (ItemData)
open HuntersGuild.StatefulPrograms

/-! ## Levels and photon blasts -/

def computeMagLevel (self : ItemData) : UInt16 :=
  data1w self 2 / 100 + data1w self 3 / 100 + data1w self 4 / 100 + data1w self 5 / 100

def computeMagStrengthFlags (self : ItemData) : UInt16 :=
  let pow := data1w self 3 / 100
  let dex := data1w self 4 / 100
  let mind := data1w self 5 / 100
  let ret : UInt16 := if dex < pow ∧ mind < pow then 0x008 else 0
  let ret := if pow < dex ∧ mind < dex then ret ||| 0x010 else ret
  let ret := if dex < mind ∧ pow < mind then ret ||| 0x020 else ret
  let highest := max dex (max pow mind)
  if 1 < [pow, dex, mind].countP (fun stat => stat = highest) then ret ||| 0x100 else ret

/-- The photon blast of the left slot, which is counted among the unused ones. -/
def unusedPhotonBlast (center right leftPbNum : UInt8) : Except Exception UInt8 :=
  -- `used_pbs` has six elements.
  if 6 ≤ center ∨ 6 ≤ right then .error .undefined
  else
    let unused := ([0, 1, 2, 3, 4, 5] : List UInt8).filter fun z => z ≠ center ∧ z ≠ right
    match unused[leftPbNum.toNat]? with
    | some z => .ok z
    | none => .error (.logicError "failed to find unused photon blast number")

def magPhotonBlastForSlot (self : ItemData) (slot : UInt8) : Except Exception UInt8 :=
  let flags := data2 self 2
  let pbNums := self.data1[3]
  let center := pbNums &&& 0x07
  let right := (pbNums &&& 0x38) >>> (3 : UInt8)
  if slot = 0 then .ok (if flags &&& 1 ≠ 0 then center else 0xFF)
  else if slot = 1 then .ok (if flags &&& 2 ≠ 0 then right else 0xFF)
  else if slot = 2 then
    if flags &&& 4 = 0 then .ok 0xFF
    else unusedPhotonBlast center right ((pbNums &&& 0xC0) >>> (6 : UInt8))
  else .error (.logicError "invalid slot index")

def magHasPhotonBlastInAnySlot (self : ItemData) (pbNum : UInt8) : Except Exception Bool :=
  if pbNum < 6 then
    ([0, 1, 2] : List UInt8).anyM fun slot => do
      return (← magPhotonBlastForSlot self slot) = pbNum
  else .ok false

def addMagPhotonBlast (self : ItemData) (pbNum : UInt8) : Except Exception ItemData := do
  let flags := data2 self 2
  let pbNums := self.data1[3]
  if 6 ≤ pbNum then
    return self
  else if ← magHasPhotonBlastInAnySlot self pbNum then
    return self
  else if flags &&& 1 = 0 then
    return withData2 (self.withByte 3 (pbNums ||| pbNum)) 2 (flags ||| 1)
  else if flags &&& 2 = 0 then
    return withData2 (self.withByte 3 (pbNums ||| (pbNum <<< (3 : UInt8)))) 2 (flags ||| 2)
  else if flags &&& 4 = 0 then
    let origPbNum := pbNum
    let pbNum := if (← magPhotonBlastForSlot self 0) < origPbNum then pbNum - 1 else pbNum
    let pbNum := if (← magPhotonBlastForSlot self 1) < origPbNum then pbNum - 1 else pbNum
    if 4 ≤ pbNum then
      throw (.runtimeError "left photon blast number is too high")
    else
      return withData2 (self.withByte 3 (pbNums ||| (pbNum <<< (6 : UInt8)))) 2 (flags ||| 4)
  else
    return self

/-! ## Classes of characters -/

inductive ClassFlag where
  | male
  | human
  | newman
  | android
  | hunter
  | ranger
  | force
  deriving DecidableEq

/-- The flags that are set for each class, in the order of the class numbers. -/
def classFlags : List (List ClassFlag) :=
  [[.hunter, .human, .male], [.hunter, .newman], [.hunter, .android, .male],
    [.ranger, .human, .male], [.ranger, .android, .male], [.ranger, .android],
    [.force, .human], [.force, .newman, .male], [.force, .newman],
    [.hunter, .android], [.force, .human, .male], [.ranger, .human]]

def charClassHas (flag : ClassFlag) (cls : UInt8) : Except Exception Bool :=
  match classFlags[cls.toNat]? with
  | some flags => .ok (flags.contains flag)
  | none => .error (.outOfRange "array::at")

def charClassIsMale : UInt8 → Except Exception Bool := charClassHas .male

def charClassIsHunter : UInt8 → Except Exception Bool := charClassHas .hunter

def charClassIsRanger : UInt8 → Except Exception Bool := charClassHas .ranger

def charClassIsForce : UInt8 → Except Exception Bool := charClassHas .force

/-! ## The tables -/

structure MagFeedResult where
  def' : Int8 := 0
  pow : Int8 := 0
  dex : Int8 := 0
  mind : Int8 := 0
  iq : Int8 := 0
  synchro : Int8 := 0
  deriving DecidableEq

def magFeedResult (entry : List UInt8) : MagFeedResult where
  def' := (u8 entry 0).toInt8
  pow := (u8 entry 1).toInt8
  dex := (u8 entry 2).toInt8
  mind := (u8 entry 3).toInt8
  iq := (u8 entry 4).toInt8
  synchro := (u8 entry 5).toInt8

/-- What a `MagEvolutionTable` uses for the evolution numbers. -/
structure MagEvolutionTable where
  data : List UInt8
  numMags : Nat
  evolutionNumber : UInt32

def MagEvolutionTable.getEvolutionNumber (self : MagEvolutionTable) (data1_1 : UInt8) :
    Except Exception UInt8 :=
  if self.numMags ≤ data1_1.toNat then
    throw (.runtimeError "invalid mag number")
  else do
    let entry ← pget self.data (self.evolutionNumber + data1_1.toUInt32).toNat 1
    return u8 entry 0

/-- The tables that feeding uses, with the offset of the feed tables in the data
of the item parameter table. -/
structure FeedTables where
  items : ItemParameterTable
  magFeedTable : UInt32
  evolution : MagEvolutionTable

def FeedTables.getMagFeedResult (self : FeedTables) (tableIndex itemIndex : UInt8) :
    Except Exception MagFeedResult :=
  if 8 ≤ tableIndex then
    throw (.outOfRange "invalid mag feed table index")
  else if 11 ≤ itemIndex then
    throw (.outOfRange "invalid mag feed item index")
  else do
    let tableOffsets ← pget self.items.data self.magFeedTable.toNat 0x20
    let offset := u32 self.items.layout.bigEndian tableOffsets (4 * tableIndex.toNat)
    let results ← pget self.items.data offset.toNat (11 * 8)
    return magFeedResult (results.drop (8 * itemIndex.toNat))

def resultIndexForFedItem (identifier : UInt32) : Except Exception UInt8 :=
  match ([0x03000000, 0x03000100, 0x03000200, 0x03010000, 0x03010100, 0x03010200, 0x03060000,
      0x03060100, 0x03030000, 0x03040000, 0x03050000] : List UInt32).idxOf? identifier with
  | some index => .ok index.toUInt8
  | none => .error (.outOfRange "unordered_map::at")

/-! ## Evolutions -/

def level10Evolution (charClass : UInt8) : Except Exception UInt8 :=
  if charClass = 0 ∨ charClass = 1 ∨ charClass = 2 ∨ charClass = 9 then
    .ok 0x01 -- Varuna
  else if charClass = 3 ∨ charClass = 11 ∨ charClass = 4 ∨ charClass = 5 then
    .ok 0x0D -- Kalki
  else if charClass = 10 ∨ charClass = 6 ∨ charClass = 7 ∨ charClass = 8 then
    .ok 0x19 -- Vritra
  else
    .error (.runtimeError "invalid character class")

/-- The form for the strongest stats: each is paired with the flags that lead to
it, and a mag without any of them keeps its number. -/
def byFlags (flags : UInt16) (magNumber : UInt8) (forms : List (UInt16 × UInt8)) : UInt8 :=
  match forms.find? (fun form => flags &&& form.1 ≠ 0) with
  | some form => form.2
  | none => magNumber

def level35Evolution (flags : UInt16) (magNumber : UInt8) : UInt8 :=
  if magNumber = 0x0D then byFlags flags magNumber [(0x110, 0x02), (8, 0x03), (0x20, 0x0B)]
  else if magNumber = 1 then byFlags flags magNumber [(0x108, 0x0E), (0x10, 0x0F), (0x20, 0x04)]
  else if magNumber = 0x19 then
    byFlags flags magNumber [(0x120, 0x1A), (8, 0x1B), (0x10, 0x14)]
  else magNumber

def rareMags : List UInt8 :=
  [0x39, 0x3B, 0x3A, 0x3B, 0x3A, 0x3B, -- Hunter
    0x3D, 0x3C, 0x3D, 0x3C, 0x3D, 0x3E, -- Ranger
    0x41, 0x3F, 0x41, 0x40, 0x41, 0x40] -- Force

/-- The index in `rareMags` for a class and a group of sections. -/
def rareMagIndex (isMale isHunter isRanger isForce : Bool) (sectionIdGroup : UInt8) :
    Except Exception ℕ :=
  let tableIndex := (if isMale then 0 else 1) + sectionIdGroup.toNat * 2
  if isForce then .ok (tableIndex + 12)
  else if isRanger then .ok (tableIndex + 6)
  else if isHunter then .ok tableIndex
  else .error (.logicError "char class is not any of the top-level classes")

/-- The special evolutions from level 100 on, by the section ID and the balance of
the stats. -/
def rareEvolution (magItem : ItemData) (charClass sectionId : UInt8) : Except Exception UInt8 := do
  let sectionIdGroup := sectionId % 3
  let def' := data1w magItem 2 / 100
  let pow := data1w magItem 3 / 100
  let dex := data1w magItem 4 / 100
  let mind := data1w magItem 5 / 100
  let isMale ← charClassIsMale charClass
  let isHunter ← charClassIsHunter charClass
  let isRanger ← charClassIsRanger charClass
  let isForce ← charClassIsForce charClass
  let tableIndex ← rareMagIndex isMale isHunter isRanger isForce sectionIdGroup
  if sectionIdGroup = 0 ∧ pow + mind = def' + dex ∨ sectionIdGroup = 1 ∧ pow + dex = mind + def' ∨
      sectionIdGroup = 2 ∧ pow + def' = mind + dex then
    match rareMags[tableIndex]? with
    | some number => return number
    | none => throw .undefined
  else
    return magItem.data1[1]

/-- The form for an odd or an even section ID, by a comparison of two stats. -/
def bySection (sectionId : UInt8) (less : Bool) (oddLess odd evenLess even : UInt8) : UInt8 :=
  if sectionId &&& 1 ≠ 0 then (if less then oddLess else odd)
  else (if less then evenLess else even)

def level50Evolution (magItem : ItemData) (charClass sectionId : UInt8) :
    Except Exception UInt8 := do
  let flags := computeMagStrengthFlags magItem
  let def' := data1w magItem 2 / 100
  let pow := data1w magItem 3 / 100
  let dex := data1w magItem 4 / 100
  let mind := data1w magItem 5 / 100
  let isHunter ← charClassIsHunter charClass
  let isRanger ← charClassIsRanger charClass
  let isForce ← charClassIsForce charClass
  if isHunter.toNat + isRanger.toNat + isForce.toNat ≠ 1 then
    throw (.logicError "char class is not exactly one of the top-level classes")
  else
    let choose := bySection sectionId
    let forms : List (UInt16 × UInt8) :=
      if isHunter then
        [(0x108, choose (dex < mind) 0x08 0x06 0x0C 0x05),
          (0x010, choose (mind < pow) 0x12 0x10 0x17 0x13),
          (0x020, choose (pow < dex) 0x16 0x24 0x07 0x1E)]
      else if isRanger then
        [(0x110, choose (mind < pow) 0x0A 0x05 0x0C 0x06),
          (0x008, choose (dex < mind) 0x0A 0x26 0x0C 0x06),
          (0x020, choose (pow < dex) 0x18 0x1E 0x08 0x05)]
      else if isForce then
        [(0x120, if def' < 45 then choose (pow < dex) 0x17 0x09 0x1E 0x1C else 0x24),
          (0x008, if def' < 45 then choose (dex < mind) 0x1C 0x20 0x1F 0x25 else 0x23),
          (0x010, if def' < 45 then choose (mind < pow) 0x12 0x0C 0x15 0x11 else 0x24)]
      else []
    return byFlags flags magItem.data1[1] forms

def specialEvolution (magItem : ItemData) (charClass sectionId : UInt8)
    (versionHasRareMags : Bool) : Except Exception UInt8 :=
  if (100 : UInt8) ≤ magItem.data1[2] ∧ versionHasRareMags then
    rareEvolution magItem charClass sectionId
  else .ok magItem.data1[1]

/-- The evolutions at level 50 and beyond: a normal one, if a special one did not
occur. -/
def lateEvolution (magItem : ItemData) (charClass sectionId : UInt8) (versionHasRareMags : Bool) :
    Except Exception UInt8 := do
  let number ← specialEvolution magItem charClass sectionId versionHasRareMags
  if magItem.data1[1] = number then level50Evolution magItem charClass sectionId
  else .ok number

/-- The number that a mag has after its evolution, if it evolves. -/
def evolvedNumber (magItem : ItemData) (evolutionNumber charClass sectionId : UInt8)
    (versionHasRareMags : Bool) : Except Exception UInt8 :=
  let magLevel := magItem.data1[2]
  let magNumber := magItem.data1[1]
  if magLevel < 10 then .ok magNumber
  else if magLevel < 35 then
    if evolutionNumber < 1 then level10Evolution charClass else .ok magNumber
  else if magLevel < 50 then
    if evolutionNumber < 2 then
      .ok (level35Evolution (computeMagStrengthFlags magItem) magNumber)
    else .ok magNumber
  else if magLevel % 5 = 0 ∧ evolutionNumber < 4 then
    lateEvolution magItem charClass sectionId versionHasRareMags
  else .ok magNumber

/-! ## Feeding -/

def updateStat (which : Fin 6) (delta : Int8) : EStateM Exception ItemData PUnit := do
  let data ← get
  let existingStat := data1w data which % 100
  if 0 < delta ∨ delta < 0 ∧ -delta.toInt < (existingStat.toNat : ℤ) then
    let level := computeMagLevel data
    if 200 < level then
      throw (.runtimeError "mag level is too high")
    else
      let room : ℤ := 99 - existingStat.toNat
      let delta := if level = 200 ∧ room < delta.toInt then room else delta.toInt
      set (withData1w data which (data1w data which + UInt16.ofInt delta))
  else
    pure ⟨⟩

/-- The changes of the synchro and the IQ, and the level that follows. -/
def settled (feedResult : MagFeedResult) (data : ItemData) : ItemData :=
  let data := withData2 data 0
    (max 0 (min ((data2 data 0).toNat + feedResult.synchro.toInt) 120)).toNat.toUInt8
  let data := withData2 data 1
    (max 0 (min ((data2 data 1).toNat + feedResult.iq.toInt) 200)).toNat.toUInt8
  data.withByte 2 (computeMagLevel data).toUInt8

/-- The part of `apply_mag_feed_result` between the lookups and the evolution. -/
def feed (feedResult : MagFeedResult) : EStateM Exception ItemData PUnit := do
  updateStat 2 feedResult.def'
  updateStat 3 feedResult.pow
  updateStat 4 feedResult.dex
  updateStat 5 feedResult.mind
  modify (settled feedResult)

/-- What feeding changes: a lookup may add to the members of the item table. -/
structure FeedState where
  parsed : Parsed
  magItem : ItemData

variable {α : Type}

def onItems (x : Lookup α) : EStateM Exception FeedState α :=
  zoom FeedState.parsed (fun parsed s => { s with parsed }) x

def onMag (x : EStateM Exception ItemData α) : EStateM Exception FeedState α :=
  zoom FeedState.magItem (fun magItem s => { s with magItem }) x

/-- The photon blast that a mag gets with its new number. -/
def gainPhotonBlast (tables : FeedTables) (number : UInt8) : EStateM Exception FeedState PUnit := do
  let newMagDef ← onItems (tables.items.getMag number)
  let magItem := (← get).magItem
  let magItem ← fromExcept (addMagPhotonBlast magItem newMagDef.photonBlast)
  onMag (set magItem)

/-- The part of `apply_mag_feed_result` that begins with the evolution number. -/
def evolve (tables : FeedTables) (charClass sectionId : UInt8) (versionHasRareMags : Bool) :
    EStateM Exception FeedState PUnit := do
  let magItem := (← get).magItem
  let evolutionNumber ← fromExcept (tables.evolution.getEvolutionNumber magItem.data1[1])
  let magNumber := magItem.data1[1]
  let number ← fromExcept
    (evolvedNumber magItem evolutionNumber charClass sectionId versionHasRareMags)
  onMag (modify (·.withByte 1 number))
  if magNumber ≠ number then gainPhotonBlast tables number else pure ⟨⟩

def applyMagFeedResult (tables : FeedTables) (fedItem : ItemData) (charClass sectionId : UInt8)
    (versionHasRareMags : Bool) : EStateM Exception FeedState PUnit := do
  let resultIndex ← fromExcept (resultIndexForFedItem fedItem.primaryIdentifier)
  let magItem := (← get).magItem
  let magDef ← onItems (tables.items.getMag magItem.data1[1])
  let feedResult ← fromExcept (tables.getMagFeedResult magDef.feedTable.toUInt8 resultIndex)
  onMag (feed feedResult)
  evolve tables charClass sectionId versionHasRareMags

end HuntersGuild.MagFeeding
