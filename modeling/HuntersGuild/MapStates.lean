import HuntersGuild.Segments
import HuntersGuild.SuperMaps
import Mathlib.Algebra.GroupWithZero.Nat

/-!
The entities of the maps of a game, in free play one map for each floor, and the
numbers by which the clients of each version know them.
-/

namespace HuntersGuild.MapStates

open HuntersGuild.Items (Version isV4)
open HuntersGuild.Segments
open HuntersGuild.SuperMaps

/-! States of entities. -/

/-- An entity of a super map. -/
structure EntityRef where
  map : Pointer
  position : Pointer
deriving DecidableEq

/-- Only objects from outside of the maps have no entity. -/
structure ObjectState where
  superObj : Option EntityRef
  kId : Nat
deriving DecidableEq

structure EnemyState where
  aliasTargetEneSt : Option Pointer
  superEne : EntityRef
  eId : Nat
  setId : Int
  rareFlags : BitVec 16
  mericarandVariantFlags : BitVec 16
deriving DecidableEq

structure EventState where
  superEv : EntityRef
  wId : Nat
deriving DecidableEq

structure EntityBaseIndexes where
  baseObjectIndex : Nat
  baseEnemyIndex : Nat
  baseEnemySetIndex : Nat
  baseEventIndex : Nat
deriving DecidableEq

def EntityBaseIndexes.zero : EntityBaseIndexes := ⟨0, 0, 0, 0⟩

structure FloorConfig where
  superMap : Option Pointer
  indexes : Version → EntityBaseIndexes
  baseSuperIds : EntityBaseIndexes

def FloorConfig.empty : FloorConfig := ⟨none, fun _ => .zero, .zero⟩

def FloorConfig.baseIndexesForVersion (version : Version) (self : FloorConfig) : EntityBaseIndexes :=
  self.indexes version

inductive Difficulty where
  | normal
  | hard
  | veryHard
  | ultimate
deriving DecidableEq

structure RareEnemyRates where
  hildeblue : UInt32
  rappy : UInt32
  narLily : UInt32
  pouillySlime : UInt32
  mericarand : UInt32
  merissaAa : UInt32
  pazuzu : UInt32
  dorphonEclair : UInt32
  kondrieu : UInt32

def RareEnemyRates.get (type : EnemyType) (self : RareEnemyRates) : UInt32 :=
  match type with
  | .hildebear => self.hildeblue
  | .ragRappy | .sandRappyCrater | .sandRappyDesert => self.rappy
  | .poisonLily => self.narLily
  | .pofuillySlime => self.pouillySlime
  | .mericarand => self.mericarand
  | .merissaA => self.merissaAa
  | .zuCrater | .zuDesert => self.pazuzu
  | .dorphon => self.dorphonEclair
  | .saintMilion | .shambertin => self.kondrieu
  | _ => 0

/-- The numbers that a generator is going to give. -/
abbrev RandomGenerator := Nat → UInt32

/-- The map state, with the generator that is used while it is made. -/
structure MapState where
  floorToArea : Vector UInt8 0x12
  numFloors : Nat
  floorConfigEntries : Nat → FloorConfig
  difficulty : Difficulty
  event : UInt8
  randomSeed : UInt32
  bbRareRates : RareEnemyRates
  objectStates : List ObjectState
  enemyStates : List EnemyState
  enemySetStates : List Pointer
  eventStates : List EventState
  bbRareEnemyIndexes : List Nat
  dynamicObjBaseKId : Nat
  dynamicObjBaseIndexForVersion : Version → Nat
  rand : RandomGenerator

/-- The last entry is for the floors behind it too. -/
def MapState.floorConfig (floor : UInt8) (self : MapState) : FloorConfig :=
  self.floorConfigEntries (min floor.toNat (self.numFloors - 1))

/-! Rare enemies. -/

/-- The type that takes the place of an enemy that turns out rare. -/
def rareType (type : EnemyType) (area event : UInt8) : EnemyType :=
  match type with
  | .hildebear => .hildeblue
  | .ragRappy =>
      if area < 0x12 then
        .alRappy
      else if area < 0x24 then
        if event = 0x01 then .saintRappy
        else if event = 0x04 then .eggRappy
        else if event = 0x05 then .halloRappy
        else .loveRappy
      else if area ≤ 0x28 then
        .delRappyCrater
      else
        .delRappyDesert
  | .poisonLily => .narLily
  | .pofuillySlime => .pouillySlime
  | .sandRappyCrater => .delRappyCrater
  | .sandRappyDesert => .delRappyDesert
  | .merissaA => .merissaAa
  | .zuCrater => .pazuzuCrater
  | .zuDesert => .pazuzuDesert
  | .dorphon => .dorphonEclair
  | .saintMilion | .shambertin => .kondrieu
  | type => type

def isV1 (version : Version) : Bool :=
  version = .dcNte || version = .dc112000 || version = .dcV1

def isV2 (version : Version) : Bool :=
  version = .dcV2 || version = .pcNte || version = .pcV2 || version = .gcNte

def isV1OrV2 (version : Version) : Bool := isV1 version || isV2 version

/-- The number of a version in the flags of an enemy. -/
def versionBit : Version → Nat
  | .pcPatch => 0
  | .bbPatch => 1
  | .dcNte => 2
  | .dc112000 => 3
  | .dcV1 => 4
  | .dcV2 => 5
  | .pcNte => 6
  | .pcV2 => 7
  | .gcNte => 8
  | .gcV3 => 9
  | .gcEp3Nte => 10
  | .gcEp3 => 11
  | .xbV3 => 12
  | .bbV4 => 13
  | .unknown => 15

/-- `PSOV2Encryption::single` -/
def single (seed : UInt32) : UInt32 := 0xC6DCAB76 * seed - 0x9E1977BA

namespace EnemyState

def setRare (version : Version) (self : EnemyState) : EnemyState :=
  { self with rareFlags := self.rareFlags ||| (1#16 <<< versionBit version) }

def setMericarandVariantFlag (version : Version) (self : EnemyState) : EnemyState :=
  { self with mericarandVariantFlags := self.mericarandVariantFlags ||| (1#16 <<< versionBit version) }

def isRare (version : Version) (superEne : Enemy) (self : EnemyState) : Bool :=
  self.rareFlags.getLsbD (versionBit version) ||
    if version = .bbV4 then superEne.isDefaultRareBb else superEne.isDefaultRareV123

end EnemyState

section

/- Where the super maps are. -/
variable (maps : Pointer → SuperMap)

def objectOf (ref : EntityRef) : Except Exception Object := deref (maps ref.map).objects ref.position

def enemyOf (ref : EntityRef) : Except Exception Enemy := deref (maps ref.map).enemies ref.position

def eventOf (ref : EntityRef) : Except Exception Event := deref (maps ref.map).events ref.position

/-- What the loop over the versions changes. -/
structure RareRoll where
  state : EnemyState
  bbRareEnemyIndexes : List Nat
  rand : RandomGenerator

/-- Blue Burst clients are told which enemies are rare; the others find it out on
their own, with `det / 65536` for the number that decides. -/
def rollForVersion (ms : MapState) (fc : FloorConfig) (ene : Enemy) (type : EnemyType)
    (roll : RareRoll) (v : Version) : Except Exception RareRoll := do
  let relativeEnemyIndex := (ene.version v).relativeEnemyIndex
  if relativeEnemyIndex = 0xFFFF then
    return roll
  else if (if isV4 v then ene.isDefaultRareBb else ene.isDefaultRareV123) then
    return roll
  else
    let enemyIndex := UInt16.ofNat
      (relativeEnemyIndex.toNat + (fc.baseIndexesForVersion v).baseEnemyIndex)
    if ¬ isV4 v then
      let seed := ms.randomSeed + 0x1000 + enemyIndex.toUInt32
      let det := ((single seed >>> 16) &&& 0xFFFF).toNat
      if type = .mericarand then
        -- 0.9 and 0.8
        if det * 10 > 9 * 65536 then
          return { roll with state := (roll.state.setRare v).setMericarandVariantFlag v }
        else if det * 10 > 8 * 65536 then
          return { roll with state := roll.state.setRare v }
        else
          return roll
      else
        -- 0.001 and 0.002
        if det * 1000 < (if isV1OrV2 v then 65536 else 2 * 65536) then
          return { roll with state := roll.state.setRare v }
        else
          return roll
    else if ene.childIndex > 0 then
      if roll.state.eId < ene.childIndex.toNat then
        throw (.logicError "child enemy state index is less than child_index")
      else
        let parent ← itemAt ms.enemyStates (roll.state.eId - ene.childIndex.toNat)
        let superEne ← enemyOf maps parent.superEne
        if parent.isRare v superEne then
          return { roll with state := roll.state.setRare v }
        else
          return roll
    else
      let bbRareRate := ms.bbRareRates.get type
      if bbRareRate > 0 ∧ roll.bbRareEnemyIndexes.length < 0x10 then
        let next := roll.rand 0
        let roll := { roll with rand := fun n => roll.rand (n + 1) }
        if next < bbRareRate then
          let state := roll.state.setRare v
          return { roll with
            state := if type = .mericarand ∧ enemyIndex &&& 1 ≠ 0 then
              state.setMericarandVariantFlag v else state
            bbRareEnemyIndexes := roll.bbRareEnemyIndexes ++ [enemyIndex.toNat] }
        else
          return roll
      else
        return roll

/-! Making the states. -/

def indexObject (map : Pointer) (ms : MapState) (position : Pointer) : MapState :=
  { ms with objectStates := ms.objectStates ++ [⟨some ⟨map, position⟩, ms.objectStates.length⟩] }

def indexEvent (map : Pointer) (ms : MapState) (position : Pointer) : MapState :=
  { ms with eventStates := ms.eventStates ++ [⟨⟨map, position⟩, ms.eventStates.length⟩] }

/-- The state that an alias stands for. The state of the alias itself is the last
one. -/
def aliasTarget (map : Pointer) (ene : Enemy) (states : List EnemyState) :
    Except Exception (Option Pointer) := do
  match ene.aliasTargetEne with
  | none => return none
  | some target =>
      let targetEne ← deref (maps map).enemies target
      let index : Int := (states.length - 1 : Int) + (targetEne.superId - ene.superId : Int)
      if index < 0 then
        throw (.outOfRange "at")
      else
        let state ← itemAt states index.toNat
        if state.superEne ≠ ⟨map, target⟩ then
          throw (.logicError "found incorrect alias target state for enemy")
        else if targetEne.aliasTargetEne.isSome then
          throw (.runtimeError "target for enemy state alias is itself an alias")
        else
          return some index.toNat

def indexEnemy (map : Pointer) (fc : FloorConfig) (ms : MapState) (it : Enemy × Pointer) :
    Except Exception MapState := do
  let (ene, position) := it
  let eId := ms.enemyStates.length
  let ms := if ene.childIndex = 0 then { ms with enemySetStates := ms.enemySetStates ++ [eId] } else ms
  let state : EnemyState := ⟨none, ⟨map, position⟩, eId, ms.enemySetStates.length - 1, 0, 0⟩
  let target ← aliasTarget maps map ene (ms.enemyStates ++ [state])
  let state := { state with aliasTargetEneSt := target }
  let type :=
    if ene.type = .darkFalz3 ∧ ms.difficulty = .normal then EnemyType.darkFalz2 else ene.type
  let area ← (maps map).areaForFloor ene.floor
  let versions :=
    if type = .mericarand ∨ rareType type area ms.event ≠ type then allNonPatchVersions else []
  let roll ← versions.foldlM (rollForVersion maps ms fc ene type)
    ⟨state, ms.bbRareEnemyIndexes, ms.rand⟩
  return { ms with
    enemyStates := ms.enemyStates ++ [roll.state]
    bbRareEnemyIndexes := roll.bbRareEnemyIndexes
    rand := roll.rand }

def indexSuperMap (fc : FloorConfig) (ms : MapState) : Except Exception MapState := do
  match fc.superMap with
  | none => throw (.logicError "cannot index floor config with no map definition")
  | some map =>
      if (maps map).floorToArea ≠ ms.floorToArea then
        throw (.runtimeError "supermaps have different floor configs")
      else
        let ms := (List.range (maps map).objects.length).foldl (indexObject map) ms
        let ms ← (maps map).enemies.zipIdx.foldlM (indexEnemy maps map fc) ms
        return (List.range (maps map).events.length).foldl (indexEvent map) ms

/-- The numbers that each version is going to have on the next floor. -/
def baseIndexesAfter (fc : FloorConfig) (map : Pointer) (v : Version) : EntityBaseIndexes :=
  let indexes := fc.baseIndexesForVersion v
  let entities := (maps map).version v
  { baseObjectIndex := indexes.baseObjectIndex + entities.objects.length
    baseEnemyIndex := indexes.baseEnemyIndex + entities.enemies.length
    baseEnemySetIndex := indexes.baseEnemySetIndex + entities.enemySets.length
    baseEventIndex := indexes.baseEventIndex + entities.events.length }

/-- The numbers of the next floor. A floor without a map hands on what the versions
have, and nothing else. -/
def nextFloorConfig (fc next : FloorConfig) (ms : MapState) : FloorConfig :=
  match fc.superMap with
  | some map => { next with
      indexes := fun v => if v ∈ allNonPatchVersions then baseIndexesAfter maps fc map v else next.indexes v
      baseSuperIds := {
        baseObjectIndex := ms.objectStates.length
        baseEnemyIndex := ms.enemyStates.length
        baseEnemySetIndex := ms.enemySetStates.length
        baseEventIndex := ms.eventStates.length } }
  | none => { next with
      indexes := fun v => if v ∈ allNonPatchVersions then fc.indexes v else next.indexes v }

def addFloor (floorMapDefs : List (Option Pointer)) (ms : MapState) (floor : Nat) :
    Except Exception MapState := do
  let thisFc := { ms.floorConfigEntries floor with superMap := (floorMapDefs[floor]?).join }
  let ms := { ms with floorConfigEntries := Function.update ms.floorConfigEntries floor thisFc }
  let ms ← (if thisFc.superMap.isSome then indexSuperMap maps thisFc ms else pure ms)
  if floor < ms.numFloors - 1 then
    let nextFc := nextFloorConfig maps thisFc (ms.floorConfigEntries (floor + 1)) ms
    return { ms with
      floorConfigEntries := Function.update ms.floorConfigEntries (floor + 1) nextFc }
  else
    return ms

/-- The last object of a version may be on any floor. -/
def computeDynamicObjectBaseIndexes (ms : MapState) : MapState :=
  { ms with
    dynamicObjBaseKId := ms.objectStates.length
    dynamicObjBaseIndexForVersion := fun v =>
      (List.range ms.numFloors).foldl (fun last floor =>
        let fc := ms.floorConfigEntries floor
        match fc.superMap with
        | none => last
        | some map =>
            if v ∈ allNonPatchVersions then
              max ((fc.baseIndexesForVersion v).baseObjectIndex + ((maps map).version v).objects.length) last
            else
              last) 0 }

/-! Checks. -/

/-- The super maps of the floors, each of them once. -/
def distinctMaps (ms : MapState) : List Pointer :=
  (List.range ms.numFloors).foldl (fun verified floor =>
    match (ms.floorConfigEntries floor).superMap with
    | none => verified
    | some map => if map ∈ verified then verified else verified ++ [map]) []

def checkCount (kind : String) (count total : Nat) : Except Exception Unit :=
  check (count = total) ("map state " ++ kind ++ " count (0x" ++ upperHex 1 count ++
    ") does not match supermap " ++ kind ++ " count (0x" ++ upperHex 1 total ++ ")")

def verifyObjectState (ms : MapState) (it : ObjectState × Nat) : Except Exception Unit := do
  let (objSt, kId) := it
  check (objSt.kId = kId) "mismatched object state k_id"
  match objSt.superObj with
  | none => throw .undefined
  | some ref =>
      let obj ← objectOf maps ref
      let fc := ms.floorConfig obj.floor
      check (fc.baseSuperIds.baseObjectIndex + obj.superId = kId) "mismatched object state super_id"

def verifyEnemyState (ms : MapState) (it : EnemyState × Nat) : Except Exception Unit := do
  let (eneSt, eId) := it
  check (eneSt.eId = eId) "mismatched enemy state e_id"
  let ene ← enemyOf maps eneSt.superEne
  let fc := ms.floorConfig ene.floor
  check (fc.baseSuperIds.baseEnemyIndex + ene.superId = eId) "mismatched enemy state super_id"

def verifyEnemySetState (ms : MapState) (it : Pointer × Nat) : Except Exception Unit := do
  let (pointer, setId) := it
  let eneSt ← deref ms.enemyStates pointer
  check (eneSt.setId = setId) "mismatched enemy set state set_id"
  let ene ← enemyOf maps eneSt.superEne
  let fc := ms.floorConfig ene.floor
  check (fc.baseSuperIds.baseEnemySetIndex + ene.superSetId = setId)
    "mismatched enemy set state super_set_id"

def verifyEventState (ms : MapState) (it : EventState × Nat) : Except Exception Unit := do
  let (evSt, wId) := it
  check (evSt.wId = wId) "mismatched event state w_id"
  let ev ← eventOf maps evSt.superEv
  let fc := ms.floorConfig ev.floor
  check (fc.baseSuperIds.baseEventIndex + ev.superId = wId) "mismatched event state super_id"

def verifyBaseIndexes (ms : MapState) (v : Version) (expected : EntityBaseIndexes) (floor : Nat) :
    Except Exception EntityBaseIndexes := do
  let fc := ms.floorConfigEntries floor
  let indexes := fc.baseIndexesForVersion v
  check (expected.baseObjectIndex = indexes.baseObjectIndex)
    "base object index does not match expected value"
  check (expected.baseEnemyIndex = indexes.baseEnemyIndex)
    "base enemy index does not match expected value"
  check (expected.baseEnemySetIndex = indexes.baseEnemySetIndex)
    "base enemy set index does not match expected value"
  check (expected.baseEventIndex = indexes.baseEventIndex)
    "base event set index does not match expected value"
  match fc.superMap with
  | none => return expected
  | some map => return baseIndexesAfter maps { fc with indexes := fun _ => expected } map v

/-- A rare head of a set is to be in the list; each entry is for one enemy. -/
def verifyRareEnemy (ms : MapState) (remaining : List Nat) (eneSt : EnemyState) :
    Except Exception (List Nat) := do
  let ene ← enemyOf maps eneSt.superEne
  if ¬ eneSt.isRare .bbV4 ene ∨ ene.isDefaultRareBb ∨ ene.childIndex > 0 then
    return remaining
  else
    let baseEnemyIndex := ((ms.floorConfig ene.floor).baseIndexesForVersion .bbV4).baseEnemyIndex
    let enemyIndex := baseEnemyIndex + (ene.version .bbV4).relativeEnemyIndex.toNat
    if enemyIndex ∈ remaining then
      return remaining.erase enemyIndex
    else
      throw (.logicError ("BB random rare enemy index " ++ upperHex 4 enemyIndex ++
        " not present in indexes set"))

def verify (ms : MapState) : Except Exception Unit := do
  let verified := distinctMaps ms
  verified.forM fun map => (maps map).verify
  checkCount "object" ms.objectStates.length (verified.map fun map => (maps map).objects.length).sum
  checkCount "enemy" ms.enemyStates.length (verified.map fun map => (maps map).enemies.length).sum
  checkCount "enemy set" ms.enemySetStates.length
    (verified.map fun map => (maps map).enemySets.length).sum
  checkCount "event" ms.eventStates.length (verified.map fun map => (maps map).events.length).sum
  ms.objectStates.zipIdx.forM (verifyObjectState maps ms)
  ms.enemyStates.zipIdx.forM (verifyEnemyState maps ms)
  ms.enemySetStates.zipIdx.forM (verifyEnemySetState maps ms)
  ms.eventStates.zipIdx.forM (verifyEventState maps ms)
  allNonPatchVersions.forM fun v => do
    let _ ← (List.range ms.numFloors).foldlM (verifyBaseIndexes maps ms v) .zero
  let remaining ← ms.enemyStates.foldlM (verifyRareEnemy maps ms) ms.bbRareEnemyIndexes.dedup
  check (remaining = []) ("not all BB random rare enemies were accounted for; remaining: " ++
    String.intercalate ", " (remaining.map (upperHex 4)))

/-- The constructor for free play. -/
def makeMapState (difficulty : Difficulty) (event : UInt8) (randomSeed : UInt32)
    (bbRareRates : RareEnemyRates) (randCrypt : RandomGenerator)
    (floorMapDefs : List (Option Pointer)) : Except Exception MapState := do
  match floorMapDefs with
  | [] => throw (.runtimeError "cannot construct a MapState with no floor maps")
  | none :: _ => throw .undefined
  | some first :: _ =>
      let ms : MapState := {
        floorToArea := (maps first).floorToArea
        numFloors := 0x12
        floorConfigEntries := fun _ => .empty
        difficulty := difficulty
        event := event
        randomSeed := randomSeed
        bbRareRates := bbRareRates
        objectStates := []
        enemyStates := []
        enemySetStates := []
        eventStates := []
        bbRareEnemyIndexes := []
        dynamicObjBaseKId := 0
        dynamicObjBaseIndexForVersion := fun _ => 0
        rand := randCrypt }
      let ms ← (List.range ms.numFloors).foldlM (addFloor maps floorMapDefs) ms
      let ms := computeDynamicObjectBaseIndexes maps ms
      verify maps ms
      return ms

/-- The constructor for quests, which have one map for all floors. -/
def makeQuestMapState (difficulty : Difficulty) (event : UInt8) (randomSeed : UInt32)
    (bbRareRates : RareEnemyRates) (randCrypt : RandomGenerator) (questMapDef : Pointer) :
    Except Exception MapState := do
  let fc := { FloorConfig.empty with superMap := some questMapDef }
  let ms : MapState := {
    floorToArea := (maps questMapDef).floorToArea
    numFloors := 1
    floorConfigEntries := fun _ => fc
    difficulty := difficulty
    event := event
    randomSeed := randomSeed
    bbRareRates := bbRareRates
    objectStates := []
    enemyStates := []
    enemySetStates := []
    eventStates := []
    bbRareEnemyIndexes := []
    dynamicObjBaseKId := 0
    dynamicObjBaseIndexForVersion := fun _ => 0
    rand := randCrypt }
  let ms ← indexSuperMap maps fc ms
  let ms := computeDynamicObjectBaseIndexes maps ms
  verify maps ms
  return ms

/-! Numbers of entities. -/

/-- A version's number for an entity of a floor. -/
def indexOnFloor (base : EntityBaseIndexes → Nat) (version : Version) (relativeIndex : UInt16)
    (floor : UInt8) (ms : MapState) : UInt16 :=
  if relativeIndex = 0xFFFF then
    0xFFFF
  else
    UInt16.ofNat (relativeIndex.toNat + base ((ms.floorConfig floor).baseIndexesForVersion version))

def indexForObjectState (version : Version) (objSt : ObjectState) (ms : MapState) :
    Except Exception UInt16 := do
  match objSt.superObj with
  | some ref =>
      let obj ← objectOf maps ref
      return indexOnFloor EntityBaseIndexes.baseObjectIndex version
        (obj.version version).relativeObjectIndex obj.floor ms
  | none =>
      return UInt16.ofNat (ms.dynamicObjBaseIndexForVersion version + (objSt.kId - ms.dynamicObjBaseKId))

def indexForEnemyState (version : Version) (eneSt : EnemyState) (ms : MapState) :
    Except Exception UInt16 := do
  let ene ← enemyOf maps eneSt.superEne
  return indexOnFloor EntityBaseIndexes.baseEnemyIndex version
    (ene.version version).relativeEnemyIndex ene.floor ms

def setIndexForEnemyState (version : Version) (eneSt : EnemyState) (ms : MapState) :
    Except Exception UInt16 := do
  let ene ← enemyOf maps eneSt.superEne
  return indexOnFloor EntityBaseIndexes.baseEnemySetIndex version
    (ene.version version).relativeSetIndex ene.floor ms

def indexForEventState (version : Version) (evSt : EventState) (ms : MapState) :
    Except Exception UInt16 := do
  let ev ← eventOf maps evSt.superEv
  return indexOnFloor EntityBaseIndexes.baseEventIndex version
    (ev.version version).relativeEventIndex ev.floor ms

/-- The state of an entity of a floor, when the number of the floor's first entity is
known to be small enough. -/
def stateOnFloor {α σ : Type} (base : EntityBaseIndexes → Nat)
    (pointers : EntitiesForVersion → List Pointer) (entities : SuperMap → List α) (superId : α → Nat)
    (states : List σ) (noneOnFloor : String) (version : Version) (fc : FloorConfig) (index : UInt16) :
    Except Exception σ := do
  match fc.superMap with
  | none => throw (.outOfRange noneOnFloor)
  | some map =>
      let pointer ← itemAt (pointers ((maps map).version version))
        (index.toNat - base (fc.baseIndexesForVersion version))
      let entity ← deref (entities (maps map)) pointer
      itemAt states (base fc.baseSuperIds + superId entity)

/-- The floor of an entity is the last one whose first number is not above its
own. -/
def floorOfIndex (base : EntityBaseIndexes → Nat) (version : Version) (index : UInt16)
    (ms : MapState) : Except Exception FloorConfig :=
  match lastStart (fun floor => base ((ms.floorConfigEntries floor).baseIndexesForVersion version))
      index.toNat ms.numFloors with
  | some floor => .ok (ms.floorConfigEntries floor)
  | none => .error (.outOfRange "the specified enemy does not exist")

def objectOnFloor (version : Version) (fc : FloorConfig) (objectIndex : UInt16) (ms : MapState) :
    Except Exception ObjectState :=
  stateOnFloor maps EntityBaseIndexes.baseObjectIndex EntitiesForVersion.objects SuperMap.objects
    Object.superId ms.objectStates "there are no objects on the specified floor" version fc objectIndex

def enemyOnFloor (version : Version) (fc : FloorConfig) (enemyIndex : UInt16) (ms : MapState) :
    Except Exception EnemyState :=
  stateOnFloor maps EntityBaseIndexes.baseEnemyIndex EntitiesForVersion.enemies SuperMap.enemies
    Enemy.superId ms.enemyStates "there are no enemies on the specified floor" version fc enemyIndex

/-- Objects with numbers behind those of the maps are not known to the map state. -/
def dynamicObjectState (version : Version) (objectIndex : UInt16) (ms : MapState) : ObjectState :=
  ⟨none, ms.dynamicObjBaseKId + (objectIndex.toNat - ms.dynamicObjBaseIndexForVersion version)⟩

def objectStateForIndex (version : Version) (objectIndex : UInt16) (ms : MapState) :
    Except Exception ObjectState := do
  if objectIndex.toNat < ms.dynamicObjBaseIndexForVersion version then
    let fc ← floorOfIndex EntityBaseIndexes.baseObjectIndex version objectIndex ms
    objectOnFloor maps version fc objectIndex ms
  else
    return dynamicObjectState version objectIndex ms

def objectStateForIndexOnFloor (version : Version) (floor : UInt8) (objectIndex : UInt16)
    (ms : MapState) : Except Exception ObjectState := do
  if objectIndex.toNat < ms.dynamicObjBaseIndexForVersion version then
    let fc := ms.floorConfig floor
    if objectIndex.toNat < (fc.baseIndexesForVersion version).baseObjectIndex then
      throw (.runtimeError "object is not on the specified floor")
    else
      objectOnFloor maps version fc objectIndex ms
  else
    return dynamicObjectState version objectIndex ms

def enemyStateForIndex (version : Version) (enemyIndex : UInt16) (ms : MapState) :
    Except Exception EnemyState := do
  let fc ← floorOfIndex EntityBaseIndexes.baseEnemyIndex version enemyIndex ms
  enemyOnFloor maps version fc enemyIndex ms

def enemyStateForIndexOnFloor (version : Version) (floor : UInt8) (enemyIndex : UInt16)
    (ms : MapState) : Except Exception EnemyState := do
  let fc := ms.floorConfig floor
  if enemyIndex.toNat < (fc.baseIndexesForVersion version).baseEnemyIndex then
    throw (.runtimeError "enemy is not on the specified floor")
  else
    enemyOnFloor maps version fc enemyIndex ms

def enemyStateForSetIndex (version : Version) (floor : UInt8) (enemySetIndex : UInt16)
    (ms : MapState) : Except Exception EnemyState := do
  let fc := ms.floorConfig floor
  if enemySetIndex.toNat < (fc.baseIndexesForVersion version).baseEnemySetIndex then
    throw (.runtimeError "enemy is not on the specified floor")
  else
    stateOnFloor maps EntityBaseIndexes.baseEnemySetIndex EntitiesForVersion.enemies
      SuperMap.enemies Enemy.superSetId ms.enemyStates "there are no enemies on the specified floor"
      version fc enemySetIndex

def eventStateForIndex (version : Version) (floor : UInt8) (eventIndex : UInt16) (ms : MapState) :
    Except Exception EventState := do
  let fc := ms.floorConfig floor
  if eventIndex.toNat < (fc.baseIndexesForVersion version).baseEventIndex then
    throw (.runtimeError "event is not on the specified floor")
  else
    stateOnFloor maps EntityBaseIndexes.baseEventIndex EntitiesForVersion.events SuperMap.events
      Event.superId ms.eventStates "there are no events on the specified floor" version fc eventIndex

end

end HuntersGuild.MapStates
