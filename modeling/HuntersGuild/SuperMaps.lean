import HuntersGuild.Items

/-!
The objects, enemies and events of a map, each linked to its entries in the map
files of the game versions, and the checks that are made of them.
-/

namespace HuntersGuild.SuperMaps

open HuntersGuild.Items (Version)

inductive Exception where
  | outOfRange (what : String)
  | logicError (what : String)
  | runtimeError (what : String)
  /-- What the language leaves undefined. -/
  | undefined
deriving DecidableEq

/-- `ALL_NON_PATCH_VERSIONS` -/
def allNonPatchVersions : List Version :=
  [.dcNte, .dc112000, .dcV1, .dcV2, .pcNte, .pcV2, .gcNte, .gcV3, .gcEp3Nte, .gcEp3, .xbV3, .bbV4]

inductive EnemyType where
  | unknown | none | nonEnemyNpc | alRappy | astark | baBoota | barbaRay | barbaRayJoint
  | barbarousWolf | beeL | beeR | booma | boota | bulclaw | bulk | canadine | canadineGroup
  | canane | chaosBringer | chaosSorcerer | claw | darkBelra | darkFalz1 | darkFalz2 | darkFalz3
  | darkGunner | darkGunnerControl | darvant | deRolLe | deRolLeBody | deRolLeMine | deathGunner
  | delLily | delRappyCrater | delRappyDesert | delbiter | deldepth | delsaber | dimenian
  | dolmdarl | dolmolm | dorphon | dorphonEclair | dragon | dubchic | dubwitch | eggRappy
  | epsigard | epsilon | evilShark | gaelOrGiel | galGryphon | garanz | gee | giGue | gibbles
  | gigobooma | gillchic | girtablulu | gobooma | golDragon | goran | goranDetonator
  | grassAssassin | guilShark | halloRappy | hidoom | hildebear | hildeblue | illGill | kondrieu
  | kondrieuSpinner | laDimenian | loveRappy | mericarand | mericarol | mericus | merikle
  | merillia | meriltas | merissaA | merissaAa | migium | monest | morfos | mothmant | nanoDragon
  | narLily | olgaFlow1 | olgaFlow2 | palShark | panArms | pazuzuCrater | pazuzuDesert | pigRay
  | pofuillySlime | pouillySlime | poisonLily | pyroGoran | ragRappy | recobox | recon
  | saintMilion | saintMilionSpinner | saintRappy | sandRappyCrater | sandRappyDesert
  | satelliteLizardCrater | satelliteLizardDesert | savageWolf | shambertin | shambertinSpinner
  | sinowBeat | sinowBerill | sinowGold | sinowSpigell | sinowZele | sinowZoa | soDimenian
  | ulGibbon | ulRay | volOpt1 | volOpt2 | volOptAmp | volOptCore | volOptMonitor | volOptPillar
  | yowieCrater | yowieDesert | zeBoota | zolGibbon | zuCrater | zuDesert
deriving DecidableEq

/-! Entities. A pointer to an entity is its position in the list of all entities of
its kind. -/

abbrev Pointer := Nat

/-- Where an entry is in the map file of a version. -/
structure EntryPointer where
  floor : Nat
  index : Nat
deriving DecidableEq

structure ObjectVersion where
  setEntry : Option EntryPointer
  relativeObjectIndex : UInt16

structure Object where
  defForVersion : Version → ObjectVersion
  superId : Nat
  floor : UInt8

structure EnemyVersion where
  setEntry : Option EntryPointer
  relativeEnemyIndex : UInt16
  relativeSetIndex : UInt16

structure Enemy where
  defForVersion : Version → EnemyVersion
  superId : Nat
  superSetId : Nat
  childIndex : UInt16
  aliasTargetEne : Option Pointer
  type : EnemyType
  isDefaultRareV123 : Bool
  isDefaultRareBb : Bool
  floor : UInt8

structure EventVersion where
  setEntry : Option EntryPointer
  relativeEventIndex : UInt16

structure Event where
  defForVersion : Version → EventVersion
  superId : Nat
  floor : UInt8

def Object.version (version : Version) (self : Object) : ObjectVersion := self.defForVersion version

def Enemy.version (version : Version) (self : Enemy) : EnemyVersion := self.defForVersion version

def Event.version (version : Version) (self : Event) : EventVersion := self.defForVersion version

/-- The entities of a version in the order of its map file, and where each floor
begins. -/
structure EntitiesForVersion where
  objects : List Pointer
  objectFloorStartIndexes : List Nat
  enemies : List Pointer
  enemyFloorStartIndexes : List Nat
  enemySets : List Pointer
  enemySetFloorStartIndexes : List Nat
  events : List Pointer
  eventFloorStartIndexes : List Nat

structure SuperMap where
  floorToArea : Vector UInt8 0x12
  objects : List Object
  enemies : List Enemy
  enemySets : List Pointer
  events : List Event
  entitiesForVersion : Version → EntitiesForVersion

def SuperMap.version (version : Version) (self : SuperMap) : EntitiesForVersion :=
  self.entitiesForVersion version

/-! Checks. -/

def check (ok : Bool) (what : String) : Except Exception Unit :=
  if ok then .ok ⟨⟩ else .error (.logicError what)

def itemAt {α : Type} (items : List α) (i : Nat) : Except Exception α :=
  match items[i]? with
  | some item => .ok item
  | none => .error (.outOfRange "at")

def deref {α : Type} (entities : List α) (pointer : Pointer) : Except Exception α :=
  match entities[pointer]? with
  | some entity => .ok entity
  | none => .error .undefined

/-- Counters begin at -1, which the source writes with all bits set. -/
def upperHex (width : Nat) (n : Int) : String :=
  let digits := (Nat.toDigits 16 (n % 2 ^ 64).toNat).map Char.toUpper
  String.ofList (List.replicate (width - digits.length) '0' ++ digits)

namespace SuperMap

def verifySuperIds {α : Type} (superId : α → Nat) (entities : List α) (what : String) :
    Except Exception Unit :=
  entities.zipIdx.forM fun it => check (superId it.1 = it.2) what

/-- Where the loop over all enemies is: the last set, and the last child in it. -/
structure SetCursor where
  superSetId : Int
  prevChildIndex : Nat

def nextInSet (cursor : SetCursor) (ene : Enemy) : Except Exception SetCursor :=
  if ene.childIndex = 0 then
    .ok ⟨cursor.superSetId + 1, 0⟩
  else if ene.childIndex.toNat = cursor.prevChildIndex + 1 then
    .ok ⟨cursor.superSetId, cursor.prevChildIndex + 1⟩
  else
    .error (.logicError "enemy child indexes out of order")

def verifyEnemy (cursor : SetCursor) (it : Enemy × Nat) : Except Exception SetCursor := do
  let (ene, superId) := it
  check (ene.superId = superId) "enemy super_id is incorrect"
  let next ← nextInSet cursor ene
  check (ene.superSetId = next.superSetId) ("enemy super_set_id is incorrect; expected S-" ++
    upperHex 3 next.superSetId ++ ", received S-" ++ upperHex 3 ene.superSetId)
  return next

def verifyEnemies (self : SuperMap) : Except Exception Unit := do
  let last ← self.enemies.zipIdx.foldlM verifyEnemy ⟨-1, 0⟩
  check (last.superSetId = self.enemySets.length - 1)
    ("not all enemy sets are in the enemies list; ended with 0x" ++
      upperHex 1 last.superSetId ++ ", expected 0x" ++ upperHex 1 self.enemySets.length)

/-- The floors after `floor` up to `last`, at which each list is to begin with an
index. -/
def verifyStarts (lists : List (List Nat × Int × String)) (floor last : Nat) : Except Exception Unit :=
  (List.range' (floor + 1) (last - floor)).forM fun f =>
    lists.forM fun list => do
      let start ← itemAt list.1 f
      check (start = list.2.1) list.2.2

def verifyObjectOfVersion (self : SuperMap) (v : Version) (floor : Nat) (it : Pointer × Nat) :
    Except Exception Nat := do
  let entities := self.version v
  let obj ← deref self.objects it.1
  check (floor ≤ obj.floor.toNat) "objects out of floor order"
  verifyStarts [(entities.objectFloorStartIndexes, it.2, "object floor start index is incorrect")]
    floor obj.floor.toNat
  check (obj.version v).setEntry.isSome "object set entry is missing"
  check ((obj.version v).relativeObjectIndex.toNat = it.2) "object relative index is incorrect"
  return obj.floor.toNat

/-- Where the loop over the enemies of a version is: the floor, and the last set. -/
structure FloorCursor where
  floor : Nat
  enemySetIndex : Int

/-- The set of an enemy; a head begins the next one in the list. -/
def setOfEnemy (entities : EntitiesForVersion) (pointer : Pointer) (ene : Enemy) (enemySetIndex : Int) :
    Except Exception Int :=
  if ene.childIndex = 0 then do
    let set ← itemAt entities.enemySets (enemySetIndex + 1).toNat
    check (set = pointer) "enemy set does not match expected enemy"
    return enemySetIndex + 1
  else
    return enemySetIndex

def verifyEnemyOfVersion (self : SuperMap) (v : Version) (cursor : FloorCursor)
    (it : Pointer × Nat) : Except Exception FloorCursor := do
  let entities := self.version v
  let ene ← deref self.enemies it.1
  let enemySetIndex ← setOfEnemy entities it.1 ene cursor.enemySetIndex
  check (cursor.floor ≤ ene.floor.toNat) "enemies out of floor order"
  verifyStarts [(entities.enemyFloorStartIndexes, it.2, "enemy floor start index is incorrect"),
    (entities.enemySetFloorStartIndexes, enemySetIndex, "enemy set floor start index is incorrect")]
    cursor.floor ene.floor.toNat
  check (ene.version v).setEntry.isSome "enemy set entry is missing"
  check ((ene.version v).relativeEnemyIndex.toNat = it.2) "enemy relative index is incorrect"
  check ((ene.version v).relativeSetIndex.toNat = enemySetIndex) "enemy relative set index is incorrect"
  return ⟨ene.floor.toNat, enemySetIndex⟩

def verifyEventOfVersion (self : SuperMap) (v : Version) (floor : Nat) (it : Pointer × Nat) :
    Except Exception Nat := do
  let entities := self.version v
  let ev ← deref self.events it.1
  check (floor ≤ ev.floor.toNat) "events out of floor order"
  verifyStarts [(entities.eventFloorStartIndexes, it.2, "event floor start index is incorrect")]
    floor ev.floor.toNat
  check (ev.version v).setEntry.isSome "event entry is missing"
  check ((ev.version v).relativeEventIndex.toNat = it.2) "event relative index is incorrect"
  return ev.floor.toNat

/-- The checks of one version. The texts of the first four are all the same in the
source. -/
def verifyVersion (self : SuperMap) (v : Version) : Except Exception Unit := do
  let entities := self.version v
  [entities.objectFloorStartIndexes, entities.enemyFloorStartIndexes,
    entities.enemySetFloorStartIndexes, entities.eventFloorStartIndexes].forM fun starts => do
      let start ← itemAt starts 0
      check (start = 0) "object floor start index for floor 0 is incorrect"
  let floor ← entities.objects.zipIdx.foldlM (self.verifyObjectOfVersion v) 0
  verifyStarts [(entities.objectFloorStartIndexes, entities.objects.length,
    "object floor start index is incorrect")] floor 0x11
  let cursor ← entities.enemies.zipIdx.foldlM (self.verifyEnemyOfVersion v) ⟨0, -1⟩
  check (cursor.enemySetIndex = entities.enemySets.length - 1) "not all enemy sets were checked"
  verifyStarts [(entities.enemyFloorStartIndexes, entities.enemies.length,
      "enemy floor start index is incorrect"),
    (entities.enemySetFloorStartIndexes, entities.enemySets.length,
      "enemy set floor start index is incorrect")] cursor.floor 0x11
  let floor ← entities.events.zipIdx.foldlM (self.verifyEventOfVersion v) 0
  verifyStarts [(entities.eventFloorStartIndexes, entities.events.length,
    "event floor start index is incorrect")] floor 0x11

def verify (self : SuperMap) : Except Exception Unit := do
  verifySuperIds Object.superId self.objects "object super_id is incorrect"
  self.verifyEnemies
  verifySuperIds Event.superId self.events "event super_id is incorrect"
  allNonPatchVersions.forM self.verifyVersion

def areaForFloor (self : SuperMap) (floor : UInt8) : Except Exception UInt8 :=
  itemAt self.floorToArea.toList floor.toNat

end SuperMap

end HuntersGuild.SuperMaps
