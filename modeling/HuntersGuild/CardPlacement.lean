import HuntersGuild.BattleMaps

/-!
The checks before a card is set in a battle, the last of which is where on the
map a creature may be placed.

What other parts of the rules say about the cards (their definitions and costs,
the conditions on them, the assists in effect) does not depend on the location,
and is a field of the server.
-/

namespace HuntersGuild.CardPlacement

open HuntersGuild.BattleMaps
open HuntersGuild.ByteStreams

inductive CardType where
  | huntersSc
  | arkzSc
  | item
  | creature
  | action
  | assist
  /-- a value above those of the enumeration -/
  | undefined
deriving DecidableEq

structure CardDefinition where
  cardId : UInt16
  type : CardType
  selfCost : UInt8

inductive AssistEffect where
  | assistless
  | exchange
  | legacy
  | flatland
  | other (value : UInt16)
deriving DecidableEq

structure HandAndEquipState where
  atkPoints : UInt8
  assistFlags : UInt32
  handCardRefs2 : Vector UInt16 6
  setCardRefs2 : Vector UInt16 8
  assistCardRef2 : UInt16

def isSkippingTurn : UInt32 := 0x0080

def sameCardBanned : UInt32 := 0x0200

def cannotSetFieldCharacters : UInt32 := 0x0400

structure CardShortStatus where
  cardRef : UInt16
  cardFlags : UInt32

structure RulerServer where
  isNte : Bool
  handAndEquipStates : Vector (Option HandAndEquipState) 4
  shortStatuses : Vector (Vector CardShortStatus 16) 4
  teamIdForClientId : Vector UInt8 4
  mapAndRules : MapAndRulesState
  cardIdForCardRef : UInt16 → UInt16
  definitionForCardId : UInt16 → Option CardDefinition
  assistEffectNumberForCardId : UInt16 → AssistEffect
  /-- the assists in effect for a client -/
  activeAssists : UInt8 → List AssistEffect
  setCostForCard : UInt8 → UInt16 → Int16
  /-- whether a card may be used with a story character -/
  checkUsability : UInt16 → UInt16 → Bool
  /-- whether the cards of a story character are limited by their number -/
  limitsByCount : UInt16 → Bool

def clientIdForCardRef (cardRef : UInt16) : UInt8 := (cardRef >>> 8).toUInt8

def RulerServer.definitionForCardRef (self : RulerServer) (cardRef : UInt16) :
    Option CardDefinition :=
  if self.cardIdForCardRef cardRef = 0xFFFF then none
  else self.definitionForCardId (self.cardIdForCardRef cardRef)

def RulerServer.getHandAndEquipStateForClientId (self : RulerServer) (clientId : UInt8) :
    Option HandAndEquipState :=
  (self.handAndEquipStates[clientId.toNat]?).join

def RulerServer.isCardRefInHand (self : RulerServer) (cardRef : UInt16) : Bool :=
  cardRef = 0xFFFF ||
    match self.getHandAndEquipStateForClientId (clientIdForCardRef cardRef) with
    | some hes => hes.handCardRefs2.toList.contains cardRef
    | none => false

def RulerServer.cardExistsByStatus (self : RulerServer) (stat : CardShortStatus) : Bool :=
  if stat.cardFlags &&& 3 ≠ 0 ∨ stat.cardRef = 0xFFFF then
    false
  else
    match self.teamIdForClientId[(clientIdForCardRef stat.cardRef).toNat]? with
    | some teamId => teamId ≠ 0xFF
    | none => false

/-- Whether some client has set this card already. -/
def RulerServer.isCardSet (self : RulerServer) (cardId : UInt16) : Bool :=
  self.handAndEquipStates.toList.any fun hes =>
    match hes with
    | some hes =>
        hes.setCardRefs2.toList.any (fun cardRef => cardId = self.cardIdForCardRef cardRef) ||
          cardId = self.cardIdForCardRef hes.assistCardRef2
    | none => false

/-- The costs of the cards on the field, in the order of their places. -/
def RulerServer.existingCost (self : RulerServer) (byCount : Bool) :
    List CardShortStatus → Int → Option Int
  | [], cost => some cost
  | stat :: stats, cost =>
      if stat.cardRef ≠ 0xFFFF ∧ self.cardExistsByStatus stat then
        match self.definitionForCardRef stat.cardRef with
        | none => none
        | some ce => self.existingCost byCount stats (cost + if byCount then 2 else ce.selfCost.toNat)
      else
        self.existingCost byCount stats cost

/-- The part of `error_code_for_client_setting_card` before the location is
looked at. -/
def RulerServer.errorCodeBeforePlacement (self : RulerServer) (clientId : UInt8) (cardRef : UInt16)
    (assistTargetClientId : UInt8) : Int :=
  match self.getHandAndEquipStateForClientId clientId, self.shortStatuses[clientId.toNat]? with
  | some hes, some shortStatuses =>
      if hes.assistFlags &&& isSkippingTurn ≠ 0 then
        -0x76
      else if !self.isNte ∧ !self.isCardRefInHand cardRef then
        -0x5E
      else if hes.assistFlags &&& sameCardBanned ≠ 0 ∧ self.cardIdForCardRef cardRef ≠ 0xFFFF ∧
          self.isCardSet (self.cardIdForCardRef cardRef) then
        -0x76
      else
        match self.definitionForCardId (self.cardIdForCardRef cardRef) with
        | none => -0x7D
        | some ce =>
            if ce.type = .undefined ∨ ce.type = .huntersSc ∨ ce.type = .arkzSc ∨
                ce.type = .action then
              -0x7D
            else if ce.type = .assist ∧ .assistless ∈ self.activeAssists clientId then
              -0x76
            else if ce.type = .assist ∧
                (self.assistEffectNumberForCardId ce.cardId = .legacy ∨
                  !self.isNte ∧ self.assistEffectNumberForCardId ce.cardId = .exchange) ∧
                assistTargetClientId ≠ 0xFF ∧
                assistTargetClientId ≠ clientIdForCardRef cardRef then
              -0x75
            else if ce.type ≠ .assist ∧ hes.assistFlags &&& cannotSetFieldCharacters ≠ 0 then
              -0x76
            else if (self.setCostForCard clientId cardRef).toInt < 0 then
              (self.setCostForCard clientId cardRef).toInt
            else if hes.atkPoints.toNat < (self.setCostForCard clientId cardRef).toInt then
              -0x80
            else if shortStatuses[0].cardRef = 0xFFFF ∨
                !self.cardExistsByStatus shortStatuses[0] ∨
                !self.checkUsability cardRef shortStatuses[0].cardRef then
              -0x75
            else if !((shortStatuses.toList.drop 1).take 6).any (·.cardRef = cardRef) then
              -0x7D
            else if ce.type = .item ∨ ce.type = .creature then
              let limitSummoningByCount := !self.isNte && self.limitsByCount shortStatuses[0].cardRef
              match self.existingCost limitSummoningByCount
                  ((shortStatuses.toList.drop 7).take 8) 0 with
              | none => -0x7D
              | some existingFcsCost =>
                  if existingFcsCost + (if limitSummoningByCount then 2 else ce.selfCost.toNat) > 8
                  then -0x77
                  else 0
            else
              0
  | _, _ => -0x7D

/-! ## The placement of a creature -/

def RulerServer.getCreatureSummonArea (self : RulerServer) (clientId : UInt8) :
    Option (Location × UInt8) :=
  if clientId > 3 then
    none
  else
    let map := self.mapAndRules.map
    let value := (self.mapAndRules.startFacingDirections >>>
      ((clientId.toUInt16 &&& 0x0F) <<< (2 : UInt16))) &&& 0x000F
    match Direction.ofValue value.toUInt8 with
    | .right => some (⟨1, 0, .right⟩, (map.width - 3).toUInt8)
    | .left => some (⟨(map.width - 2).toUInt8, 0, .left⟩, (map.width - 3).toUInt8)
    | .up => some (⟨0, 1, .up⟩, (map.height - 3).toUInt8)
    | .down => some (⟨0, (map.height - 2).toUInt8, .down⟩, (map.height - 3).toUInt8)
    | .undefined _ => none

/-- The second coordinate increases upwards here. -/
def offsetsForDirection (loc : Location) : Int × Int :=
  match loc.direction with
  | .left => (-1, 0)
  | .right => (1, 0)
  | .up => (0, 1)
  | .down => (0, -1)
  | .undefined _ => (0, 0)

/-- Where creatures may be placed in the trial edition. -/
def errorCodeForTrialPlacement (map : MapState) (teamId : UInt8) (summonCost : Int)
    (loc : Location) : Int :=
  let x : Int := loc.x.toNat
  let y : Int := loc.y.toNat
  let width : Int := map.width.toNat
  let height : Int := map.height.toNat
  if teamId = 1 then
    if (x < 1 ∨ x ≥ width - 1 ∨ y < summonCost + 1 ∨ y ≥ height - 1) ∧ y ≠ height - 2 then
      -0x7E
    else
      0
  else if (x < 1 ∨ x ≥ width - 1 ∨ y < 1 ∨ y ≥ height - summonCost - 1) ∧ y ≠ 1 then
    -0x7E
  else
    0

/-- Where creatures may be placed when the client faces in no direction. -/
def errorCodeWithoutArea (map : MapState) (teamId : UInt8) (summonCost : Int) (loc : Location) :
    Int :=
  let x : Int := loc.x.toNat
  let y : Int := loc.y.toNat
  let width : Int := map.width.toNat
  let height : Int := map.height.toNat
  if teamId ≠ 1 then
    if x > 0 ∧ x < width - 1 ∧ (y < height - summonCost - 1 ∧ y > 0 ∨ y = 1) then 0 else -0x7E
  else
    if x > 0 ∧ x < width - 1 ∧ (summonCost + 1 ≤ y ∧ y < height - 1 ∨ y = height - 2) then 0
    else -0x7E

/-- Whether a coordinate is refused. `size` is the size of the map and `offset`
the direction in which the client faces, both along the axis of the coordinate. -/
def refusesCoordinate (offset coordinate area diff size : Int) : Bool :=
  if offset = 0 then
    coordinate < 1 ∧ coordinate ≥ size - 1
  else if offset > 0 then
    coordinate < area ∨ coordinate > area + diff
  else
    coordinate > area ∨ coordinate < area - diff

def errorCodeInArea (map : MapState) (summonAreaLoc : Location) (summonAreaSize : UInt8)
    (summonCost : Int) (loc : Location) : Int :=
  let (xOffset, yOffset) := offsetsForDirection summonAreaLoc
  let diff := max (summonAreaSize.toNat - summonCost) 0
  if refusesCoordinate xOffset loc.x.toNat summonAreaLoc.x.toNat diff map.width.toNat then
    -0x7E
  else if refusesCoordinate yOffset loc.y.toNat summonAreaLoc.y.toNat diff map.height.toNat then
    -0x7E
  else
    0

def RulerServer.summonCost (self : RulerServer) (clientId : UInt8) (ce : CardDefinition) : Int :=
  if .flatland ∈ self.activeAssists clientId then 0 else ce.selfCost.toNat

/-- The part of `error_code_for_client_setting_card` about creatures. -/
def RulerServer.errorCodeForPlacement (self : RulerServer) (clientId : UInt8) (ce : CardDefinition)
    (loc : Option Location) : Except Exception Int := do
  let vacant ← match loc with
    | some loc => self.mapAndRules.tileIsVacant loc.x loc.y
    | none => pure true
  if !vacant then
    return -0x7E
  let teamId ← entry self.teamIdForClientId clientId.toNat
  if teamId = 0xFF then
    return -0x78
  match loc with
  | none => return 0
  | some loc =>
      let map := self.mapAndRules.map
      let summonCost := self.summonCost clientId ce
      if self.isNte then
        return errorCodeForTrialPlacement map teamId summonCost loc
      else
        match self.getCreatureSummonArea clientId with
        | none => return errorCodeWithoutArea map teamId summonCost loc
        | some (summonAreaLoc, summonAreaSize) =>
            return errorCodeInArea map summonAreaLoc summonAreaSize summonCost loc

def RulerServer.errorCodeForClientSettingCard (self : RulerServer) (clientId : UInt8)
    (cardRef : UInt16) (loc : Option Location) (assistTargetClientId : UInt8) :
    Except Exception Int := do
  let code := self.errorCodeBeforePlacement clientId cardRef assistTargetClientId
  if code ≠ 0 then
    return code
  else
    match self.definitionForCardId (self.cardIdForCardRef cardRef) with
    | some ce =>
        if ce.type = .creature then
          self.errorCodeForPlacement clientId ce loc
        else
          return 0
    | none => return 0

end HuntersGuild.CardPlacement
