import HuntersGuild.StatefulPrograms
import HuntersGuild.StringReaders

/-!
Recordings of Episode 3 battles and their files: `Episode3::BattleRecord`.
-/

namespace HuntersGuild.BattleRecords

open HuntersGuild.ByteStreams
open HuntersGuild.StringReaders
open HuntersGuild.StatefulPrograms

/-- `PlayerLobbyDataDCGC`; the name is kept in its encoded form. -/
structure PlayerLobbyData where
  playerTag : UInt32
  guildCardNumber : UInt32
  ipAddress : UInt32
  clientId : UInt32
  name : Parray 0x10
  deriving DecidableEq

/-- The inventory and the display data are copied as a whole. -/
structure PlayerEntry where
  lobbyData : PlayerLobbyData
  inventory : Parray 0x34C
  disp : Parray 0xD0
  level : UInt32
  deriving DecidableEq

def PlayerLobbyData.put (self : PlayerLobbyData) : List UInt8 :=
  putU32l self.playerTag ++ (putU32l self.guildCardNumber ++ (putU32b self.ipAddress ++
    (putU32l self.clientId ++ self.name.bytes)))

def PlayerLobbyData.get : Reader PlayerLobbyData := do
  let playerTag ← getU32l
  let guildCardNumber ← getU32l
  let ipAddress ← getU32b
  let clientId ← getU32l
  let name ← getParray 0x10
  return { playerTag, guildCardNumber, ipAddress, clientId, name }

def PlayerEntry.put (self : PlayerEntry) : List UInt8 :=
  self.lobbyData.put ++ (self.inventory.bytes ++ (self.disp.bytes ++ putU32l self.level))

def PlayerEntry.get : Reader PlayerEntry := do
  let lobbyData ← PlayerLobbyData.get
  let inventory ← getParray 0x34C
  let disp ← getParray 0xD0
  let level ← getU32l
  return { lobbyData, inventory, disp, level }

/-- `BattleRecord::Event::Type`. -/
inductive EventType where
  | playerJoin
  | playerLeave
  | setInitialPlayers
  | battleCommand
  | gameCommand
  | ep3GameCommand
  | chatMessage
  | serverDataCommand
  deriving DecidableEq

def EventType.byte : EventType → UInt8
  | .playerJoin => 0
  | .playerLeave => 1
  | .setInitialPlayers => 2
  | .battleCommand => 3
  | .gameCommand => 4
  | .ep3GameCommand => 5
  | .chatMessage => 6
  | .serverDataCommand => 7

def EventType.ofByte? (v : UInt8) : Option EventType :=
  match v.toNat with
  | 0 => some .playerJoin
  | 1 => some .playerLeave
  | 2 => some .setInitialPlayers
  | 3 => some .battleCommand
  | 4 => some .gameCommand
  | 5 => some .ep3GameCommand
  | 6 => some .chatMessage
  | 7 => some .serverDataCommand
  | _ => none

/-- `BattleRecord::Event`. The two numbers are `none` while they are not
initialized. -/
structure Event where
  type : EventType
  timestamp : UInt64
  players : List PlayerEntry
  leavingClientId : Option UInt8
  guildCardNumber : Option UInt32
  data : List UInt8
  deriving DecidableEq

/-- Reading an uninitialized member is undefined. -/
def initialized {α : Type} : Option α → Except Exception α
  | some a => .ok a
  | none => .error .undefined

def serializeData (data : List UInt8) : List UInt8 :=
  putU16l (.ofNat data.length) ++ data

def Event.serializeBody (self : Event) : Except Exception (List UInt8) :=
  match self.type with
  | .playerJoin =>
      match self.players with
      | [player] => .ok player.put
      | _ => .error (.logicError "player join event does not contain 1 player entry")
  | .playerLeave => do
      let leavingClientId ← initialized self.leavingClientId
      return [leavingClientId]
  | .setInitialPlayers =>
      .ok (.ofNat self.players.length :: self.players.flatMap PlayerEntry.put)
  | .chatMessage => do
      let guildCardNumber ← initialized self.guildCardNumber
      return putU32l guildCardNumber ++ serializeData self.data
  | .gameCommand | .battleCommand | .ep3GameCommand | .serverDataCommand =>
      .ok (serializeData self.data)

def Event.serialize (self : Event) : Except Exception (List UInt8) := do
  let body ← self.serializeBody
  return self.type.byte :: (putU64l self.timestamp ++ body)

def getPlayers : Nat → Reader (List PlayerEntry)
  | 0 => pure []
  | count + 1 => do
      let player ← PlayerEntry.get
      let players ← getPlayers count
      return player :: players

def readData : Reader (List UInt8) := do
  let size ← getU16l
  read size.toNat

/-- The switch in `Event::Event(StringReader&)`: what a case does not read
stays uninitialized. -/
def Event.parseBody (timestamp : UInt64) (type : EventType) : Reader Event :=
  let ev : Event := ⟨type, timestamp, [], none, none, []⟩
  match type with
  | .playerJoin => do
      let player ← PlayerEntry.get
      return { ev with players := [player] }
  | .playerLeave => do
      let leavingClientId ← getU8
      return { ev with leavingClientId := some leavingClientId }
  | .setInitialPlayers => do
      let count ← getU8
      let players ← getPlayers count.toNat
      return { ev with players }
  | .chatMessage => do
      let guildCardNumber ← getU32l
      let data ← readData
      return { ev with guildCardNumber := some guildCardNumber, data }
  | .gameCommand | .battleCommand | .ep3GameCommand | .serverDataCommand => do
      let data ← readData
      return { ev with data }

def Event.parse : Reader Event := do
  let type ← getU8
  let timestamp ← getU64l
  match EventType.ofByte? type with
  | some type => Event.parseBody timestamp type
  | none => throw (.logicError "unknown event type")

def signatureV1 : UInt64 := 0x14C946D56D1DAC50
def signatureV2 : UInt64 := 0xD01E5EC12853C377

structure BattleRecord where
  isWritable : Bool
  behaviorFlags : UInt32
  battleStartTimestamp : UInt64
  battleEndTimestamp : UInt64
  events : List Event
  randomStream : List UInt8
  deriving DecidableEq

/-- `BattleRecord(uint32_t)`. -/
def BattleRecord.create (behaviorFlags : UInt32) : BattleRecord :=
  ⟨true, behaviorFlags, 0, 0, [], []⟩

/-- The loop that reads events until `eof`. Every event takes bytes, so the
fuel does not run out. -/
def parseEvents : Nat → StringReader → Except Exception (List Event)
  | 0, _ => .error .nonterminating
  | fuel + 1, r =>
      if r.eof then .ok []
      else do
        let (ev, r) ← Event.parse r
        let events ← parseEvents fuel r
        return ev :: events

def hasRandomStream (signature : UInt64) : Except Exception Bool :=
  if signature = signatureV1 then .ok false
  else if signature = signatureV2 then .ok true
  else .error (.runtimeError "incorrect battle record signature")

def readRandomStream (hasRandomStream : Bool) : Reader (List UInt8) :=
  if hasRandomStream then do
    let size ← getU32l
    read size.toNat
  else pure []

/-- What comes before the events. -/
def parseHeader : Reader BattleRecord := do
  let signature ← getU64l
  let hasRandomStream ← liftM (hasRandomStream signature)
  let battleStartTimestamp ← getU64l
  let battleEndTimestamp ← getU64l
  let behaviorFlags ← getU32l
  let randomStream ← readRandomStream hasRandomStream
  return ⟨false, behaviorFlags, battleStartTimestamp, battleEndTimestamp, [], randomStream⟩

/-- `BattleRecord(const string&)`. -/
def BattleRecord.parse (data : List UInt8) : Except Exception BattleRecord := do
  let (record, r) ← parseHeader (.ofBytes data)
  let events ← parseEvents (r.remaining.length + 1) r
  return { record with events }

def BattleRecord.serializeHeader (self : BattleRecord) : List UInt8 :=
  putU64l signatureV2 ++ (putU64l self.battleStartTimestamp ++
    (putU64l self.battleEndTimestamp ++ (putU32l self.behaviorFlags ++
      (putU32l (.ofNat self.randomStream.length) ++ self.randomStream))))

def BattleRecord.serialize (self : BattleRecord) : Except Exception (List UInt8) := do
  let events ← self.events.mapM Event.serialize
  return self.serializeHeader ++ events.flatten

/-! The calls that record a battle. Each takes the time that `phosg::now` returns. -/

abbrev Recording (α : Type) := EStateM Exception BattleRecord α

def checkWritable : Recording PUnit := do
  let record ← get
  unless record.isWritable do
    throw (.logicError "cannot write to battle record")

def addEvent (ev : Event) : Recording PUnit :=
  modify fun record => { record with events := record.events ++ [ev] }

/-- A new event in the list has its members zeroed first. -/
def Event.emplaced (type : EventType) (timestamp : UInt64) : Event :=
  ⟨type, timestamp, [], some 0, some 0, []⟩

def addPlayer (now : UInt64) (player : PlayerEntry) : Recording PUnit := do
  checkWritable
  let record ← get
  unless record.battleStartTimestamp = 0 do
    throw (.runtimeError "cannot add player during battle")
  addEvent { Event.emplaced .playerJoin now with players := [player] }

def deletePlayer (now : UInt64) (clientId : UInt8) : Recording PUnit := do
  checkWritable
  addEvent { Event.emplaced .playerLeave now with leavingClientId := some clientId }

def addCommand (now : UInt64) (type : EventType) (data : List UInt8) : Recording PUnit := do
  checkWritable
  addEvent { Event.emplaced type now with data }

def addChatMessage (now : UInt64) (guildCardNumber : UInt32) (data : List UInt8) :
    Recording PUnit := do
  checkWritable
  addEvent { Event.emplaced .chatMessage now with guildCardNumber := some guildCardNumber, data }

def addRandomData (data : List UInt8) : Recording PUnit :=
  modify fun record => { record with randomStream := record.randomStream ++ data }

def setBattleEndTimestamp (now : UInt64) : Recording PUnit :=
  modify fun record => { record with battleEndTimestamp := now }

def hexText (n : Nat) : String :=
  String.ofList ((Nat.toDigits 16 n).map Char.toUpper)

/-- `check_size_t<T>(data, maxSize)` with `sizeof(T)`. -/
def checkSize (data : List UInt8) (minSize maxSize : Nat) : Except Exception PUnit :=
  if data.length < minSize then
    .error (.runtimeError ("command too small (expected at least 0x" ++ hexText minSize ++
      " bytes, received 0x" ++ hexText data.length ++ " bytes)"))
  else if maxSize < data.length then
    .error (.runtimeError ("command too large (expected at most 0x" ++ hexText maxSize ++
      " bytes, received 0x" ++ hexText data.length ++ " bytes)"))
  else .ok ⟨⟩

/-- `subcommand` is the first byte of a `G_CardBattleCommandHeader`, and
`subsubcommand` is byte 8 of a `G_MapSubsubcommand_Ep3_6xB6`. -/
def isMapDefinitionEvent (ev : Event) : Except Exception Bool :=
  if ev.type = .battleCommand then do
    checkSize ev.data 8 0xFFFF
    if ev.data.getD 0 0 = 0xB6 then do
      checkSize ev.data 0x0C 0xFFFF
      return ev.data.getD 8 0 = 0x41
    else return false
  else return false

/-- The locals of `set_battle_start_timestamp`. Its arrays are not
initialized, so what they hold first is a parameter of the call. -/
structure StartLocals where
  numMapEvents : Nat
  players : Vector PlayerEntry 4
  playersPresent : Vector Bool 4

def StartLocals.join (self : StartLocals) (player : PlayerEntry) : Except Exception StartLocals :=
  if h : player.lobbyData.clientId.toNat < 4 then
    .ok { self with
      players := self.players.set player.lobbyData.clientId.toNat player
      playersPresent := self.playersPresent.set player.lobbyData.clientId.toNat true }
  else .error (.runtimeError "invalid client ID")

def StartLocals.leave (self : StartLocals) (clientId : UInt8) : Except Exception StartLocals :=
  if h : clientId.toNat < 4 then
    .ok { self with playersPresent := self.playersPresent.set clientId.toNat false }
  else .error (.logicError "invalid client ID")

def StartLocals.scan (self : StartLocals) (ev : Event) : Except Exception StartLocals :=
  match ev.type with
  | .playerJoin =>
      match ev.players with
      | [player] => self.join player
      | _ => .error (.logicError "player join event does not contain 1 player entry")
  | .playerLeave => do
      let leavingClientId ← initialized ev.leavingClientId
      self.leave leavingClientId
  | .setInitialPlayers =>
      .error (.logicError "BattleRecord::set_battle_start_timestamp called twice")
  | _ => do
      let isMap ← isMapDefinitionEvent ev
      return if isMap then { self with numMapEvents := self.numMapEvents + 1 } else self

def StartLocals.initialPlayers (self : StartLocals) : List PlayerEntry :=
  (List.finRange 4).filterMap fun z => if self.playersPresent.get z then some (self.players.get z) else none

/-- The events from the last map definition event on. -/
def fromLastMap : Nat → List Event → Except Exception (List Event)
  | _, [] => .ok []
  | numMapEvents, ev :: events => do
      if ← isMapDefinitionEvent ev then
        if numMapEvents - 1 = 0 then return ev :: events
        else fromLastMap (numMapEvents - 1) events
      else fromLastMap numMapEvents events

/-- The list of events that `set_battle_start_timestamp` keeps. -/
def collapseEvents (now : UInt64) (uninitialized : StartLocals) (events : List Event) :
    Except Exception (List Event) := do
  let locals ← events.foldlM StartLocals.scan { uninitialized with numMapEvents := 0 }
  let kept ← fromLastMap locals.numMapEvents events
  let initialEv : Event := ⟨.setInitialPlayers, now, locals.initialPlayers, none, none, []⟩
  return initialEv :: kept.filter fun ev =>
    ev.type = .battleCommand ∨ ev.type = .serverDataCommand

def setBattleStartTimestamp (now : UInt64) (uninitialized : StartLocals) : Recording PUnit := do
  let record ← get
  unless record.battleStartTimestamp = 0 do
    throw (.logicError "battle start timestamp is already set")
  modify fun record => { record with battleStartTimestamp := now }
  let events ← fromExcept (collapseEvents now uninitialized record.events)
  modify fun record => { record with events, randomStream := [] }

end HuntersGuild.BattleRecords
