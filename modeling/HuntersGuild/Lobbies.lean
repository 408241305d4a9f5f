import HuntersGuild.FloorItems

/-!
Lobbies and games: who is in which slot, the item IDs that are given out next,
and the floor items.
-/

namespace HuntersGuild.Lobbies

open HuntersGuild.FloorItems (Exception FloorItemManager IterationOrder)
open HuntersGuild.StatefulPrograms

inductive GameMode where
  | normal
  | battle
  | challenge
  | solo
deriving DecidableEq

abbrev ClientPointer := Nat

abbrev LobbyPointer := Nat

/-- A client, with the item IDs in its inventory. -/
structure Client where
  isLoggedIn : Bool
  debugEnabled : Bool
  lobby : Option LobbyPointer
  lobbyClientId : UInt8
  lobbyArrowColor : UInt32
  inventoryItemIds : List UInt32

/-- A lobby or a game. Its size is 4 or 12 everywhere in the source. -/
structure Lobby where
  mode : GameMode
  enabledFlags : UInt32
  maxClients : UInt8
  leaderId : UInt8
  clients : Fin 12 → Option ClientPointer
  nextItemIdForClient : Fin 12 → UInt32
  nextGameItemId : UInt32
  numFloors : Nat
  floorItemManagers : Nat → FloorItemManager
  four_le_maxClients : 4 ≤ maxClients.toNat
  maxClients_le : maxClients.toNat ≤ 12

namespace Flag

def game : UInt32 := 0x00000001

def isSpectatorTeam : UInt32 := 0x00004000

end Flag

def Lobby.checkFlag (self : Lobby) (flag : UInt32) : Bool := self.enabledFlags &&& flag ≠ 0

def Lobby.isGame (self : Lobby) : Bool := self.checkFlag Flag.game

/-- The slots below this one belong to the players that a spectator team watches. -/
def Lobby.minClientId (self : Lobby) : Nat :=
  if self.checkFlag Flag.isSpectatorTeam then 4 else 0

def Lobby.countClients (self : Lobby) : Nat :=
  (List.finRange 12).countP fun x => x.val < self.maxClients.toNat ∧ self.clients x ≠ none

/-! Item IDs. -/

def Lobby.resetNextItemIds (self : Lobby) : Lobby :=
  let baseItemId : UInt32 := if self.isGame then 0x00010000 else 0x10010000
  { self with
    nextItemIdForClient := fun x => baseItemId + 0x00200000 * UInt32.ofNat x
    nextGameItemId := 0xCC000000 }

def Lobby.withNextItemId (self : Lobby) (x : Fin 12) (id : UInt32) : Lobby :=
  { self with nextItemIdForClient := Function.update self.nextItemIdForClient x id }

def Lobby.generateItemId (self : Lobby) (clientId : UInt8) : UInt32 × Lobby :=
  if h : clientId.toNat < self.maxClients.toNat then
    let x : Fin 12 := ⟨clientId.toNat, Nat.lt_of_lt_of_le h self.maxClients_le⟩
    (self.nextItemIdForClient x, self.withNextItemId x (self.nextItemIdForClient x + 1))
  else
    (self.nextGameItemId, { self with nextGameItemId := self.nextGameItemId + 1 })

/-- The client counts in the bits from 21 on; IDs outside the range are ignored. -/
def Lobby.onItemIdGeneratedExternally (self : Lobby) (itemId : UInt32) : Except Exception Lobby :=
  if itemId > 0x00010000 ∧ itemId < 0x00810000 then
    if h : ((itemId >>> 21) &&& 0x7FF).toNat < 12 then
      .ok (self.withNextItemId ⟨_, h⟩ (max (self.nextItemIdForClient ⟨_, h⟩) (itemId + 1)))
    else
      .error (.outOfRange "array::at")
  else
    .ok self

/-! Programs about all clients and lobbies. -/

structure World where
  clients : ClientPointer → Client
  lobbies : LobbyPointer → Lobby

abbrev Program := EStateM Exception World

def World.withLobby (w : World) (l : LobbyPointer) (lobby : Lobby) : World :=
  { w with lobbies := Function.update w.lobbies l lobby }

def World.withClient (w : World) (c : ClientPointer) (client : Client) : World :=
  { w with clients := Function.update w.clients c client }

def modifyLobby (l : LobbyPointer) (f : Lobby → Lobby) : Program Unit :=
  modify fun w => w.withLobby l (f (w.lobbies l))

def modifyClient (c : ClientPointer) (f : Client → Client) : Program Unit :=
  modify fun w => w.withClient c (f (w.clients c))

def Lobby.withFloor (self : Lobby) (floor : Nat) (m : FloorItemManager) : Lobby :=
  { self with floorItemManagers := Function.update self.floorItemManagers floor m }

/-- A call to the item manager of one floor. -/
def onFloor {α : Type} (l : LobbyPointer) (floor : Nat) (x : FloorItems.Program α) : Program α :=
  zoom (fun w => (w.lobbies l).floorItemManagers floor)
    (fun m w => w.withLobby l ((w.lobbies l).withFloor floor m)) x

/-- The leader is the first of the remaining clients. -/
def reassignLeaderOnClientDeparture (l : LobbyPointer) (leavingClientIndex : Nat) : Program Unit :=
  modifyLobby l fun lobby =>
    let remaining := (List.finRange 12).find? fun x =>
      x.val < lobby.maxClients.toNat ∧ x.val ≠ leavingClientIndex ∧ lobby.clients x ≠ none
    { lobby with leaderId := match remaining with
        | some x => UInt8.ofNat x
        | none => 0 }

/-- The slot for a joining client: the required one, or the first free one.
With debugging on it is the last free one. -/
def Lobby.slotFor (self : Lobby) (debugEnabled : Bool) (requiredClientId : Int) :
    Except Exception (Fin 12) :=
  if 0 ≤ requiredClientId then
    if h : requiredClientId.toNat < 12 then
      if self.clients ⟨requiredClientId.toNat, h⟩ ≠ none then
        .error (.outOfRange "required slot is in use")
      else
        .ok ⟨requiredClientId.toNat, h⟩
    else
      .error (.outOfRange "array::at")
  else
    let isFree (index : Fin 12) : Bool := self.minClientId ≤ index ∧
      index.val < self.maxClients.toNat ∧ self.clients index = none
    let slots := if debugEnabled ∧ self.mode ≠ .solo then
      (List.finRange 12).reverse
    else
      List.finRange 12
    match slots.find? isFree with
    | some index => .ok index
    | none => .error (.outOfRange "no space left in lobby")

def Lobby.withSlot (self : Lobby) (index : Fin 12) (c : Option ClientPointer) : Lobby :=
  { self with clients := Function.update self.clients index c }

def onlyIf (p : Bool) (x : Program Unit) : Program Unit := if p then x else pure ()

/-- Gives one item of the client's inventory the next ID. -/
def assignItemId (l : LobbyPointer) (clientId : UInt8) : Program UInt32 := do
  let w ← get
  let (id, lobby) := (w.lobbies l).generateItemId clientId
  set (w.withLobby l lobby)
  return id

/-- Without `consumeIds` the counter of the client goes back afterwards. -/
def assignInventoryItemIds (l : LobbyPointer) (c : ClientPointer) (consumeIds : Bool) :
    Program Unit := do
  let w ← get
  let clientId := (w.clients c).lobbyClientId
  if h : clientId.toNat < 12 then
    let origNextItemId := (w.lobbies l).nextItemIdForClient ⟨clientId.toNat, h⟩
    let ids ← (w.clients c).inventoryItemIds.mapM fun _ => assignItemId l clientId
    modifyClient c fun client => { client with inventoryItemIds := ids }
    onlyIf (¬ consumeIds)
      (modifyLobby l fun lobby => lobby.withNextItemId ⟨clientId.toNat, h⟩ origNextItemId)
  else
    throw (.outOfRange "array::at")

def reassignFloorItemIds (l : LobbyPointer) (floor : Nat) : Program Unit := do
  let next ← onFloor l floor (FloorItems.reassignAllItemIds ((← get).lobbies l).nextGameItemId)
  modifyLobby l fun lobby => { lobby with nextGameItemId := next }

/-- No slot within the size of the lobby has another client in it. -/
def Lobby.isAlone (self : Lobby) (c : ClientPointer) : Bool :=
  (List.finRange 12).all fun x =>
    self.maxClients.toNat ≤ x ∨ self.clients x = none ∨ self.clients x = some c

def Client.seated (self : Client) (l : LobbyPointer) (index : Fin 12) : Client :=
  { self with
    lobbyClientId := UInt8.ofNat index
    lobby := some l
    lobbyArrowColor := 0 }

/-- New item IDs for a lobby, and for its floor items. -/
def renewItemIds (l : LobbyPointer) : Program Unit := do
  modifyLobby l Lobby.resetNextItemIds
  forM (List.range ((← get).lobbies l).numFloors) (reassignFloorItemIds l)

/-- What `add_client` does after the client has got its slot. -/
def settleIn (l : LobbyPointer) (c : ClientPointer) : Program Unit := do
  let w ← get
  let alone := (w.lobbies l).isAlone c
  onlyIf alone (modifyLobby l fun lobby => { lobby with leaderId := (w.clients c).lobbyClientId })
  onlyIf (¬ (w.lobbies l).isGame ∨ alone) (renewItemIds l)
  let w ← get
  assignInventoryItemIds l c
    (¬ (w.lobbies l).isGame ∨ (w.clients c).lobbyClientId = (w.lobbies l).leaderId)

def addClient (l : LobbyPointer) (c : ClientPointer) (requiredClientId : Int) : Program Unit := do
  let w ← get
  if ¬ (w.clients c).isLoggedIn then
    throw (.runtimeError "client is not logged in")
  else
    let index ← fromExcept ((w.lobbies l).slotFor (w.clients c).debugEnabled requiredClientId)
    modifyLobby l fun lobby => lobby.withSlot index (some c)
    modifyClient c fun client => client.seated l index
    settleIn l c

def Lobby.remainingClientsMask (self : Lobby) : UInt16 :=
  (List.finRange 12).foldl
    (fun mask z => if self.clients z = none then mask else mask ||| (1 <<< UInt16.ofNat z)) 0

/-- The cleanup of one floor when a client leaves. -/
def clearFloor (l : LobbyPointer) (mask : UInt16) (order : Nat → IterationOrder) (floor : Nat) :
    Program Unit :=
  onFloor l floor (if mask ≠ 0 then
    FloorItems.clearInaccessible mask (order floor)
  else
    FloorItems.clearPrivate (order floor))

/-- The client may be assigned to another lobby already. -/
def Client.unassigned (self : Client) (l : LobbyPointer) : Client :=
  if self.lobby = some l then { self with lobby := none } else self

/-- What `remove_client` does after it has emptied the slot. -/
def moveOut (l : LobbyPointer) (c : ClientPointer) (order : Nat → IterationOrder) :
    Program Unit := do
  modifyClient c fun client => client.unassigned l
  reassignLeaderOnClientDeparture l ((← get).clients c).lobbyClientId.toNat
  let w ← get
  forM (List.range (w.lobbies l).numFloors)
    (clearFloor l (w.lobbies l).remainingClientsMask order)

def removeClient (l : LobbyPointer) (c : ClientPointer) (order : Nat → IterationOrder) :
    Program Unit := do
  let w ← get
  if h : (w.clients c).lobbyClientId.toNat < 12 then
    let slot : Fin 12 := ⟨_, h⟩
    if (w.lobbies l).clients slot ≠ some c then
      let otherId := match (w.lobbies l).clients slot with
        | some other => (w.clients other).lobbyClientId
        | none => 0xFF
      throw (.logicError ("client's lobby client id (" ++ toString (w.clients c).lobbyClientId ++
        ") does not match client list (" ++ toString otherId ++ ")"))
    else
      modifyLobby l fun lobby => lobby.withSlot slot none
      moveOut l c order
  else
    throw (.outOfRange "array::at")

/-- The check of the destination before a client is moved. The minimum slot is
the one of the lobby that the client comes from. -/
def checkSpace (source dest : Lobby) (requiredClientId : Int) : Except Exception Unit :=
  if 0 ≤ requiredClientId then
    if h : requiredClientId.toNat < 12 then
      if dest.clients ⟨requiredClientId.toNat, h⟩ ≠ none then
        .error (.outOfRange "required slot is in use")
      else
        .ok ()
    else
      .error (.outOfRange "array::at")
  else
    let availableSlots := dest.maxClients.toNat - source.minClientId
    if availableSlots ≤ dest.countClients then
      .error (.outOfRange "no space left in lobby")
    else
      .ok ()

def moveClientToLobby (source dest : LobbyPointer) (c : ClientPointer) (requiredClientId : Int)
    (order : Nat → IterationOrder) : Program Unit := do
  if dest = source then
    return ()
  else
    let w ← get
    fromExcept (checkSpace (w.lobbies source) (w.lobbies dest) requiredClientId)
    removeClient source c order
    addClient dest c requiredClientId

end HuntersGuild.Lobbies
