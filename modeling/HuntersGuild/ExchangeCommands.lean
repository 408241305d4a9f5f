import HuntersGuild.BlueBurstSession

/-!
The commands with which quests exchange items. Each handler returns whether it
has ended on its success path.
-/

namespace HuntersGuild.ExchangeCommands

open HuntersGuild.BlueBurstSession
open HuntersGuild.CharacterFile
open HuntersGuild.ExceptionRules
open HuntersGuild.InventoryOperations
open HuntersGuild.Items
open HuntersGuild.StatefulPrograms

/-! Quests and the items that they may create. -/

def CreateItemMask.matchItem (self : CreateItemMask) (item : ItemData) : Bool :=
  (List.finRange 12).all fun z =>
    (self.data1Ranges.get z).min ≤ item.data1[z] ∧ item.data1[z] ≤ (self.data1Ranges.get z).max

def CreateItemMask.primaryIdentifier (self : CreateItemMask) : Except Exception UInt32 :=
  if self.data1Ranges[0].min = self.data1Ranges[0].max ∧
      self.data1Ranges[1].min = self.data1Ranges[1].max ∧
      self.data1Ranges[2].min = self.data1Ranges[2].max then
    .ok (word self.data1Ranges[0].min self.data1Ranges[1].min self.data1Ranges[2].min 0)
  else
    .error (.runtimeError "create item mask is ambiguous; cannot compute primary identifier")

/-- The only item that a mask describes. -/
def CreateItemMask.item (self : CreateItemMask) : Except Exception ItemData :=
  if self.data1Ranges.all fun r => r.min = r.max then
    .ok { ItemData.cleared with data1 := self.data1Ranges.map (·.min) }
  else
    .error (.runtimeError "invalid range for bb_exchange_slt")

def assertQuestItemCreateAllowed (l : Lobby) (item : ItemData) : Except Exception Unit :=
  match l.quest with
  | none => .error (.runtimeError "cannot create quest reward item with no quest loaded")
  | some masks =>
      if masks.isEmpty || masks.any fun mask => CreateItemMask.matchItem mask item then
        .ok ⟨⟩
      else
        .error (.runtimeError "invalid item creation from quest")

/-! Steps that the handlers share. -/

def inGame {α : Type} (number : String) (l : Lobby) (body : Command α) : Command α :=
  if !l.isGame then
    throw (.runtimeError (number ++ " command sent in non-game lobby"))
  else
    body

def inQuest {α : Type} (number : String) (l : Lobby) (body : Command α) : Command α :=
  inGame number l (if !l.questInProgress then
    throw (.runtimeError (number ++ " command sent during free play"))
  else
    body)

/-- The first item of a kind is removed by its ID. -/
def removeFound (primaryIdentifier amount : UInt32) (limits : StackLimits) :
    Command ItemData := do
  let self ← get
  let foundIndex ← fromExcept
    (self.character.inventory.findItemByPrimaryIdentifier primaryIdentifier)
  inCharacter (removeItem (self.character.inventory.items.get foundIndex).data.id amount limits)

def addNew (newItem : ItemData) (l : Lobby) (limits : StackLimits) : Command ItemData := do
  let newId ← generateItemId l.clientId
  let newItem := { newItem with id := newId }
  inCharacter (addItem newItem limits)
  return newItem

/-- Whatever is thrown is answered with the failure label. -/
def withLabels (successLabel failureLabel : UInt16) (body : Command Unit) : Command Bool :=
  tryCatch
    (do
      body
      send (.questFunctionCall successLabel)
      return true)
    fun _ => do
      send (.questFunctionCall failureLabel)
      return false

/-- Other exceptions are not caught. -/
def catchOutOfRange {α : Type} (body : Command α) : Command (Option α) :=
  tryCatch (do return some (← body)) fun e =>
    match e with
    | .outOfRange _ => return none
    | .runtimeError what => throw (.runtimeError what)

/-! The handlers. -/

/-- 6xD5 -/
structure QuestExchangeItem where
  findItem : ItemData
  replaceItem : ItemData
  successLabel : UInt16
  failureLabel : UInt16
deriving DecidableEq

def questExchangeItem (limits : StackLimits) (l : Lobby) (cmd : QuestExchangeItem) :
    Command Unit := do
  fromExcept (assertQuestItemCreateAllowed l cmd.replaceItem)
  let newItem ← fromExcept (cmd.replaceItem.enforceStackSizeLimits limits)
  let foundItem ← removeFound cmd.findItem.primaryIdentifier 1 limits
  sendDestroyItemToLobby foundItem.id 1 false
  let newItem ← addNew newItem l limits
  sendCreateInventoryItemToLobby newItem false

def onQuestExchangeItemBb (limits : StackLimits) (l : Lobby) (cmd : QuestExchangeItem) :
    Command Bool :=
  inQuest "6xD5" l
    (withLabels cmd.successLabel cmd.failureLabel (questExchangeItem limits l cmd))

/-- 6xD6 -/
structure WrapItem where
  itemId : UInt32
  presentColor : UInt8
deriving DecidableEq

def onWrapItemBb (limits : StackLimits) (l : Lobby) (cmd : WrapItem) : Command Bool :=
  inGame "6xD6" l do
    let item ← inCharacter (removeItem cmd.itemId 1 limits)
    sendDestroyItemToLobby item.id 1 false
    let item ← fromExcept (item.wrap limits cmd.presentColor)
    inCharacter (addItem item limits)
    sendCreateInventoryItemToLobby item false
    return true

/-- 6xD7 -/
structure PaganiniPhotonDropExchange where
  newItem : ItemData
  successLabel : UInt16
  failureLabel : UInt16
deriving DecidableEq

def photonDropExchangeForItem (limits : StackLimits) (l : Lobby)
    (cmd : PaganiniPhotonDropExchange) : Command Unit := do
  fromExcept (assertQuestItemCreateAllowed l cmd.newItem)
  let newItem ← fromExcept (cmd.newItem.enforceStackSizeLimits limits)
  let foundItem ← removeFound 0x03100000 0 limits
  let stackSize ← fromExcept (foundItem.stackSize limits)
  sendDestroyItemToLobby foundItem.id stackSize.toUInt32 false
  let newItem ← addNew newItem l limits
  sendCreateInventoryItemToLobby newItem false

def onPhotonDropExchangeForItemBb (limits : StackLimits) (l : Lobby)
    (cmd : PaganiniPhotonDropExchange) : Command Bool :=
  inGame "6xD7" l
    (withLabels cmd.successLabel cmd.failureLabel (photonDropExchangeForItem limits l cmd))

/-- 6xD8 -/
structure AddSRankWeaponSpecial where
  itemId : UInt32
  specialType : UInt32
  successLabel : UInt16
  failureLabel : UInt16
deriving DecidableEq

def costs : List UInt8 := [60, 60, 20, 20, 30, 30, 30, 50, 40, 50, 40, 40, 50, 40, 40, 40]

def specialCost (specialType : UInt32) : Except Exception UInt8 :=
  match costs[specialType.toNat]? with
  | some cost => .ok cost
  | none => .error (.outOfRange "array::at")

/-- Both removals are announced with the cost as their amount. -/
def photonDropExchangeForSRankSpecial (limits : StackLimits) (cmd : AddSRankWeaponSpecial) :
    Command Unit := do
  let cost ← fromExcept (specialCost cmd.specialType)
  let self ← get
  let paymentItemIndex ← fromExcept
    (self.character.inventory.findItemByPrimaryIdentifier 0x03100000)
  let itemIndex ← fromExcept (self.character.inventory.findItem cmd.itemId)
  if !(self.character.inventory.items.get itemIndex).data.isSRankWeapon then
    throw (.runtimeError "6xD8 cannot be used for non-ES weapons")
  else
    let paymentItem ← inCharacter (removeItem
      (self.character.inventory.items.get paymentItemIndex).data.id cost.toUInt32 limits)
    sendDestroyItemToLobby paymentItem.id cost.toUInt32 false
    let item ← inCharacter (removeItem cmd.itemId 1 limits)
    sendDestroyItemToLobby item.id cost.toUInt32 false
    let item := item.withByte 2 cmd.specialType.toUInt8
    inCharacter (addItem item limits)
    sendCreateInventoryItemToLobby item false

def onPhotonDropExchangeForSRankSpecialBb (limits : StackLimits) (l : Lobby)
    (cmd : AddSRankWeaponSpecial) : Command Bool :=
  inGame "6xD8" l
    (withLabels cmd.successLabel cmd.failureLabel (photonDropExchangeForSRankSpecial limits cmd))

/-- 6xD9 -/
structure MomokaItemExchange where
  findItem : ItemData
  replaceItem : ItemData
deriving DecidableEq

/-- The messages about the items are sent once both steps have succeeded. -/
def onMomokaItemExchangeBb (limits : StackLimits) (l : Lobby) (cmd : MomokaItemExchange) :
    Command Bool :=
  inQuest "6xD9" l do
    fromExcept (assertQuestItemCreateAllowed l cmd.replaceItem)
    let newItem ← fromExcept (cmd.replaceItem.enforceStackSizeLimits limits)
    match ← catchOutOfRange (removeFound cmd.findItem.primaryIdentifier 1 limits) with
    | none =>
        send (.exchangeResult 1)
        return false
    | some foundItem =>
        match ← catchOutOfRange (addNew newItem l limits) with
        | none =>
            inCharacter (addItem foundItem limits)
            send (.exchangeResult 2)
            return false
        | some newItem =>
            sendDestroyItemToLobby foundItem.id 1 false
            sendCreateInventoryItemToLobby newItem false
            send (.exchangeResult 0)
            return true

/-- 6xDA -/
structure UpgradeWeaponAttribute where
  itemId : UInt32
  attributeType : UInt32
  paymentCount : UInt32
  paymentType : UInt32
  successLabel : UInt16
  failureLabel : UInt16
deriving DecidableEq

/-- What is stored at an index that has been in use. -/
def slot (inventory : PlayerInventory) (index : Nat) : ItemData :=
  match inventory.items[index]? with
  | some i => i.data
  | none => .cleared

def attributeAmount (cmd : UpgradeWeaponAttribute) : Except Exception UInt8 :=
  if cmd.paymentType = 1 ∧ cmd.paymentCount = 1 then
    .ok 30
  else if cmd.paymentType = 0 ∧ cmd.paymentCount = 4 then
    .ok 1
  else if cmd.paymentType = 0 ∧ cmd.paymentCount = 20 then
    .ok 5
  else
    .error (.runtimeError "unknown PD/PS expenditure")

def hasKillCount (item : ItemData) : Bool := !item.isSRankWeapon && item.data1[10] &&& 0x80 ≠ 0

/-- The first attribute slot, out of two or three, that is free or holds the
attribute already. -/
def attributeIndex (attributeType : UInt32) (item : ItemData) : Except Exception (Fin 12) :=
  let indexes : List (Fin 12) := if hasKillCount item then [6, 8, 10] else [6, 8]
  match indexes.find? fun z => item.data1[z] = 0 ∨
      item.data1[z] &&& 0x80 = 0 ∧ item.data1[z].toUInt32 = attributeType with
  | some z => .ok z
  | none => .error (.runtimeError "no available attribute slots")

def raiseAttribute (attributeType : UInt32) (amount : UInt8) (item : ItemData) :
    Except Exception ItemData := do
  let z ← attributeIndex attributeType item
  return (item.withByte z attributeType.toUInt8).withByte (z + 1) (item.data1[z + 1] + amount)

/-- After the removal, both indexes may be those of other entries. -/
def upgradeWeaponAttribute (limits : StackLimits) (cmd : UpgradeWeaponAttribute) :
    Command Unit := do
  let self ← get
  let itemIndex ← fromExcept (self.character.inventory.findItem cmd.itemId)
  if (self.character.inventory.items.get itemIndex).data.isSRankWeapon then
    throw (.runtimeError "6xDA command sent for ES weapon")
  else
    let paymentPrimaryIdentifier : UInt32 := if cmd.paymentType ≠ 0 then 0x03100100 else 0x03100000
    let paymentIndex ← fromExcept
      (self.character.inventory.findItemByPrimaryIdentifier paymentPrimaryIdentifier)
    let paymentItem := (self.character.inventory.items.get paymentIndex).data
    let stackSize ← fromExcept (paymentItem.stackSize limits)
    if stackSize < cmd.paymentCount.toNat then
      throw (.runtimeError "not enough payment items present")
    else
      let _ ← inCharacter (removeItem paymentItem.id cmd.paymentCount limits)
      let self ← get
      sendDestroyItemToLobby (slot self.character.inventory paymentIndex).id cmd.paymentCount false
      let attributeAmount ← fromExcept (attributeAmount cmd)
      let item ← fromExcept (raiseAttribute cmd.attributeType attributeAmount
        (slot self.character.inventory itemIndex))
      inCharacter (modify fun p => withItems
        (p.inventory.items.modify itemIndex fun i => { i with data := item }) p)
      sendDestroyItemToLobby item.id 1 false
      sendCreateInventoryItemToLobby item false

def onUpgradeWeaponAttributeBb (limits : StackLimits) (l : Lobby) (cmd : UpgradeWeaponAttribute) :
    Command Bool :=
  inQuest "6xDA" l
    (withLabels cmd.successLabel cmd.failureLabel (upgradeWeaponAttribute limits cmd))

/-- 6xDE; the short form has no failure label. -/
structure ExchangeSecretLotteryTicket where
  index : UInt8
  startRegNum : UInt8
  successLabel : UInt16
  failureLabel : Option UInt16
deriving DecidableEq

def ExchangeSecretLotteryTicket.draw (self : ExchangeSecretLotteryTicket) (draws : Vector UInt32 8)
    (h : 1 ≤ self.index.toNat ∧ self.index.toNat ≤ 8) : UInt32 :=
  draws[self.index.toNat - 1]

def currencyMask (masks : List CreateItemMask) (h : 2 ≤ masks.length) : CreateItemMask :=
  masks[masks.length - 1]

/-- The choice among the masks but for the last one, the currency. -/
def drawnMask (masks : List CreateItemMask) (h : 2 ≤ masks.length) (draw : UInt32) :
    Fin masks.length :=
  ⟨draw.toNat % (masks.length - 1), Nat.lt_of_lt_of_le
    (Nat.mod_lt _ (Nat.sub_pos_of_lt h)) (Nat.sub_le _ _)⟩

/-- The last mask of a quest is that of the currency. -/
def onSecretLotteryTicketExchangeBb (limits : StackLimits) (l : Lobby) (draws : Vector UInt32 8)
    (cmd : ExchangeSecretLotteryTicket) : Command Bool :=
  inQuest "6xDE" l <|
    match l.quest with
    | none => throw (.runtimeError "6xDE command sent with no quest loaded")
    | some masks =>
        if h : 2 ≤ masks.length then do
          let currencyPrimaryIdentifier ← fromExcept
            (CreateItemMask.primaryIdentifier (currencyMask masks h))
          let self ← get
          let regValues := draws.map fun draw => ((drawnMask masks h draw).val + 1).toUInt32
          match self.character.inventory.findItemByPrimaryIdentifier currencyPrimaryIdentifier with
          | .error _ =>
              let failureLabel := cmd.failureLabel.getD cmd.successLabel
              send (.secretLotteryTicketResult 1 failureLabel cmd.startRegNum regValues)
              return false
          | .ok currencyIndex =>
              if hindex : 1 ≤ cmd.index.toNat ∧ cmd.index.toNat ≤ 8 then
                let draw := cmd.draw draws hindex
                let item ← fromExcept (CreateItemMask.item (masks.get (drawnMask masks h draw)))
                let item ← fromExcept (item.enforceStackSizeLimits limits)
                let sltItemId := (self.character.inventory.items.get currencyIndex).data.id
                let _ ← inCharacter (removeItem sltItemId 1 limits)
                sendDestroyItemToLobby sltItemId 1 false
                let item ← addNew item l limits
                sendCreateInventoryItemToLobby item false
                send (.secretLotteryTicketResult 0 cmd.successLabel cmd.startRegNum regValues)
                return true
              else
                throw (.outOfRange "array index out of bounds")
        else
          throw (.runtimeError "quest does not have enough create item mask entries")

def onPhotonCrystalExchangeBb (limits : StackLimits) (l : Lobby) : Command Bool :=
  inQuest "6xDF" l do
    let item ← removeFound 0x03100200 1 limits
    sendDestroyItemToLobby item.id 1 false
    return true

/-- 6xE1 -/
structure ExchangePhotonTickets where
  resultCodeReg : UInt8
  resultIndexReg : UInt8
  resultIndex : UInt8
  successLabel : UInt16
  failureLabel : UInt16
deriving DecidableEq

def ItemData.empty (self : ItemData) : Bool := self.data1.all (· = 0) && self.data2d = 0

/-- A number of photon tickets, and what they are exchanged for. -/
abbrev QuestF95FResult := UInt64 × ItemData

def questF95FResult (results : List QuestF95FResult) (resultIndex : UInt8) :
    Except Exception QuestF95FResult :=
  match results[resultIndex.toNat]? with
  | none => .error (.outOfRange "vector::at")
  | some result =>
      if ItemData.empty result.2 then .error (.runtimeError "invalid result index")
      else .ok result

def onQuestF95FResultBb (limits : StackLimits) (l : Lobby) (results : List QuestF95FResult)
    (cmd : ExchangePhotonTickets) : Command Bool :=
  inQuest "6xE1" l do
    let sendGallonPlanResult (label : UInt16) (resultCode : UInt8) : Command Unit :=
      send (.gallonPlanResult label cmd.resultCodeReg resultCode cmd.resultIndexReg
        cmd.resultIndex)
    let result ← fromExcept (questF95FResult results cmd.resultIndex)
    match ← catchOutOfRange (removeFound 0x03100400 result.1.toUInt32 limits) with
    | none =>
        sendGallonPlanResult cmd.failureLabel 1
        return false
    | some ticketItem =>
        match ← catchOutOfRange (do
          let newItem ← fromExcept (result.2.enforceStackSizeLimits limits)
          addNew newItem l limits) with
        | none =>
            inCharacter (addItem ticketItem limits)
            sendGallonPlanResult cmd.failureLabel 2
            return false
        | some newItem =>
            sendDestroyItemToLobby ticketItem.id result.1.toUInt32 false
            sendCreateInventoryItemToLobby newItem false
            sendGallonPlanResult cmd.successLabel 0
            return true

end HuntersGuild.ExchangeCommands
