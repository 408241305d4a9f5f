import HuntersGuild.BankOperations
import HuntersGuild.CharacterFile

/-!
What the commands of a Blue Burst client act on: its character, its bank, the
item IDs of its game, and the messages that are sent about it.
-/

namespace HuntersGuild.BlueBurstSession

open HuntersGuild.BankOperations
open HuntersGuild.CharacterFile
open HuntersGuild.InventoryOperations
open HuntersGuild.Items
open HuntersGuild.StatefulPrograms

structure Range where
  min : UInt8
  max : UInt8
deriving DecidableEq

structure CreateItemMask where
  data1Ranges : Vector Range 12
deriving DecidableEq

/-- What the commands of a client read of its lobby, in which it has the place
`clientId`. -/
structure Lobby where
  isGame : Bool
  isEpisode3 : Bool
  clientId : Fin 12
  effectiveSectionId : UInt8
  questInProgress : Bool
  /-- the masks of the items that the loaded quest may create -/
  quest : Option (List CreateItemMask)
deriving DecidableEq

inductive Message where
  /-- 6x29 -/
  | destroyItem (itemId amount : UInt32) (excludeC : Bool)
  /-- 6xBE -/
  | createInventoryItem (item : ItemData) (excludeC : Bool)
  /-- 6xB9 -/
  | identifyResult (item : ItemData)
  | questFunctionCall (label : UInt16)
  /-- 0x23 -/
  | exchangeResult (result : UInt32)
  /-- 0x24 -/
  | secretLotteryTicketResult (result : UInt32) (label : UInt16) (startRegNum : UInt8)
      (regValues : Vector UInt32 8)
  /-- 0x25 -/
  | gallonPlanResult (label : UInt16) (resultCodeReg resultCode resultIndexReg resultIndex : UInt8)
deriving DecidableEq

structure Session where
  character : PSOBBCharacterFile
  bank : PlayerBank
  nextItemIds : Vector UInt32 12
  identifyResult : ItemData
  sent : List Message
deriving DecidableEq

abbrev Command (α : Type) := EStateM Exception Session α

def inCharacter {α : Type} (x : EStateM Exception PSOBBCharacterFile α) : Command α :=
  zoom Session.character (fun character self => { self with character := character }) x

def inBank {α : Type} (x : EStateM Exception PlayerBank α) : Command α :=
  zoom Session.bank (fun bank self => { self with bank := bank }) x

def send (message : Message) : Command Unit :=
  modify fun self => { self with sent := self.sent ++ [message] }

def sendDestroyItemToLobby (itemId amount : UInt32) (excludeC : Bool) : Command Unit :=
  send (.destroyItem itemId amount excludeC)

def sendCreateInventoryItemToLobby (item : ItemData) (excludeC : Bool) : Command Unit :=
  send (.createInventoryItem item excludeC)

/-- Clients number the items they get themselves. -/
def generateItemId (clientId : Fin 12) : Command UInt32 := do
  let self ← get
  let itemId := self.nextItemIds[clientId]
  modify fun self => { self with nextItemIds := self.nextItemIds.set clientId (itemId + 1) }
  return itemId

def onItemIdGeneratedExternally (itemId : UInt32) : Command Unit := do
  if 0x00010000 < itemId ∧ itemId < 0x00810000 then
    let self ← get
    let itemClientId := ((itemId >>> 21) &&& 0x7FF).toNat
    if h : itemClientId < 12 then
      modify fun self => { self with
        nextItemIds := self.nextItemIds.set itemClientId
          (max self.nextItemIds[itemClientId] (itemId + 1)) }
    else
      throw (.outOfRange "array::at")

/-! A call of a part of the session decides how the command goes on. -/

variable {α β : Type} {self : Session} {e : Exception} {a : α} {f : α → Command β}

theorem run_inCharacter_bind_of_ok {x : EStateM Exception PSOBBCharacterFile α}
    {character : PSOBBCharacterFile} (h : x.run self.character = .ok a character) :
    (inCharacter x >>= f).run self = (f a).run { self with character := character } := by
  refine run_bind_of_ok ?_
  rw [inCharacter, run_zoom, h]

theorem run_inCharacter_bind_of_error {x : EStateM Exception PSOBBCharacterFile α}
    {character : PSOBBCharacterFile} (h : x.run self.character = .error e character) :
    (inCharacter x >>= f).run self = .error e { self with character := character } := by
  refine run_bind_of_error ?_
  rw [inCharacter, run_zoom, h]

theorem run_inBank_bind_of_ok {x : EStateM Exception PlayerBank α} {bank : PlayerBank}
    (h : x.run self.bank = .ok a bank) :
    (inBank x >>= f).run self = (f a).run { self with bank := bank } := by
  refine run_bind_of_ok ?_
  rw [inBank, run_zoom, h]

theorem run_inBank_bind_of_error {x : EStateM Exception PlayerBank α} {bank : PlayerBank}
    (h : x.run self.bank = .error e bank) :
    (inBank x >>= f).run self = .error e { self with bank := bank } := by
  refine run_bind_of_error ?_
  rw [inBank, run_zoom, h]

theorem run_generateItemId_bind (clientId : Fin 12) (f : UInt32 → Command β) (self : Session) :
    (generateItemId clientId >>= f).run self = (f self.nextItemIds[clientId]).run { self with
      nextItemIds := self.nextItemIds.set clientId (self.nextItemIds[clientId] + 1) } := rfl

/-- The IDs in the range are all of places that exist. -/
theorem run_onItemIdGeneratedExternally (itemId : UInt32) (self : Session) :
    ∃ ids, (onItemIdGeneratedExternally itemId).run self =
      .ok ⟨⟩ { self with nextItemIds := ids } := by
  unfold onItemIdGeneratedExternally
  split
  · rename_i hrange
    have hid := UInt32.lt_iff_toNat_lt.mp hrange.2
    have hplace : ((itemId >>> 21) &&& 0x7FF).toNat < 12 := by
      have hle : ((itemId >>> 21) &&& 0x7FF).toNat ≤ (itemId >>> 21).toNat := by
        rw [UInt32.toNat_and]
        exact Nat.and_le_left
      have hshift : (itemId >>> 21).toNat = itemId.toNat >>> 21 := rfl
      rw [hshift, Nat.shiftRight_eq_div_pow] at hle
      have hbound : (0x00810000 : UInt32).toNat = 0x00810000 := rfl
      omega
    rw [run_get_bind, dif_pos hplace]
    exact ⟨_, rfl⟩
  · exact ⟨self.nextItemIds, rfl⟩

end HuntersGuild.BlueBurstSession
