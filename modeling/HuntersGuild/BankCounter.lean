import HuntersGuild.BlueBurstSession

/-!
The bank counter moves items and meseta between a character and its bank. What
is removed on one side may still be refused by the other one.
-/

namespace HuntersGuild.BankCounter

open HuntersGuild.BlueBurstSession
open HuntersGuild.CharacterFile
open HuntersGuild.InventoryOperations
open HuntersGuild.Items
open HuntersGuild.StatefulPrograms

/-- 6xBD -/
structure BankAction where
  itemId : UInt32
  mesetaAmount : UInt32
  action : UInt8
  itemAmount : UInt8
  itemIndex : UInt16
deriving DecidableEq

def depositMeseta (mesetaAmount : UInt32) : Command Unit := do
  let self ← get
  if self.character.meseta < mesetaAmount then
    return
  else if self.bank.maxMeseta < self.bank.meseta + mesetaAmount then
    return
  else
    modify fun self => { self with
      bank.meseta := self.bank.meseta + mesetaAmount
      character.meseta := self.character.meseta - mesetaAmount }

/-- An item that is split off keeps the ID of its stack. -/
def depositItem (itemId : UInt32) (itemAmount : UInt8) (limits : StackLimits) :
    Command Unit := do
  let item ← inCharacter (removeItem itemId itemAmount.toUInt32 limits)
  let item := if item.id = 0xFFFFFFFF then { item with id := itemId } else item
  inBank (BankOperations.addItem item limits)
  sendDestroyItemToLobby itemId itemAmount.toUInt32 true

def takeMeseta (mesetaAmount : UInt32) : Command Unit := do
  let self ← get
  if self.bank.meseta < mesetaAmount then
    return
  else if 999999 < self.character.meseta + mesetaAmount then
    return
  else
    modify fun self => { self with
      bank.meseta := self.bank.meseta - mesetaAmount
      character.meseta := self.character.meseta + mesetaAmount }

def takeItem (itemId : UInt32) (itemAmount : UInt8) (clientId : Fin 12) (limits : StackLimits) :
    Command Unit := do
  let item ← inBank (BankOperations.removeItem itemId itemAmount.toUInt32 limits)
  let newId ← generateItemId clientId
  let item := { item with id := newId }
  inCharacter (addItem item limits)
  sendCreateInventoryItemToLobby item false

/-- The branch of the handler for Blue Burst clients. -/
def onEp3PrivateWordSelectBbBankAction (limits : StackLimits) (l : Lobby) (cmd : BankAction) :
    Command Unit := do
  if !l.isGame then
    return
  else if cmd.action = 0 then
    if cmd.itemId = 0xFFFFFFFF then
      depositMeseta cmd.mesetaAmount
    else
      depositItem cmd.itemId cmd.itemAmount limits
  else if cmd.action = 1 then
    if cmd.itemIndex = 0xFFFF then
      takeMeseta cmd.mesetaAmount
    else
      takeItem cmd.itemId cmd.itemAmount l.clientId limits
  else
    -- leaving the counter
    return

/-! What a command at the counter has to do. -/

/-- So many items of a kind go from some items to others. -/
def Moves (limits : StackLimits) (primaryIdentifier : UInt32) (quantity : Nat)
    (source source' dest dest' : List ItemData) : Prop :=
  ∀ k,
    held limits k source' + (if primaryIdentifier = k then quantity else 0) =
      held limits k source ∧
    held limits k dest' =
      held limits k dest + (if primaryIdentifier = k then quantity else 0)

def MovesMeseta (amount source source' dest dest' : UInt32) : Prop :=
  source'.toNat + amount.toNat = source.toNat ∧ dest'.toNat = dest.toNat + amount.toNat

/-- The requested quantity has been moved. -/
def Completed (limits : StackLimits) (cmd : BankAction) (self self' : Session) : Prop :=
  if cmd.action = 0 then
    if cmd.itemId = 0xFFFFFFFF then
      MovesMeseta cmd.mesetaAmount self.character.meseta self'.character.meseta
          self.bank.meseta self'.bank.meseta ∧
        self'.character.inventory = self.character.inventory ∧
        self'.bank.items = self.bank.items
    else
      ∃ index, self.character.inventory.findItem cmd.itemId = .ok index ∧
        Moves limits (self.character.inventory.items.get index).data.primaryIdentifier
          (requested limits cmd.itemAmount.toUInt32 (self.character.inventory.items.get index).data)
          self.character.inventory.itemData self'.character.inventory.itemData
          self.bank.itemData self'.bank.itemData
  else if cmd.action = 1 then
    if cmd.itemIndex = 0xFFFF then
      MovesMeseta cmd.mesetaAmount self.bank.meseta self'.bank.meseta
          self.character.meseta self'.character.meseta ∧
        self'.character.inventory = self.character.inventory ∧
        self'.bank.items = self.bank.items
    else
      ∃ index, self.bank.findItem cmd.itemId = .ok index ∧
        Moves limits (self.bank.items.get index).data.primaryIdentifier
          (requested limits cmd.itemAmount.toUInt32 (self.bank.items.get index).data)
          self.bank.itemData self'.bank.itemData
          self.character.inventory.itemData self'.character.inventory.itemData
  else
    False

/-- Nothing is lost or made. -/
def Conserves (limits : StackLimits) (self self' : Session) : Prop :=
  (∀ k, held limits k self'.character.inventory.itemData + held limits k self'.bank.itemData =
    held limits k self.character.inventory.itemData + held limits k self.bank.itemData) ∧
  self'.character.meseta.toNat + self'.bank.meseta.toNat =
    self.character.meseta.toNat + self.bank.meseta.toNat

/-- A command is carried out as a whole or not at all. -/
def AtomicTransfer (limits : StackLimits) (cmd : BankAction) (self : Session)
    (r : EStateM.Result Exception Session Unit) : Prop :=
  ((∃ a, outcome r = .ok a) ∧ Completed limits cmd self (finalState r) ∨
    (finalState r).character = self.character ∧ (finalState r).bank = self.bank) ∧
  Conserves limits self (finalState r)

/-! When it does. -/

/-- The sum is not mistaken for a small one. -/
def MesetaFits (amount source dest limit : UInt32) : Prop :=
  amount ≤ source → dest + amount ≤ limit → dest.toNat + amount.toNat < 2 ^ 32

/-- A bank entry that is meseta becomes bank meseta again; it is not missed
if it has counted for nothing. -/
def BankTakes (limits : StackLimits) (bank : BankOperations.PlayerBank) (item : ItemData)
    (count : Nat) : Prop :=
  if item.primaryIdentifier = 0x04000000 then
    item.quantity limits = 0 ∧
      (if bank.maxMeseta < bank.meseta + item.data2d then bank.maxMeseta
        else bank.meseta + item.data2d) = bank.meseta
  else
    Accepts BankOperations.PlayerBankItem.data bank.maxItems.toNat limits item count bank.items

def CharacterTakes (limits : StackLimits) (character : PSOBBCharacterFile) (item : ItemData)
    (count : Nat) : Prop :=
  if item.primaryIdentifier = 0x04000000 then
    item.quantity limits = 0 ∧
      min (character.meseta.toNat + item.data2d.toNat) 999999 = character.meseta.toNat
  else
    Accepts PlayerInventoryItem.data 30 limits item count character.inventory.items

/-- What is removed is accepted on the other side, in full. -/
def Fits (limits : StackLimits) (l : Lobby) (cmd : BankAction) (self : Session) : Prop :=
  l.isGame = true →
    if cmd.action = 0 then
      if cmd.itemId = 0xFFFFFFFF then
        MesetaFits cmd.mesetaAmount self.character.meseta self.bank.meseta self.bank.maxMeseta
      else
        ∀ index part, self.character.inventory.findItem cmd.itemId = .ok index →
          splits cmd.itemAmount.toUInt32 limits (self.character.inventory.items.get index).data =
            .ok part →
          (part = true → (self.character.inventory.items.get index).isEquipped = false) →
          BankTakes limits self.bank (self.character.inventory.items.get index).data
            (if part then cmd.itemAmount.toUInt32.toNat
              else (self.character.inventory.items.get index).data.data1[5].toNat)
    else if cmd.action = 1 then
      if cmd.itemIndex = 0xFFFF then
        MesetaFits cmd.mesetaAmount self.bank.meseta self.character.meseta 999999
      else
        ∀ index part, self.bank.findItem cmd.itemId = .ok index →
          splits cmd.itemAmount.toUInt32 limits (self.bank.items.get index).data = .ok part →
          CharacterTakes limits self.character (self.bank.items.get index).data
            (if part then cmd.itemAmount.toUInt32.toNat
              else (self.bank.items.get index).data.data1[5].toNat)
    else
      True

variable {limits : StackLimits} {l : Lobby} {cmd : BankAction} {self : Session}

theorem atomicTransfer_of_unchanged {r : EStateM.Result Exception Session Unit}
    (hcharacter : (finalState r).character = self.character)
    (hbank : (finalState r).bank = self.bank) : AtomicTransfer limits cmd self r := by
  refine ⟨.inr ⟨hcharacter, hbank⟩, ?_, ?_⟩
  · intro k
    rw [hcharacter, hbank]
  · rw [hcharacter, hbank]

theorem not_atomicTransfer_of_error {e : Exception} {self' : Session}
    (hchanged : ¬ (self'.character = self.character ∧ self'.bank = self.bank)) :
    ¬ AtomicTransfer limits cmd self (.error e self') := by
  rintro ⟨⟨⟨a, ha⟩, -⟩ | hsame, -⟩
  · cases ha
  · exact hchanged hsame

/-! Meseta. -/

theorem conserved_iff {amount source dest : UInt32} (h : amount ≤ source) :
    (source - amount).toNat + (dest + amount).toNat = source.toNat + dest.toNat ↔
      dest.toNat + amount.toNat < 2 ^ 32 := by
  have hle := UInt32.le_iff_toNat_le.mp h
  rw [UInt32.toNat_sub_of_le _ _ h, UInt32.toNat_add]
  omega

theorem movesMeseta {amount source dest : UInt32} (h : amount ≤ source)
    (hsum : dest.toNat + amount.toNat < 2 ^ 32) :
    MovesMeseta amount source (source - amount) dest (dest + amount) := by
  have hle := UInt32.le_iff_toNat_le.mp h
  constructor
  · rw [UInt32.toNat_sub_of_le _ _ h]
    omega
  · rw [UInt32.toNat_add, Nat.mod_eq_of_lt hsum]

theorem depositMeseta_iff (haction : cmd.action = 0) (hid : cmd.itemId = 0xFFFFFFFF) :
    AtomicTransfer limits cmd self ((depositMeseta cmd.mesetaAmount).run self) ↔
      MesetaFits cmd.mesetaAmount self.character.meseta self.bank.meseta
        self.bank.maxMeseta := by
  rw [depositMeseta, run_get_bind]
  split
  · rename_i hless
    refine iff_of_true (atomicTransfer_of_unchanged rfl rfl) fun hle => ?_
    exact absurd hle (UInt32.not_le.mpr hless)
  · rename_i hhand
    split
    · rename_i hmore
      refine iff_of_true (atomicTransfer_of_unchanged rfl rfl) fun _ hle => ?_
      exact absurd hle (UInt32.not_le.mpr hmore)
    · rename_i hbank
      have hle := UInt32.not_lt.mp hhand
      constructor
      · rintro ⟨-, -, htotal⟩ - -
        exact (conserved_iff hle).mp htotal
      · intro hfits
        have hsum := hfits hle (UInt32.not_lt.mp hbank)
        refine ⟨.inl ⟨⟨⟨⟩, rfl⟩, ?_⟩, fun k => rfl, (conserved_iff hle).mpr hsum⟩
        rw [Completed, if_pos haction, if_pos hid]
        exact ⟨movesMeseta hle hsum, rfl, rfl⟩

theorem takeMeseta_iff (haction : cmd.action = 1) (hindex : cmd.itemIndex = 0xFFFF) :
    AtomicTransfer limits cmd self ((takeMeseta cmd.mesetaAmount).run self) ↔
      MesetaFits cmd.mesetaAmount self.bank.meseta self.character.meseta 999999 := by
  have hdeposit : cmd.action ≠ 0 := by simp [haction]
  rw [takeMeseta, run_get_bind]
  split
  · rename_i hless
    refine iff_of_true (atomicTransfer_of_unchanged rfl rfl) fun hle => ?_
    exact absurd hle (UInt32.not_le.mpr hless)
  · rename_i hbank
    split
    · rename_i hmore
      refine iff_of_true (atomicTransfer_of_unchanged rfl rfl) fun _ hle => ?_
      exact absurd hle (UInt32.not_le.mpr hmore)
    · rename_i hhand
      have hle := UInt32.not_lt.mp hbank
      constructor
      · rintro ⟨-, -, htotal⟩ - -
        refine (conserved_iff hle).mp ?_
        rw [Nat.add_comm, Nat.add_comm self.bank.meseta.toNat]
        exact htotal
      · intro hfits
        have hsum := hfits hle (UInt32.not_lt.mp hhand)
        refine ⟨.inl ⟨⟨⟨⟩, rfl⟩, ?_⟩, fun k => rfl, ?_⟩
        · rw [Completed, if_neg hdeposit, if_pos haction, if_pos hindex]
          exact ⟨movesMeseta hle hsum, rfl, rfl⟩
        · rw [Nat.add_comm, Nat.add_comm self.character.meseta.toNat]
          exact (conserved_iff hle).mpr hsum

/-! Items. -/

theorem moves_of_taken {amount : UInt32} {data ret : ItemData} {part : Bool}
    {source source' dest dest' : List ItemData} (htaken : Taken amount limits data ret part)
    (hsource : ∀ k, held limits k source' + amountOf limits k ret = held limits k source)
    (hdest : ∀ k, held limits k dest' = held limits k dest + amountOf limits k ret) :
    Moves limits data.primaryIdentifier (requested limits amount data) source source' dest
      dest' := by
  intro k
  rw [← htaken.amountOf_eq k]
  exact ⟨hsource k, hdest k⟩

/-- The second half of a deposit: the bank takes what has been removed, or the
command fails without it. -/
theorem deposited_iff (mid : Session) (item : ItemData) {itemId amount : UInt32}
    {index : Fin self.character.inventory.items.length} {part : Bool}
    (haction : cmd.action = 0) (hid : cmd.itemId ≠ 0xFFFFFFFF)
    (hfind : self.character.inventory.findItem cmd.itemId = .ok index)
    (htaken : Taken cmd.itemAmount.toUInt32 limits (self.character.inventory.items.get index).data item
      part)
    (hheld : ∀ k, held limits k mid.character.inventory.itemData + amountOf limits k item =
      held limits k self.character.inventory.itemData)
    (hchanged : mid.character ≠ self.character)
    (hhand : mid.character.meseta = self.character.meseta) (hbank : mid.bank = self.bank) :
    AtomicTransfer limits cmd self
        ((inBank (BankOperations.addItem item limits) >>= fun _ =>
          sendDestroyItemToLobby itemId amount true).run mid) ↔
      BankTakes limits mid.bank (self.character.inventory.items.get index).data
        (if part then cmd.itemAmount.toUInt32.toNat
          else (self.character.inventory.items.get index).data.data1[5].toNat) := by
  have hkind := htaken.primaryIdentifier_eq
  have hmoved : ∀ self' : Session, self'.character = mid.character →
      (∀ k, held limits k self'.bank.itemData =
        held limits k mid.bank.itemData + amountOf limits k item) →
      self'.bank.meseta = mid.bank.meseta → AtomicTransfer limits cmd self (.ok ⟨⟩ self') := by
    intro self' hcharacter hitems hsame
    rw [hbank] at hitems hsame
    have hmoves := moves_of_taken htaken hheld hitems
    refine ⟨.inl ⟨⟨⟨⟩, rfl⟩, ?_⟩, ?_, ?_⟩
    · rw [Completed, if_pos haction, if_neg hid, finalState_ok, hcharacter]
      exact ⟨index, hfind, hmoves⟩
    · intro k
      have := hmoves k
      rw [finalState_ok, hcharacter]
      omega
    · rw [finalState_ok, hcharacter, hhand, hsame]
  by_cases hmeseta : (self.character.inventory.items.get index).data.primaryIdentifier = 0x04000000
  · rw [run_inBank_bind_of_ok (BankOperations.run_addItem_meseta (hkind.trans hmeseta)),
      BankTakes, if_pos hmeseta, htaken.data2d_eq]
    constructor
    · rintro ⟨-, hitems, htotal⟩
      have hlost : held limits 0x04000000 mid.character.inventory.itemData +
          held limits 0x04000000 mid.bank.itemData =
            held limits 0x04000000 self.character.inventory.itemData +
              held limits 0x04000000 self.bank.itemData := hitems 0x04000000
      have hremoved := hheld 0x04000000
      rw [htaken.amountOf_eq, if_pos hmeseta] at hremoved
      rw [hbank] at hlost
      have hnone : requested limits cmd.itemAmount.toUInt32
          (self.character.inventory.items.get index).data = 0 := by omega
      refine ⟨requested_eq_zero.mp hnone, UInt32.toNat_inj.mp ?_⟩
      rw [← hhand, ← hbank] at htotal
      exact Nat.add_left_cancel htotal
    · rintro ⟨hnone, hsame⟩
      refine hmoved _ rfl (fun k => ?_) hsame
      rw [htaken.amountOf_eq, requested_eq_zero.mpr hnone, ite_self]
      rfl
  · have hitem : item.primaryIdentifier ≠ 0x04000000 := fun h => hmeseta (hkind.symm.trans h)
    rw [BankTakes, if_neg hmeseta, ← htaken.count_eq, ← accepts_congr hkind,
      ← BankOperations.exists_adds_iff]
    rcases hadd : (BankOperations.addItem item limits).run mid.bank with ⟨⟨⟩, bank⟩ | ⟨e, bank⟩
    · rw [run_inBank_bind_of_ok hadd]
      have hadds := (BankOperations.addItem_eq_ok hitem).mp hadd
      by_cases hover : BankOperations.Overflows item limits mid.bank
      · refine iff_of_false ?_ fun h => h.2 hover
        rintro ⟨-, hitems, -⟩
        have hlost : held limits item.primaryIdentifier mid.character.inventory.itemData +
            held limits item.primaryIdentifier bank.itemData =
              held limits item.primaryIdentifier self.character.inventory.itemData +
                held limits item.primaryIdentifier self.bank.itemData :=
          hitems item.primaryIdentifier
        have hremoved := hheld item.primaryIdentifier
        have hadded := BankOperations.held_of_overflows hadds hover
        rw [hbank] at hadded
        omega
      · refine iff_of_true ?_ ⟨⟨_, hadds⟩, hover⟩
        exact hmoved _ rfl (fun k => hadds.held hover k) hadds.meseta_eq
    · obtain rfl := BankOperations.addItem_atomic _ _ _ _ _ hadd
      rw [run_inBank_bind_of_error hadd]
      refine iff_of_false (not_atomicTransfer_of_error fun h => hchanged h.1) ?_
      rintro ⟨⟨bank, hadds⟩, -⟩
      cases hadd.symm.trans ((BankOperations.addItem_eq_ok hitem).mpr hadds)

theorem depositItem_iff (haction : cmd.action = 0) (hid : cmd.itemId ≠ 0xFFFFFFFF) :
    AtomicTransfer limits cmd self ((depositItem cmd.itemId cmd.itemAmount limits).run self) ↔
      ∀ index part, self.character.inventory.findItem cmd.itemId = .ok index →
        splits cmd.itemAmount.toUInt32 limits (self.character.inventory.items.get index).data =
          .ok part →
        (part = true → (self.character.inventory.items.get index).isEquipped = false) →
        BankTakes limits self.bank (self.character.inventory.items.get index).data
          (if part then cmd.itemAmount.toUInt32.toNat
            else (self.character.inventory.items.get index).data.data1[5].toNat) := by
  rcases hremove : (removeItem cmd.itemId cmd.itemAmount.toUInt32 limits).run self.character with
    ⟨ret, character⟩ | ⟨e, character⟩
  · have hremoves := (removeItem_eq_ok hid).mp hremove
    obtain ⟨index, part, hfind, hunequipped, htaken⟩ := hremoves.taken
    rw [depositItem, run_inCharacter_bind_of_ok hremove]
    dsimp only
    have hitem : Taken cmd.itemAmount.toUInt32 limits
          (self.character.inventory.items.get index).data
          (if ret.id = 0xFFFFFFFF then { ret with id := cmd.itemId } else ret) part ∧
        ∀ k, amountOf limits k (if ret.id = 0xFFFFFFFF then { ret with id := cmd.itemId } else ret) =
          amountOf limits k ret := by
      split
      · exact ⟨⟨htaken.1, htaken.2, htaken.3, htaken.4⟩, amountOf_withId limits ret _⟩
      · exact ⟨htaken, fun k => rfl⟩
    refine (deposited_iff { self with character := character } _ haction hid hfind hitem.1
      (fun k => ?_) hremoves.ne hremoves.meseta_eq rfl).trans ⟨?_, fun h => h index part hfind htaken.splits_eq hunequipped⟩
    · rw [hitem.2]
      exact hremoves.held k
    · intro htakes index' part' hfind' hsplit' hunequipped'
      obtain rfl : index' = index := Except.ok.inj (hfind'.symm.trans hfind)
      obtain rfl : part' = part := Except.ok.inj (hsplit'.symm.trans htaken.splits_eq)
      exact htakes
  · obtain rfl := removeItem_atomic _ _ _ _ _ _ hremove
    rw [depositItem, run_inCharacter_bind_of_error hremove]
    refine iff_of_true (atomicTransfer_of_unchanged rfl rfl) ?_
    intro index part hfind hsplit hunequipped
    obtain ⟨ret, character, hremoves⟩ := exists_removes hfind hsplit hunequipped
    cases hremove.symm.trans ((removeItem_eq_ok hid).mpr hremoves)

/-- The second half of a withdrawal. -/
theorem withdrawn_iff (mid : Session) (item : ItemData)
    {index : Fin self.bank.items.length} {part : Bool} (haction : cmd.action = 1) (hindex : cmd.itemIndex ≠ 0xFFFF)
    (hfind : self.bank.findItem cmd.itemId = .ok index)
    (htaken : Taken cmd.itemAmount.toUInt32 limits (self.bank.items.get index).data item part)
    (hheld : ∀ k, held limits k mid.bank.itemData + amountOf limits k item =
      held limits k self.bank.itemData)
    (hchanged : mid.bank ≠ self.bank) (hmeseta : mid.bank.meseta = self.bank.meseta)
    (hcharacter : mid.character = self.character) :
    AtomicTransfer limits cmd self
        ((inCharacter (addItem item limits) >>= fun _ =>
          sendCreateInventoryItemToLobby item false).run mid) ↔
      CharacterTakes limits mid.character (self.bank.items.get index).data
        (if part then cmd.itemAmount.toUInt32.toNat
          else (self.bank.items.get index).data.data1[5].toNat) := by
  have hdeposit : cmd.action ≠ 0 := by simp [haction]
  have hkind := htaken.primaryIdentifier_eq
  have hmoved : ∀ self' : Session, self'.bank = mid.bank →
      (∀ k, held limits k self'.character.inventory.itemData =
        held limits k mid.character.inventory.itemData + amountOf limits k item) →
      self'.character.meseta = mid.character.meseta →
      AtomicTransfer limits cmd self (.ok ⟨⟩ self') := by
    intro self' hbank hitems hsame
    rw [hcharacter] at hitems hsame
    have hmoves := moves_of_taken htaken hheld hitems
    refine ⟨.inl ⟨⟨⟨⟩, rfl⟩, ?_⟩, ?_, ?_⟩
    · rw [Completed, if_neg hdeposit, if_pos haction, if_neg hindex, finalState_ok, hbank]
      exact ⟨index, hfind, hmoves⟩
    · intro k
      have := hmoves k
      rw [finalState_ok, hbank]
      omega
    · rw [finalState_ok, hbank, hmeseta, hsame]
  by_cases hclass : (self.bank.items.get index).data.primaryIdentifier = 0x04000000
  · rw [run_inCharacter_bind_of_ok (run_addItem_meseta (hkind.trans hclass)), CharacterTakes,
      if_pos hclass, htaken.data2d_eq]
    have hcapped : (min (mid.character.meseta.toNat +
        (self.bank.items.get index).data.data2d.toNat) 999999).toUInt32.toNat =
          min (mid.character.meseta.toNat + (self.bank.items.get index).data.data2d.toNat) 999999 := by
      rw [Nat.toUInt32_eq, UInt32.toNat_ofNat']
      omega
    constructor
    · rintro ⟨-, hitems, htotal⟩
      have hlost : held limits 0x04000000 mid.character.inventory.itemData +
          held limits 0x04000000 mid.bank.itemData =
            held limits 0x04000000 self.character.inventory.itemData +
              held limits 0x04000000 self.bank.itemData := hitems 0x04000000
      have hremoved := hheld 0x04000000
      rw [htaken.amountOf_eq, if_pos hclass] at hremoved
      rw [hcharacter] at hlost
      have hnone : requested limits cmd.itemAmount.toUInt32 (self.bank.items.get index).data = 0 := by
        omega
      refine ⟨requested_eq_zero.mp hnone, hcapped.symm.trans ?_⟩
      rw [← hmeseta, ← hcharacter] at htotal
      exact Nat.add_right_cancel htotal
    · rintro ⟨hnone, hsame⟩
      refine hmoved _ rfl (fun k => ?_) (UInt32.toNat_inj.mp (hcapped.trans hsame))
      rw [htaken.amountOf_eq, requested_eq_zero.mpr hnone, ite_self]
      rfl
  · have hitem : item.primaryIdentifier ≠ 0x04000000 := fun h => hclass (hkind.symm.trans h)
    rw [CharacterTakes, if_neg hclass, ← htaken.count_eq, ← accepts_congr hkind, ← exists_adds_iff]
    rcases hadd : (addItem item limits).run mid.character with ⟨⟨⟩, character⟩ | ⟨e, character⟩
    · rw [run_inCharacter_bind_of_ok hadd]
      have hadds := (addItem_eq_ok hitem).mp hadd
      exact iff_of_true (hmoved _ rfl hadds.held hadds.meseta_eq) ⟨_, hadds⟩
    · obtain rfl := addItem_atomic _ _ _ _ _ hadd
      rw [run_inCharacter_bind_of_error hadd]
      refine iff_of_false (not_atomicTransfer_of_error fun h => hchanged h.2) ?_
      rintro ⟨character, hadds⟩
      cases hadd.symm.trans ((addItem_eq_ok hitem).mpr hadds)

theorem takeItem_iff (clientId : Fin 12) (haction : cmd.action = 1)
    (hindex : cmd.itemIndex ≠ 0xFFFF) :
    AtomicTransfer limits cmd self
        ((takeItem cmd.itemId cmd.itemAmount clientId limits).run self) ↔
      ∀ index part, self.bank.findItem cmd.itemId = .ok index →
        splits cmd.itemAmount.toUInt32 limits (self.bank.items.get index).data = .ok part →
        CharacterTakes limits self.character (self.bank.items.get index).data
          (if part then cmd.itemAmount.toUInt32.toNat
            else (self.bank.items.get index).data.data1[5].toNat) := by
  rcases hremove : (BankOperations.removeItem cmd.itemId cmd.itemAmount.toUInt32 limits).run
      self.bank with ⟨ret, bank⟩ | ⟨e, bank⟩
  · have hremoves := BankOperations.removeItem_eq_ok.mp hremove
    obtain ⟨index, part, hfind, htaken⟩ := hremoves.taken
    rw [takeItem, run_inBank_bind_of_ok hremove, run_generateItemId_bind]
    dsimp only
    have hitem (newId : UInt32) : Taken cmd.itemAmount.toUInt32 limits (self.bank.items.get index).data
        { ret with id := newId } part := ⟨htaken.1, htaken.2, htaken.3, htaken.4⟩
    refine (withdrawn_iff { self with
        bank := bank
        nextItemIds := self.nextItemIds.set clientId (self.nextItemIds[clientId] + 1) } _
      haction hindex hfind (hitem _) (fun k => ?_) hremoves.ne hremoves.meseta_eq rfl).trans ⟨?_, fun h => h index part hfind htaken.splits_eq⟩
    · rw [amountOf_withId]
      exact hremoves.held k
    · intro htakes index' part' hfind' hsplit'
      obtain rfl : index' = index := Except.ok.inj (hfind'.symm.trans hfind)
      obtain rfl : part' = part := Except.ok.inj (hsplit'.symm.trans htaken.splits_eq)
      exact htakes
  · obtain rfl := BankOperations.removeItem_atomic _ _ _ _ _ _ hremove
    rw [takeItem, run_inBank_bind_of_error hremove]
    refine iff_of_true (atomicTransfer_of_unchanged rfl rfl) ?_
    intro index part hfind hsplit
    obtain ⟨ret, bank, hremoves⟩ := BankOperations.exists_removes hfind hsplit
    cases hremove.symm.trans (BankOperations.removeItem_eq_ok.mpr hremoves)

/-- A command at the counter is carried out as a whole or not at all exactly
if what is removed on one side fits on the other. -/
theorem bankAction_atomicTransfer_iff (limits : StackLimits) (l : Lobby) (cmd : BankAction)
    (self : Session) :
    AtomicTransfer limits cmd self ((onEp3PrivateWordSelectBbBankAction limits l cmd).run self) ↔
      Fits limits l cmd self := by
  unfold onEp3PrivateWordSelectBbBankAction Fits
  cases hgame : l.isGame with
  | false => exact iff_of_true (atomicTransfer_of_unchanged rfl rfl) nofun
  | true =>
      simp only [Bool.not_true, Bool.false_eq_true, if_false, forall_const]
      by_cases hdeposit : cmd.action = 0
      · simp only [if_pos hdeposit]
        by_cases hid : cmd.itemId = 0xFFFFFFFF
        · simp only [if_pos hid]
          exact depositMeseta_iff hdeposit hid
        · simp only [if_neg hid]
          exact depositItem_iff hdeposit hid
      · simp only [if_neg hdeposit]
        by_cases htake : cmd.action = 1
        · simp only [if_pos htake]
          by_cases hindex : cmd.itemIndex = 0xFFFF
          · simp only [if_pos hindex]
            exact takeMeseta_iff htake hindex
          · simp only [if_neg hindex]
            exact takeItem_iff l.clientId htake hindex
        · simp only [if_neg htake]
          exact iff_of_true (atomicTransfer_of_unchanged rfl rfl) trivial

def monomates (count : UInt8) (id : UInt32) : ItemData :=
  (ItemData.ofClass 3 0 id).withByte 5 count

/-- One monomate on hand, and a bank whose stack of monomates is full. -/
def fullStack : Session where
  character := ⟨0, ⟨[⟨1, 0, 0, monomates 1 0x00010000⟩]⟩⟩
  bank := ⟨999999, 200, 0, [⟨monomates 10 0x99000000, 10, 1⟩]⟩
  nextItemIds := Vector.replicate 12 0x00010001
  identifyResult := .cleared
  sent := []

def gameLobby : Lobby := ⟨true, false, 0, 0, false, none⟩

def depositMonomate : BankAction := ⟨0x00010000, 0, 0, 1, 0⟩

/-- The bank refuses the monomate, which is on neither side afterwards. -/
theorem monomate_lost :
    let r := (onEp3PrivateWordSelectBbBankAction defaultLimits gameLobby depositMonomate).run
      fullStack
    (finalState r).character.inventory.items = [] ∧
      (finalState r).bank.items = [⟨monomates 10 0x99000000, 10, 1⟩] ∧
      ¬ AtomicTransfer defaultLimits depositMonomate fullStack r := by
  refine ⟨by decide +kernel, by decide +kernel, ?_⟩
  rintro ⟨-, hitems, -⟩
  exact absurd (hitems 0x03000000) (by decide +kernel)

end HuntersGuild.BankCounter
