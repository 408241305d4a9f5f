import HuntersGuild.SpecialExchange

/-!
Quests exchange items in full or not at all. What has been removed is put back
by two of the commands only.
-/

namespace HuntersGuild.ExchangeAtomicity

open HuntersGuild.BlueBurstSession
open HuntersGuild.CharacterFile
open HuntersGuild.ExchangeCommands
open HuntersGuild.ExchangePayments
open HuntersGuild.ExchangeSteps
open HuntersGuild.InventoryConservation
open HuntersGuild.InventoryOperations
open HuntersGuild.Items
open HuntersGuild.ItemStocks
open HuntersGuild.SpecialExchange
open HuntersGuild.StatefulPrograms

inductive Exchange where
  | questExchangeItem (cmd : QuestExchangeItem)
  | photonDropExchangeForItem (cmd : PaganiniPhotonDropExchange)
  | photonDropExchangeForSRankSpecial (cmd : AddSRankWeaponSpecial)
  | momokaItemExchange (cmd : MomokaItemExchange)
  | secretLotteryTicketExchange (draws : Vector UInt32 8) (cmd : ExchangeSecretLotteryTicket)
  | questF95FResult (results : List QuestF95FResult) (cmd : ExchangePhotonTickets)

def handler (limits : StackLimits) (l : Lobby) : Exchange → Command Bool
  | .questExchangeItem cmd => onQuestExchangeItemBb limits l cmd
  | .photonDropExchangeForItem cmd => onPhotonDropExchangeForItemBb limits l cmd
  | .photonDropExchangeForSRankSpecial cmd => onPhotonDropExchangeForSRankSpecialBb limits l cmd
  | .momokaItemExchange cmd => onMomokaItemExchangeBb limits l cmd
  | .secretLotteryTicketExchange draws cmd =>
      onSecretLotteryTicketExchangeBb limits l draws cmd
  | .questF95FResult results cmd => onQuestF95FResultBb limits l results cmd

/-! What an exchange has to do. -/

/-- The currency that a lottery is played with, and the item that is drawn. -/
def Draws (limits : StackLimits) (l : Lobby) (draws : Vector UInt32 8)
    (cmd : ExchangeSecretLotteryTicket) (primaryIdentifier : UInt32) (newItem : ItemData) : Prop :=
  ∃ masks, l.quest = some masks ∧ ∃ h : 2 ≤ masks.length,
    CreateItemMask.primaryIdentifier (currencyMask masks h) = .ok primaryIdentifier ∧
    ∃ hindex : 1 ≤ cmd.index.toNat ∧ cmd.index.toNat ≤ 8, ∃ item,
      CreateItemMask.item (masks.get (drawnMask masks h (cmd.draw draws hindex))) = .ok item ∧
      item.enforceStackSizeLimits limits = .ok newItem

/-- The demanded payment has been removed and the new item added. -/
def Succeeds (limits : StackLimits) (l : Lobby) (self : PSOBBCharacterFile) :
    Exchange → PSOBBCharacterFile → Prop
  | .questExchangeItem cmd, self' =>
      ∃ newItem, cmd.replaceItem.enforceStackSizeLimits limits = .ok newItem ∧
        Exchanges limits cmd.findItem.primaryIdentifier (fun _ => 1) newItem self self'
  | .photonDropExchangeForItem cmd, self' =>
      ∃ newItem, cmd.newItem.enforceStackSizeLimits limits = .ok newItem ∧
        Exchanges limits 0x03100000 (ItemData.quantity limits) newItem self self'
  | .photonDropExchangeForSRankSpecial cmd, self' => AddsSpecial limits cmd self self'
  | .momokaItemExchange cmd, self' =>
      ∃ newItem, cmd.replaceItem.enforceStackSizeLimits limits = .ok newItem ∧
        Exchanges limits cmd.findItem.primaryIdentifier (fun _ => 1) newItem self self'
  | .secretLotteryTicketExchange draws cmd, self' =>
      ∃ primaryIdentifier newItem, Draws limits l draws cmd primaryIdentifier newItem ∧
        Exchanges limits primaryIdentifier (fun _ => 1) newItem self self'
  | .questF95FResult results cmd, self' =>
      ∃ result newItem, questF95FResult results cmd.resultIndex = .ok result ∧
        result.2.enforceStackSizeLimits limits = .ok newItem ∧
        Exchanges limits 0x03100400 (fun _ => result.1.toNat) newItem self self'

/-- On every other path than that of success, nothing has changed. -/
def Concludes (succeeds fails : PSOBBCharacterFile → Prop) :
    EStateM.Result Exception Session Bool → Prop
  | .ok true s => succeeds s.character
  | .ok false s => fails s.character
  | .error _ s => fails s.character

def Atomic (limits : StackLimits) (l : Lobby) (self : Session) (exchange : Exchange) : Prop :=
  Concludes (Succeeds limits l self.character exchange) (Kept limits self.character)
    ((handler limits l exchange).run self)

/-! When it does. -/

/-- If the payment can be removed, it is exact and the new item is taken. -/
def Replaces (limits : StackLimits) (primaryIdentifier amount : UInt32) (price : ItemData → Nat)
    (newItem : ItemData) (self : PSOBBCharacterFile) : Prop :=
  ∀ x, self.inventory.findItemByPrimaryIdentifier primaryIdentifier = .ok x →
    AfterRemoval limits (self.inventory.items.get x).data.id amount self
      ((Arrives limits newItem self →
          price (self.inventory.items.get x).data = 0 ∧ Takes limits newItem self) ∧
        (¬ Arrives limits newItem self → amount = 0 ∨ self.meseta = 0))
      fun y part =>
        (∃ n, (self.inventory.items.get y).data.stackSize limits = .ok n) ∧
          Charges limits primaryIdentifier amount price self y ∧
          Takes limits newItem (takenFrom amount part self y)

/-- If the payment can be removed, it is exact and the new item is taken, or the
new item is refused and the payment can be put back. -/
def ReplacesOrRefunds (limits : StackLimits) (primaryIdentifier amount : UInt32)
    (price : ItemData → Nat) (newItem : Except Exception ItemData) (self : PSOBBCharacterFile) :
    Prop :=
  ∀ x, self.inventory.findItemByPrimaryIdentifier primaryIdentifier = .ok x →
    AfterRemoval limits (self.inventory.items.get x).data.id amount self
      (match newItem with
        | .ok item =>
            (Arrives limits item self →
              price (self.inventory.items.get x).data = 0 ∧ Takes limits item self) ∧
            (¬ Arrives limits item self → RefundsMeseta amount self)
        | .error _ => RefundsMeseta amount self)
      fun y part =>
        match newItem with
        | .ok item =>
            (Arrives limits item (takenFrom amount part self y) →
              Charges limits primaryIdentifier amount price self y ∧
                Takes limits item (takenFrom amount part self y)) ∧
            (¬ Arrives limits item (takenFrom amount part self y) →
              Refunds limits amount part self y)
        | .error _ => Refunds limits amount part self y

/-- If the cost can be removed, it is removed in full and from the drops, whose
ID is not that of the weapon. -/
def FitsSpecial (limits : StackLimits) (cmd : AddSRankWeaponSpecial)
    (self : PSOBBCharacterFile) : Prop :=
  ∀ cost x z, specialCost cmd.specialType = .ok cost →
    self.inventory.findItemByPrimaryIdentifier 0x03100000 = .ok x →
    self.inventory.findItem cmd.itemId = .ok z →
    (self.inventory.items.get z).data.isSRankWeapon = true →
      AfterRemoval limits (self.inventory.items.get x).data.id cost.toUInt32 self False
        fun y _ =>
          (self.inventory.items.get x).data.id ≠ cmd.itemId ∧
            ((self.inventory.items.get y).data.primaryIdentifier = 0x03100000 ∧
              cost.toNat ≤ (self.inventory.items.get y).data.quantity limits) ∧
            (cmd.itemId = 0xFFFFFFFF →
              (self.inventory.items.get z).data.data1[2] = cmd.specialType.toUInt8 ∧
                1 ≤ self.meseta ∧ self.meseta ≤ 999999)

def Fits (limits : StackLimits) (l : Lobby) (self : PSOBBCharacterFile) : Exchange → Prop
  | .questExchangeItem cmd =>
      l.isGame = true → l.questInProgress = true →
        assertQuestItemCreateAllowed l cmd.replaceItem = .ok ⟨⟩ →
        ∀ newItem, cmd.replaceItem.enforceStackSizeLimits limits = .ok newItem →
          Replaces limits cmd.findItem.primaryIdentifier 1 (fun _ => 1) newItem self
  | .photonDropExchangeForItem cmd =>
      l.isGame = true → assertQuestItemCreateAllowed l cmd.newItem = .ok ⟨⟩ →
        ∀ newItem, cmd.newItem.enforceStackSizeLimits limits = .ok newItem →
          Replaces limits 0x03100000 0 (ItemData.quantity limits) newItem self
  | .photonDropExchangeForSRankSpecial cmd => l.isGame = true → FitsSpecial limits cmd self
  | .momokaItemExchange cmd =>
      l.isGame = true → l.questInProgress = true →
        assertQuestItemCreateAllowed l cmd.replaceItem = .ok ⟨⟩ →
        ∀ newItem, cmd.replaceItem.enforceStackSizeLimits limits = .ok newItem →
          ReplacesOrRefunds limits cmd.findItem.primaryIdentifier 1 (fun _ => 1) (.ok newItem) self
  | .secretLotteryTicketExchange draws cmd =>
      l.isGame = true → l.questInProgress = true →
        ∀ primaryIdentifier newItem, Draws limits l draws cmd primaryIdentifier newItem →
          Replaces limits primaryIdentifier 1 (fun _ => 1) newItem self
  | .questF95FResult results cmd =>
      l.isGame = true → l.questInProgress = true →
        ∀ result, questF95FResult results cmd.resultIndex = .ok result →
          ReplacesOrRefunds limits 0x03100400 result.1.toUInt32 (fun _ => result.1.toNat)
            (result.2.enforceStackSizeLimits limits) self

variable {limits : StackLimits} {l : Lobby} {self : Session}

theorem kept_refl (limits : StackLimits) (self : PSOBBCharacterFile) : Kept limits self self := ⟨fun _ => rfl, rfl⟩

theorem exists_stackSize {amount : UInt32} {data : ItemData} {part : Bool}
    (hsplit : splits amount limits data = .ok part) (hamount : amount ≠ 0) :
    ∃ n, data.stackSize limits = .ok n := by
  rw [splits, if_neg hamount] at hsplit
  rcases hsize : data.stackSize limits with e | n
  · rw [hsize] at hsplit
    cases hsplit
  · exact ⟨n, rfl⟩

theorem exists_stackSize_congr {d d' : ItemData} (h : d.primaryIdentifier = d'.primaryIdentifier) :
    (∃ n, d.stackSize limits = .ok n) ↔ ∃ n, d'.stackSize limits = .ok n := by
  have hmax := maxStackSize_of_primaryIdentifier_eq h limits
  rcases hd : d'.maxStackSize limits with e | m
  · rw [hd] at hmax
    simp [ItemData.stackSize, hd, hmax]
  · rw [hd] at hmax
    exact iff_of_true ⟨_, stackSize_eq hmax⟩ ⟨_, stackSize_eq hd⟩

/-! The two patterns of the handlers. -/

variable {β : Type} {P : EStateM.Result Exception Session β → Prop}
  {primaryIdentifier amount : UInt32} {price : ItemData → Nat} {newItem : ItemData}

/-- A payment is removed, and an item is added. -/
theorem removeFound_replaces_iff {f : ItemData → Command β}
    (hfilled : ∀ i ∈ self.character.inventory.items, FilledWithinLimit limits i.data)
    (hprice : ∀ d paid, price paid = requested limits amount d →
      price d = requested limits amount d)
    (hfree : ∀ i ∈ self.character.inventory.items, price i.data = 0 →
      amount = 0 ∧ ∀ d, price d = 0)
    (hrefused : ∀ e, P (.error e self))
    (hadd : ∀ ret s, (amount = 0 → ∃ n, ret.stackSize limits = .ok n) → ∃ newId,
      (P ((f ret).run s) ↔
        Ends (Exchanges limits primaryIdentifier price newItem self.character)
          (Kept limits self.character)
          ((addItem { newItem with id := newId } limits).run s.character)))
    (hthrow : ∀ ret s, amount = 0 → (∀ n, ret.stackSize limits ≠ .ok n) →
      (P ((f ret).run s) ↔ Kept limits self.character s.character)) :
    P ((removeFound primaryIdentifier amount limits >>= f).run self) ↔
      Replaces limits primaryIdentifier amount price newItem self.character := by
  refine (removeFound_bind_iff hrefused).trans (forall₂_congr fun x hx => ?_)
  have hfound := findItemByPrimaryIdentifier_eq_ok hx
  refine afterRemoval_congr (fun _ _ => ?_) fun _ y part _ hsplit hworn => ?_
  · obtain ⟨newId, hrun⟩ := hadd (mesetaItem amount)
      { self with character := withoutMeseta amount self.character }
      fun _ => ⟨_, stackSize_eq (n := limits.maxMesetaStackSize.toUInt8.toNat) rfl⟩
    rw [hrun]
    refine exchanged_meseta_iff hfound ?_ ?_ newId
    · intro paid hmem hzero
      exact (hfree paid hmem hzero).2 _
    · intro hzero
      exact (hfree _ (List.get_mem _ x) hzero).1
  · have hitem := hfilled _ (List.get_mem _ y)
    have hkind := (taken_handedOver hsplit).primaryIdentifier_eq
    by_cases hsize : ∃ n, (self.character.inventory.items.get y).data.stackSize limits = .ok n
    · obtain ⟨newId, hrun⟩ := hadd (handedOver amount part (self.character.inventory.items.get y))
        { self with character := takenFrom amount part self.character y }
        fun _ => (exists_stackSize_congr hkind).mpr hsize
      rw [hrun, exchanged_iff hsplit hworn hitem (hprice _) newId]
      exact (and_iff_right hsize).symm
    · have hamount : amount = 0 := by
        by_contra hamount
        exact hsize (exists_stackSize hsplit hamount)
      rw [hthrow _ _ hamount fun n hn => hsize ((exists_stackSize_congr hkind).mp ⟨n, hn⟩)]
      exact iff_of_false (not_kept_takenFrom hsplit hworn hitem) fun h => hsize h.1

/-- A payment is removed, and put back if there is no item to add or no place
for it. -/
theorem catchOutOfRange_removeFound_replacesOrRefunds_iff {f : Option ItemData → Command β}
    {newItem : Except Exception ItemData}
    (hfilled : ∀ i ∈ self.character.inventory.items, FilledWithinLimit limits i.data)
    (hprice : ∀ d paid, price paid = requested limits amount d →
      price d = requested limits amount d)
    (hfree : ∀ i ∈ self.character.inventory.items, price i.data = 0 →
      amount = 0 ∧ ∀ d, price d = 0)
    (hrefused : ∀ e, P (.error e self)) (hcaught : P ((f none).run self))
    (hadd : ∀ ret s, ∃ newId, (P ((f (some ret)).run s) ↔
      match newItem with
      | .ok item =>
          Ends (Exchanges limits primaryIdentifier price item self.character)
            (fun c => Ends (Kept limits self.character) (Kept limits self.character)
              ((addItem ret limits).run c))
            ((addItem { item with id := newId } limits).run s.character)
      | .error _ =>
          Ends (Kept limits self.character) (Kept limits self.character)
            ((addItem ret limits).run s.character))) :
    P ((catchOutOfRange (removeFound primaryIdentifier amount limits) >>= f).run self) ↔
      ReplacesOrRefunds limits primaryIdentifier amount price newItem self.character := by
  refine (catchOutOfRange_removeFound_iff hrefused hcaught).trans (forall₂_congr fun x hx => ?_)
  have hfound := findItemByPrimaryIdentifier_eq_ok hx
  refine afterRemoval_congr (fun _ _ => ?_) fun _ y part _ hsplit hworn => ?_
  · obtain ⟨newId, hrun⟩ := hadd (mesetaItem amount)
      { self with character := withoutMeseta amount self.character }
    rw [hrun]
    cases newItem with
    | error e => exact refunded_meseta_iff
    | ok item =>
        refine (ends_addItem_refunding (exchanged_meseta_iff hfound
          (fun paid hmem hzero => (hfree paid hmem hzero).2 _)
          (fun hzero => (hfree _ (List.get_mem _ x) hzero).1) newId)
          refunded_meseta_iff).trans (and_congr_left' ?_)
        constructor
        · intro h harrives
          exact (h harrives).1 harrives
        · intro h harrives
          exact ⟨h, fun hnot => absurd harrives hnot⟩
  · obtain ⟨newId, hrun⟩ := hadd (handedOver amount part (self.character.inventory.items.get y))
      { self with character := takenFrom amount part self.character y }
    have hitem := hfilled _ (List.get_mem _ y)
    rw [hrun]
    cases newItem with
    | error e => exact refunded_iff hsplit hworn hitem
    | ok item =>
        exact ends_addItem_refunding (exchanged_iff hsplit hworn hitem (hprice _) newId)
          (refunded_iff hsplit hworn hitem)

/-! The handlers. -/

/-- Labels tell the end of a command that throws from one that returns. -/
theorem concludes_withLabels_iff {succeeds fails : PSOBBCharacterFile → Prop}
    {successLabel failureLabel : UInt16} {body : Command Unit} :
    Concludes succeeds fails ((withLabels successLabel failureLabel body).run self) ↔
      Ends (fun s => succeeds s.character) (fun s => fails s.character) (body.run self) := by
  rw [run_withLabels]
  cases body.run self <;> rfl

theorem questExchangeItem_iff (cmd : QuestExchangeItem)
    (hfilled : ∀ i ∈ self.character.inventory.items, FilledWithinLimit limits i.data) :
    Atomic limits l self (.questExchangeItem cmd) ↔ Fits limits l self.character (.questExchangeItem cmd) := by
  have hkept := kept_refl limits self.character
  refine (inQuest_iff fun _ => hkept).trans (imp_congr_right fun _ => imp_congr_right fun _ => ?_)
  refine concludes_withLabels_iff.trans ((fromExcept_unit_bind_iff fun _ => hkept).trans
    (imp_congr_right fun _ => ?_))
  refine (fromExcept_bind_iff fun _ => hkept).trans (forall₂_congr fun newItem hnew => ?_)
  refine removeFound_replaces_iff hfilled (fun _ _ h => h) (fun _ _ h => nomatch h)
    (fun _ => hkept) (fun ret s _ => ⟨_, addNew_bind_iff (fun item s => ?_) fun e s => Iff.rfl⟩)
    fun _ _ h => nomatch h
  constructor
  · rintro ⟨newItem', hnew', hexchanges⟩
    obtain rfl := Except.ok.inj (hnew.symm.trans hnew')
    exact hexchanges
  · intro hexchanges
    exact ⟨newItem, hnew, hexchanges⟩

theorem photonDropExchangeForItem_iff (cmd : PaganiniPhotonDropExchange)
    (hfilled : ∀ i ∈ self.character.inventory.items, FilledWithinLimit limits i.data) :
    Atomic limits l self (.photonDropExchangeForItem cmd) ↔ Fits limits l self.character (.photonDropExchangeForItem cmd) := by
  have hkept := kept_refl limits self.character
  refine (inGame_iff fun _ => hkept).trans (imp_congr_right fun _ => ?_)
  refine concludes_withLabels_iff.trans ((fromExcept_unit_bind_iff fun _ => hkept).trans
    (imp_congr_right fun _ => ?_))
  refine (fromExcept_bind_iff fun _ => hkept).trans (forall₂_congr fun newItem hnew => ?_)
  refine removeFound_replaces_iff hfilled (fun d _ _ => (if_pos (.inl rfl)).symm) ?_
    (fun _ => hkept) (fun ret s hsize => ?_) fun ret s _ hsize => ?_
  · intro i hi hzero
    exact absurd hzero (Nat.ne_of_gt (hfilled i hi).quantity_pos)
  · obtain ⟨n, hn⟩ := hsize rfl
    rw [hn, run_ok_bind]
    refine ⟨_, addNew_bind_iff (fun item s => ?_) fun e s => Iff.rfl⟩
    constructor
    · rintro ⟨newItem', hnew', hexchanges⟩
      obtain rfl := Except.ok.inj (hnew.symm.trans hnew')
      exact hexchanges
    · intro hexchanges
      exact ⟨newItem, hnew, hexchanges⟩
  · rcases hstack : ret.stackSize limits with e | n
    · rw [run_error_bind]
      rfl
    · exact absurd hstack (hsize n)

theorem concludes_refund_iff {succeeds fails : PSOBBCharacterFile → Prop} {item : ItemData}
    {message : Message} :
    Concludes succeeds fails ((inCharacter (addItem item limits) >>= fun _ =>
        send message >>= fun _ => pure false).run self) ↔
      Ends fails fails ((addItem item limits).run self.character) := by
  rw [run_inCharacter_bind]
  cases (addItem item limits).run self.character <;> rfl

theorem momokaItemExchange_iff (cmd : MomokaItemExchange)
    (hfilled : ∀ i ∈ self.character.inventory.items, FilledWithinLimit limits i.data) :
    Atomic limits l self (.momokaItemExchange cmd) ↔ Fits limits l self.character (.momokaItemExchange cmd) := by
  have hkept := kept_refl limits self.character
  refine (inQuest_iff fun _ => hkept).trans (imp_congr_right fun _ => imp_congr_right fun _ => ?_)
  refine (fromExcept_unit_bind_iff fun _ => hkept).trans (imp_congr_right fun _ => ?_)
  refine (fromExcept_bind_iff fun _ => hkept).trans (forall₂_congr fun newItem hnew => ?_)
  refine catchOutOfRange_removeFound_replacesOrRefunds_iff hfilled (fun _ _ h => h)
    (fun _ _ h => nomatch h) (fun _ => hkept) hkept fun ret s =>
      ⟨_, catchOutOfRange_addNew_iff (fun item s => ?_) fun s => ?_⟩
  · constructor
    · rintro ⟨newItem', hnew', hexchanges⟩
      obtain rfl := Except.ok.inj (hnew.symm.trans hnew')
      exact hexchanges
    · intro hexchanges
      exact ⟨newItem, hnew, hexchanges⟩
  · exact concludes_refund_iff

/-- Tickets whose number is beyond 32 bits are never charged in full. -/
theorem questF95FResult_iff (results : List QuestF95FResult) (cmd : ExchangePhotonTickets)
    (hfilled : ∀ i ∈ self.character.inventory.items, FilledWithinLimit limits i.data) :
    Atomic limits l self (.questF95FResult results cmd) ↔ Fits limits l self.character (.questF95FResult results cmd) := by
  have hkept := kept_refl limits self.character
  refine (inQuest_iff fun _ => hkept).trans (imp_congr_right fun _ => imp_congr_right fun _ => ?_)
  refine (fromExcept_bind_iff fun _ => hkept).trans (forall₂_congr fun result hresult => ?_)
  refine catchOutOfRange_removeFound_replacesOrRefunds_iff hfilled (fun _ _ h => h)
    (fun _ _ h => ⟨?_, fun _ => h⟩) (fun _ => hkept) hkept fun ret s => ?_
  · rw [UInt64.toNat_inj.mp (h.trans UInt64.toNat_zero.symm)]
    rfl
  · rcases hnew : result.2.enforceStackSizeLimits limits with e | newItem
    · obtain ⟨what, rfl⟩ := enforceStackSizeLimits_error hnew
      refine ⟨0, ?_⟩
      dsimp only
      rw [run_catchOutOfRange_bind, run_error_bind]
      exact concludes_refund_iff
    · refine ⟨_, catchOutOfRange_addNew_iff (fun item s => ?_) fun s => ?_⟩
      · constructor
        · rintro ⟨result', newItem', hresult', hnew', hexchanges⟩
          obtain rfl := Except.ok.inj (hresult.symm.trans hresult')
          obtain rfl := Except.ok.inj (hnew.symm.trans hnew')
          exact hexchanges
        · intro hexchanges
          exact ⟨result, newItem, hresult, hnew, hexchanges⟩
      · exact concludes_refund_iff

theorem forall_draws_iff {draws : Vector UInt32 8} {cmd : ExchangeSecretLotteryTicket}
    {masks : List CreateItemMask} (hquest : l.quest = some masks) (h : 2 ≤ masks.length)
    {required : UInt32 → ItemData → Prop} :
    (∀ primaryIdentifier newItem, Draws limits l draws cmd primaryIdentifier newItem →
        required primaryIdentifier newItem) ↔
      ∀ primaryIdentifier,
        CreateItemMask.primaryIdentifier (currencyMask masks h) = .ok primaryIdentifier →
        ∀ (hindex : 1 ≤ cmd.index.toNat ∧ cmd.index.toNat ≤ 8) (item : ItemData),
          CreateItemMask.item (masks.get (drawnMask masks h (cmd.draw draws hindex))) = .ok item →
          ∀ newItem, item.enforceStackSizeLimits limits = .ok newItem →
            required primaryIdentifier newItem := by
  constructor
  · intro hall primaryIdentifier hcurrency hindex item hitem newItem hnew
    exact hall _ _ ⟨masks, hquest, h, hcurrency, hindex, item, hitem, hnew⟩
  · rintro hall primaryIdentifier newItem
      ⟨masks', hmasks, h', hcurrency, hindex, item, hitem, hnew⟩
    obtain rfl : masks = masks' := Option.some.inj (hquest.symm.trans hmasks)
    exact hall _ hcurrency hindex item hitem newItem hnew

theorem secretLotteryTicketExchange_iff (draws : Vector UInt32 8)
    (cmd : ExchangeSecretLotteryTicket)
    (hfilled : ∀ i ∈ self.character.inventory.items, FilledWithinLimit limits i.data) :
    Atomic limits l self (.secretLotteryTicketExchange draws cmd) ↔ Fits limits l self.character (.secretLotteryTicketExchange draws cmd) := by
  have hkept := kept_refl limits self.character
  refine (inQuest_iff fun _ => hkept).trans (imp_congr_right fun _ => imp_congr_right fun _ => ?_)
  rcases hquest : l.quest with - | masks
  · refine iff_of_true hkept ?_
    rintro _ _ ⟨masks, hmasks, -⟩
    cases hquest.symm.trans hmasks
  by_cases h : 2 ≤ masks.length
  · dsimp only
    rw [dif_pos h, forall_draws_iff hquest h]
    refine (fromExcept_bind_iff fun _ => hkept).trans
      (forall₂_congr fun primaryIdentifier hcurrency => ?_)
    rw [run_get_bind]
    rcases hfind : self.character.inventory.findItemByPrimaryIdentifier primaryIdentifier with
      e | x
    · refine iff_of_true hkept fun _ _ _ _ _ x hx => ?_
      cases hfind.symm.trans hx
    dsimp only
    by_cases hindex : 1 ≤ cmd.index.toNat ∧ cmd.index.toNat ≤ 8
    · rw [dif_pos hindex, forall_prop_of_true hindex]
      refine (fromExcept_bind_iff fun _ => hkept).trans (forall₂_congr fun item hitem => ?_)
      refine (fromExcept_bind_iff fun _ => hkept).trans (forall₂_congr fun newItem hnew => ?_)
      rw [← run_removeFound_bind hfind]
      refine removeFound_replaces_iff hfilled (fun _ _ h => h) (fun _ _ h => nomatch h)
        (fun _ => hkept)
        (fun ret s _ => ⟨_, addNew_bind_iff (fun _ s => ?_) fun e s => Iff.rfl⟩)
        fun _ _ h => nomatch h
      constructor
      · rintro ⟨primaryIdentifier', newItem', ⟨masks', hmasks, h', hcurrency', hindex', item',
          hitem', hnew'⟩, hexchanges⟩
        obtain rfl : masks = masks' := Option.some.inj (hquest.symm.trans hmasks)
        obtain rfl := Except.ok.inj (hcurrency.symm.trans hcurrency')
        obtain rfl := Except.ok.inj (hitem.symm.trans hitem')
        obtain rfl := Except.ok.inj (hnew.symm.trans hnew')
        exact hexchanges
      · intro hexchanges
        exact ⟨_, _, ⟨masks, hquest, h, hcurrency, hindex, item, hitem, hnew⟩, hexchanges⟩
    · rw [dif_neg hindex]
      exact iff_of_true hkept fun hindex' => absurd hindex' hindex
  · dsimp only
    rw [dif_neg h]
    refine iff_of_true hkept ?_
    rintro _ _ ⟨masks', hmasks, h', -⟩
    obtain rfl : masks = masks' := Option.some.inj (hquest.symm.trans hmasks)
    exact absurd h' h

/-- The messages of the exchange decide nothing. -/
theorem ends_reforging_iff {returned thrown : PSOBBCharacterFile → Prop}
    {cmd : AddSRankWeaponSpecial} {id amount : UInt32} :
    Ends (fun s => returned s.character) (fun s => thrown s.character)
        ((sendDestroyItemToLobby id amount false >>= fun _ =>
          inCharacter (removeItem cmd.itemId 1 limits) >>= fun item =>
            sendDestroyItemToLobby item.id amount false >>= fun _ =>
              inCharacter (addItem (item.withByte 2 cmd.specialType.toUInt8) limits) >>= fun _ =>
                sendCreateInventoryItemToLobby (item.withByte 2 cmd.specialType.toUInt8)
                  false).run self) ↔
      Ends returned thrown ((reforge limits cmd).run self.character) := by
  rw [sendDestroyItemToLobby, run_send_bind, run_inCharacter_bind, reforge, EStateM.run_bind]
  rcases (removeItem cmd.itemId 1 limits).run self.character with ⟨item, mid⟩ | ⟨e, mid⟩
  · dsimp only [resume]
    rw [sendDestroyItemToLobby, run_send_bind, run_inCharacter_bind]
    cases (addItem (item.withByte 2 cmd.specialType.toUInt8) limits).run mid <;> rfl
  · rfl

theorem photonDropExchangeForSRankSpecial_iff (cmd : AddSRankWeaponSpecial)
    (hfilled : ∀ i ∈ self.character.inventory.items, FilledWithinLimit limits i.data)
    (hsize : self.character.inventory.items.length ≤ 30) :
    Atomic limits l self (.photonDropExchangeForSRankSpecial cmd) ↔
      Fits limits l self.character (.photonDropExchangeForSRankSpecial cmd) := by
  have hkept := kept_refl limits self.character
  refine (inGame_iff fun _ => hkept).trans (imp_congr_right fun _ => ?_)
  have hall : FitsSpecial limits cmd self.character ↔
      ∀ cost, specialCost cmd.specialType = .ok cost →
        ∀ x, self.character.inventory.findItemByPrimaryIdentifier 0x03100000 = .ok x →
        ∀ z, self.character.inventory.findItem cmd.itemId = .ok z →
          (self.character.inventory.items.get z).data.isSRankWeapon = true → _ :=
    ⟨fun h cost hcost x hx z hz => h cost x z hcost hx hz,
      fun h cost x z hcost hx hz => h cost hcost x hx z hz⟩
  rw [hall]
  refine concludes_withLabels_iff.trans ((fromExcept_bind_iff fun _ => hkept).trans
    (forall₂_congr fun cost hcost => ?_))
  rw [run_get_bind]
  refine (fromExcept_bind_iff fun _ => hkept).trans (forall₂_congr fun x hx => ?_)
  refine (fromExcept_bind_iff fun _ => hkept).trans (forall₂_congr fun z hz => ?_)
  cases hrank : (self.character.inventory.items.get z).data.isSRankWeapon with
  | false => exact iff_of_true hkept fun h => absurd h Bool.false_ne_true
  | true =>
      have hweapon := class_of_isSRankWeapon hrank
      rw [forall_prop_of_true rfl]
      refine (removeItem_bind_iff fun _ => hkept).trans (afterRemoval_congr ?_ ?_)
      · intro _ hallowed
        rw [ends_reforging_iff]
        exact iff_of_false (not_reforged_of_meseta hcost hz hweapon hsize hallowed) id
      · intro hid y part hy hsplit hworn
        have hitem := hfilled _ (List.get_mem _ y)
        rw [ends_reforging_iff]
        by_cases hsame : (self.character.inventory.items.get x).data.id = cmd.itemId
        · have hyz : z = y := by
            rw [hsame] at hy
            exact Except.ok.inj (hz.symm.trans hy)
          subst hyz
          rw [hsame] at hid
          exact iff_of_false (not_reforged_of_same_id hcost hz hweapon hid hsplit hworn hitem)
            fun h => h.1 hsame
        · have hyid := findItem_eq_ok hy
          by_cases hmeseta : cmd.itemId = 0xFFFFFFFF
          · refine (reforged_meseta_iff hcost hz hweapon hmeseta hsplit hworn hitem).trans ?_
            exact ⟨fun h => ⟨hsame, h.1, fun _ => h.2⟩, fun h => ⟨h.2.1, h.2.2 hmeseta⟩⟩
          · refine (reforged_iff hcost hz hweapon hmeseta hsize hsplit hworn hitem
              (by rw [hyid]; exact hsame)).trans ?_
            exact ⟨fun h => ⟨hsame, h, fun h => absurd h hmeseta⟩, fun h => h.2.1⟩

/-- An exchange is carried out in full or leaves everything as it is, exactly if
it fits. -/
theorem exchange_atomic_iff (limits : StackLimits) (l : Lobby) (exchange : Exchange)
    (self : Session)
    (hfilled : ∀ i ∈ self.character.inventory.items, FilledWithinLimit limits i.data)
    (hsize : self.character.inventory.items.length ≤ 30) :
    Atomic limits l self exchange ↔ Fits limits l self.character exchange := by
  cases exchange with
  | questExchangeItem cmd => exact questExchangeItem_iff cmd hfilled
  | photonDropExchangeForItem cmd => exact photonDropExchangeForItem_iff cmd hfilled
  | photonDropExchangeForSRankSpecial cmd =>
      exact photonDropExchangeForSRankSpecial_iff cmd hfilled hsize
  | momokaItemExchange cmd => exact momokaItemExchange_iff cmd hfilled
  | secretLotteryTicketExchange draws cmd =>
      exact secretLotteryTicketExchange_iff draws cmd hfilled
  | questF95FResult results cmd => exact questF95FResult_iff results cmd hfilled

/-- Three photon drops, and a stack of monomates. -/
def trader (monomates : UInt8) : Session where
  character := ⟨500, ⟨[⟨1, 0, 0, (ItemData.ofClass 3 0x10 0x00010000).withByte 5 3⟩,
    ⟨1, 0, 0, (ItemData.ofClass 3 0 0x00010001).withByte 5 monomates⟩,
    ⟨1, 0, 0, .ofClass 0 0x70 0x00010002⟩]⟩⟩
  bank := ⟨999999, 200, 0, []⟩
  nextItemIds := Vector.replicate 12 0x00010003
  identifyResult := .cleared
  sent := []

def questLobby : Lobby := ⟨true, false, 0, 0, true, some []⟩

/-- One photon drop for a monomate. -/
def monomateForDrop : QuestExchangeItem where
  findItem := .ofClass 3 0x10 0
  replaceItem := (ItemData.ofClass 3 0 0).withByte 5 1
  successLabel := 1
  failureLabel := 2

theorem exchange_atomic_iff_monomate :
    Atomic defaultLimits questLobby (trader 3) (.questExchangeItem monomateForDrop) ↔
      Fits defaultLimits questLobby (trader 3).character (.questExchangeItem monomateForDrop) :=
  exchange_atomic_iff defaultLimits questLobby (.questExchangeItem monomateForDrop) (trader 3)
    (by decide) (by decide)

/-- The drop is lost if there are ten monomates already, and a special is added
for three drops instead of sixty. -/
theorem drop_lost_special_undercharged :
    ¬ Atomic defaultLimits questLobby (trader 10) (.questExchangeItem monomateForDrop) ∧
      ¬ Atomic defaultLimits questLobby (trader 3)
        (.photonDropExchangeForSRankSpecial ⟨0x00010002, 0, 1, 2⟩) := by
  constructor
  · intro h
    have hrun : (onQuestExchangeItemBb defaultLimits questLobby monomateForDrop).run (trader 10) =
        .ok false
          { trader 10 with
            character := ⟨500, ⟨[⟨1, 0, 0, (ItemData.ofClass 3 0x10 0x00010000).withByte 5 2⟩,
              ⟨1, 0, 0, (ItemData.ofClass 3 0 0x00010001).withByte 5 10⟩,
              ⟨1, 0, 0, .ofClass 0 0x70 0x00010002⟩]⟩⟩
            nextItemIds := (Vector.replicate 12 0x00010003).set 0 0x00010004
            sent := [.destroyItem 0xFFFFFFFF 1 false, .questFunctionCall 2] } := by rfl
    rw [Atomic, handler, hrun] at h
    exact absurd (h.1 (.inl 0x03100000)) (by decide +kernel)
  · rw [photonDropExchangeForSRankSpecial_iff _ (by decide) (by decide)]
    intro h
    have hremoval := h rfl 60 ⟨0, by decide⟩ ⟨2, by decide⟩ rfl rfl rfl rfl
    rw [AfterRemoval, if_neg (by decide)] at hremoval
    exact absurd (hremoval ⟨0, by decide⟩ false rfl rfl nofun).2.1.2 (by decide)

end HuntersGuild.ExchangeAtomicity
