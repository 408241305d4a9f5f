import HuntersGuild.BlueBurstSession

/-!
Selling items at a shop and buying them there. The price, the removal and the
addition each read the amount of the command in their own way.
-/

namespace HuntersGuild.ShopCommands

open HuntersGuild.BlueBurstSession
open HuntersGuild.CharacterFile
open HuntersGuild.ExceptionRules
open HuntersGuild.InventoryOperations
open HuntersGuild.Items
open HuntersGuild.StatefulPrograms

/-- 6xC0 -/
structure SellItemAtShop where
  itemId : UInt32
  amount : UInt32
deriving DecidableEq

/-- 6xB7 -/
structure BuyShopItem where
  shopItemId : UInt32
  shopType : UInt8
  itemIndex : UInt8
  amount : UInt8
deriving DecidableEq

/-- The prices of the item parameter table. -/
abbrev PriceForItem := ItemData → Except Exception UInt64

def salePrice (price : UInt64) (amount : UInt32) : UInt64 := (price >>> 3) * amount.toUInt64

def onSellItemAtShopBb (limits : StackLimits) (priceForItem : PriceForItem) (l : Lobby)
    (cmd : SellItemAtShop) : Command Unit :=
  if !l.isGame then
    throw (.runtimeError "6xC0 command sent in non-game lobby")
  else do
    let item ← inCharacter (removeItem cmd.itemId cmd.amount limits)
    let price := salePrice (← fromExcept (priceForItem item)) cmd.amount
    inCharacter (addMeseta price.toUInt32)

/-- The contents of the shops that are shown to a client. -/
abbrev ShopContents := Vector (List ItemData) 3

def shopItem (shops : ShopContents) (shopType itemIndex : UInt8) : Except Exception ItemData :=
  match shops[shopType.toNat]? with
  | none => .error (.outOfRange "array::at")
  | some contents =>
      match contents[itemIndex.toNat]? with
      | none => .error (.outOfRange "vector::at")
      | some item => .ok item

def orderedItem (limits : StackLimits) (amount : UInt8) (item : ItemData) :
    Except Exception ItemData := do
  if ← item.isStackable limits then
    return item.withByte 5 amount
  else if amount ≠ 1 then
    throw (.runtimeError "item is not stackable")
  else
    return item

def onBuyShopItemBb (limits : StackLimits) (l : Lobby) (shops : ShopContents)
    (cmd : BuyShopItem) : Command Unit :=
  if !l.isGame then
    throw (.runtimeError "6xB7 command sent in non-game lobby")
  else do
    let contained ← fromExcept (shopItem shops cmd.shopType cmd.itemIndex)
    let item ← fromExcept (orderedItem limits cmd.amount contained)
    let price := item.data2d * cmd.amount.toUInt32
    inCharacter (removeMeseta price false)
    let item := { item with data2d := 0, id := cmd.shopItemId }
    onItemIdGeneratedExternally item.id
    inCharacter (addItem item limits)
    sendCreateInventoryItemToLobby item true

/-! Selling. -/

/-- The units that a character has lost of what it handed over. -/
def unitsRemoved (limits : StackLimits) (itemId : UInt32) (item : ItemData)
    (before after : PSOBBCharacterFile) : Nat :=
  if itemId = 0xFFFFFFFF then
    before.meseta.toNat - after.meseta.toNat
  else
    held limits item.primaryIdentifier before.inventory.itemData -
      held limits item.primaryIdentifier after.inventory.itemData

/-- A sale offers an eighth of the price for each unit that is removed. -/
def SellLaw (limits : StackLimits) (priceForItem : PriceForItem) (l : Lobby)
    (cmd : SellItemAtShop) (self : Session) : Prop :=
  l.isGame = true → ∀ item character price,
    (removeItem cmd.itemId cmd.amount limits).run self.character = .ok item character →
    priceForItem item = .ok price →
      (onSellItemAtShopBb limits priceForItem l cmd).run self =
          (inCharacter (addMeseta (salePrice price cmd.amount).toUInt32)).run
            { self with character := character } ∧
        (salePrice price cmd.amount).toUInt32.toNat =
          (price >>> 3).toNat * unitsRemoved limits cmd.itemId item self.character character

/-- The amount of the command is the number of units, or makes up for the
difference by wrapping around. -/
def PaysFor (price amount units : Nat) : Prop :=
  price = 0 ∨ amount = units ∧ price * amount < 2 ^ 32 ∨
    units < amount ∧ price * units < 2 ^ 32 ∧ 2 ^ 32 ∣ price * (amount - units)

def SellFits (limits : StackLimits) (priceForItem : PriceForItem) (l : Lobby)
    (cmd : SellItemAtShop) (self : Session) : Prop :=
  l.isGame = true → if cmd.itemId = 0xFFFFFFFF then
    (cmd.amount ≤ self.character.meseta ∨ isV4 limits.version = false) →
      ∀ price, priceForItem { ItemData.cleared.withByte 0 4 with data2d := cmd.amount } =
          .ok price →
        PaysFor (price >>> 3).toNat cmd.amount.toNat
          (min cmd.amount.toNat self.character.meseta.toNat)
  else
    ∀ index part, self.character.inventory.findItem cmd.itemId = .ok index →
      splits cmd.amount limits (self.character.inventory.items.get index).data = .ok part →
      (part = true → (self.character.inventory.items.get index).isEquipped = false) →
      ∀ price, priceForItem (handedOver cmd.amount part (self.character.inventory.items.get index)) =
          .ok price →
        PaysFor (price >>> 3).toNat cmd.amount.toNat
          (requested limits cmd.amount (self.character.inventory.items.get index).data)

variable {limits : StackLimits} {priceForItem : PriceForItem} {l : Lobby} {self : Session}

theorem toNat_salePrice (price : UInt64) (amount : UInt32) :
    (salePrice price amount).toUInt32.toNat = (price >>> 3).toNat * amount.toNat % 2 ^ 32 := by
  rw [salePrice, UInt64.toNat_toUInt32, UInt64.toNat_mul, UInt32.toNat_toUInt64,
    Nat.mod_mod_of_dvd _ (Nat.pow_dvd_pow 2 (by decide))]

theorem paysFor_iff {price amount units : Nat} (h : units ≤ amount ∨ amount = 0 ∧ 0 < units) :
    price * amount % 2 ^ 32 = price * units ↔ PaysFor price amount units := by
  unfold PaysFor
  rcases Nat.eq_zero_or_pos price with rfl | hprice
  · simp
  have hne : price ≠ 0 := Nat.ne_of_gt hprice
  rcases h with hle | ⟨rfl, hpos⟩
  · rcases Nat.lt_or_eq_of_le hle with hless | rfl
    · have hsum : price * amount = price * units + price * (amount - units) := by
        rw [← Nat.mul_add, Nat.add_sub_cancel' hle]
      have hamount : amount ≠ units := Nat.ne_of_gt hless
      simp only [hne, hamount, hless, false_and, false_or, true_and, hsum]
      constructor
      · intro hmod
        have hsmall : price * units < 2 ^ 32 := by
          rw [← hmod]
          exact Nat.mod_lt _ (by decide)
        refine ⟨hsmall, ?_⟩
        omega
      · rintro ⟨hsmall, hdvd⟩
        obtain ⟨c, hc⟩ := hdvd
        rw [hc, Nat.add_mul_mod_self_left, Nat.mod_eq_of_lt hsmall]
    · simp only [hne, false_or, true_and, Nat.lt_irrefl, false_and, or_false]
      exact ⟨fun h => h ▸ Nat.mod_lt _ (by decide), Nat.mod_eq_of_lt⟩
  · have hunits : price * units ≠ 0 := Nat.mul_ne_zero hne (Nat.ne_of_gt hpos)
    have hzero : (0 : Nat) ≠ units := (Nat.ne_of_gt hpos).symm
    simp only [Nat.mul_zero, Nat.zero_mod, hne, hzero, Nat.not_lt_zero, false_and, false_or,
      iff_false]
    exact hunits.symm

theorem requested_le_or {amount : UInt32} {data : ItemData} (h : FilledWithinLimit limits data) :
    requested limits amount data ≤ amount.toNat ∨
      amount.toNat = 0 ∧ 0 < requested limits amount data := by
  unfold requested
  split
  · rename_i hwhole
    rcases hwhole with rfl | hle
    · exact .inr ⟨rfl, h.quantity_pos⟩
    · exact .inl hle
  · exact .inl (Nat.le_refl _)

theorem eq_handedOver {itemId amount : UInt32} {ret : ItemData}
    {before after : PSOBBCharacterFile} {index : Fin before.inventory.items.length} {part : Bool}
    (h : Removes itemId amount limits before ret after)
    (hfind : before.inventory.findItem itemId = .ok index)
    (hsplit : splits amount limits (before.inventory.items.get index).data = .ok part) :
    ret = handedOver amount part (before.inventory.items.get index) := by
  obtain ⟨index', part', hfind', hsplit', -, hret, -⟩ := removes_iff.mp h
  obtain rfl : index' = index := Except.ok.inj (hfind'.symm.trans hfind)
  obtain rfl : part' = part := Except.ok.inj (hsplit'.symm.trans hsplit)
  exact hret

theorem unitsRemoved_eq {itemId amount : UInt32} {ret data : ItemData}
    {before after : PSOBBCharacterFile} {part : Bool} (hid : itemId ≠ 0xFFFFFFFF)
    (h : Removes itemId amount limits before ret after) (htaken : Taken amount limits data ret part) :
    unitsRemoved limits itemId ret before after = requested limits amount data := by
  have hheld := h.held ret.primaryIdentifier
  rw [amountOf_self, htaken.quantity_eq] at hheld
  rw [unitsRemoved, if_neg hid]
  omega

/-- The sale in a game, once the item is removed and has a price. -/
theorem run_onSellItemAtShopBb {cmd : SellItemAtShop} {item : ItemData}
    {character : PSOBBCharacterFile} {price : UInt64} (hgame : l.isGame = true)
    (hremove : (removeItem cmd.itemId cmd.amount limits).run self.character = .ok item character)
    (hprice : priceForItem item = .ok price) :
    (onSellItemAtShopBb limits priceForItem l cmd).run self =
      (inCharacter (addMeseta (salePrice price cmd.amount).toUInt32)).run
        { self with character := character } := by
  rw [onSellItemAtShopBb, if_neg (by simp [hgame]), run_inCharacter_bind_of_ok hremove, hprice,
    run_ok_bind]

theorem unitsRemoved_meseta {amount : UInt32} {item : ItemData} {before : PSOBBCharacterFile} :
    unitsRemoved limits 0xFFFFFFFF item before { before with
        meseta := if amount ≤ before.meseta then before.meseta - amount else 0 } =
      min amount.toNat before.meseta.toNat := by
  rw [unitsRemoved, if_pos rfl]
  split
  · rename_i henough
    have hle := UInt32.le_iff_toNat_le.mp henough
    rw [UInt32.toNat_sub_of_le _ _ henough]
    omega
  · rename_i hless
    have hlt := UInt32.lt_iff_toNat_lt.mp (UInt32.not_le.mp hless)
    rw [Nat.min_eq_right (Nat.le_of_lt hlt)]
    rfl

/-- A sale offers what it should exactly if the amount pays for the units. -/
theorem sellLaw_iff {cmd : SellItemAtShop}
    (hself : ∀ d ∈ self.character.inventory.itemData, FilledWithinLimit limits d) :
    SellLaw limits priceForItem l cmd self ↔ SellFits limits priceForItem l cmd self := by
  unfold SellLaw SellFits
  refine forall_congr' fun hgame => ?_
  by_cases hid : cmd.itemId = 0xFFFFFFFF
  · rw [if_pos hid, hid]
    have hunits : min cmd.amount.toNat self.character.meseta.toNat ≤ cmd.amount.toNat ∨
        cmd.amount.toNat = 0 ∧ 0 < min cmd.amount.toNat self.character.meseta.toNat :=
      .inl (Nat.min_le_left _ _)
    constructor
    · intro hlaw hallowed price hprice
      have hremove := removeItem_meseta_eq_ok.mpr ⟨hallowed, rfl, rfl⟩
      obtain ⟨-, hoffer⟩ := hlaw _ _ price hremove hprice
      rwa [toNat_salePrice, unitsRemoved_meseta, paysFor_iff hunits] at hoffer
    · intro hfits item character price hremove hprice
      have hremove' := hid.symm ▸ hremove
      obtain ⟨hallowed, rfl, rfl⟩ := removeItem_meseta_eq_ok.mp hremove
      refine ⟨run_onSellItemAtShopBb hgame hremove' hprice, ?_⟩
      rw [toNat_salePrice, unitsRemoved_meseta, paysFor_iff hunits]
      exact hfits hallowed price hprice
  · rw [if_neg hid]
    have hfilled (index : Fin self.character.inventory.items.length) :
        FilledWithinLimit limits (self.character.inventory.items.get index).data :=
      hself _ (List.mem_of_getElem? (getElem?_itemData _ index))
    constructor
    · intro hlaw index part hfind hsplit hunequipped price hprice
      obtain ⟨ret, character, hremoves⟩ := exists_removes hfind hsplit hunequipped
      obtain ⟨index', part', hfind', -, htaken⟩ := hremoves.taken
      obtain rfl : index' = index := Except.ok.inj (hfind'.symm.trans hfind)
      obtain rfl : part' = part := Except.ok.inj (htaken.splits_eq.symm.trans hsplit)
      have hret := eq_handedOver hremoves hfind hsplit
      obtain ⟨-, hoffer⟩ := hlaw ret character price ((removeItem_eq_ok hid).mpr hremoves)
        (hret ▸ hprice)
      rwa [toNat_salePrice, unitsRemoved_eq hid hremoves htaken,
        paysFor_iff (requested_le_or (hfilled _))] at hoffer
    · intro hfits item character price hremove hprice
      have hremoves := (removeItem_eq_ok hid).mp hremove
      obtain ⟨index, part, hfind, hunequipped, htaken⟩ := hremoves.taken
      have hret := eq_handedOver hremoves hfind htaken.splits_eq
      refine ⟨run_onSellItemAtShopBb hgame hremove hprice, ?_⟩
      rw [toNat_salePrice, unitsRemoved_eq hid hremoves htaken,
        paysFor_iff (requested_le_or (hfilled _))]
      exact hfits index part hfind htaken.splits_eq hunequipped price (hret ▸ hprice)

/-! Buying. -/

/-- A purchase charges the price of all units and adds them within the limits,
or it fails and changes nothing. -/
def BuyLaw (limits : StackLimits) (shops : ShopContents) (cmd : BuyShopItem) (self : Session)
    (r : EStateM.Result Exception Session Unit) : Prop :=
  (∃ a item, outcome r = .ok a ∧ shopItem shops cmd.shopType cmd.itemIndex = .ok item ∧
    (finalState r).character.meseta.toNat + item.data2d.toNat * cmd.amount.toNat =
      self.character.meseta.toNat ∧
    (∀ k, held limits k (finalState r).character.inventory.itemData =
      held limits k self.character.inventory.itemData +
        (if item.primaryIdentifier = k then cmd.amount.toNat else 0)) ∧
    ∀ d ∈ (finalState r).character.inventory.itemData, WithinLimit limits d) ∨
  (∃ e, outcome r = .error e) ∧ (finalState r).character = self.character

/-- Once the charge is made, the inventory takes the order and the charge has
not wrapped around, or the inventory refuses it and there was no charge. -/
def BuyFits (limits : StackLimits) (l : Lobby) (shops : ShopContents) (cmd : BuyShopItem)
    (self : Session) : Prop :=
  l.isGame = true → ∀ item n,
    shopItem shops cmd.shopType cmd.itemIndex = .ok item → item.maxStackSize limits = .ok n →
    (1 < n ∨ cmd.amount = 1) → item.data2d * cmd.amount.toUInt32 ≤ self.character.meseta →
      if item.primaryIdentifier = 0x04000000 then
        1 < n ∧ cmd.amount = 0 ∧ self.character.meseta ≤ 999999
      else
        (Accepts PlayerInventoryItem.data 30 limits item cmd.amount.toNat
            self.character.inventory.items →
          item.data2d.toNat * cmd.amount.toNat < 2 ^ 32 ∧ (1 < n → cmd.amount.toNat ≤ n)) ∧
        (¬ Accepts PlayerInventoryItem.data 30 limits item cmd.amount.toNat
            self.character.inventory.items →
          item.data2d * cmd.amount.toUInt32 = 0)

/-- What is ordered of an item of a shop. -/
structure Ordered (limits : StackLimits) (amount : UInt8) (item ordered : ItemData) : Prop where
  primaryIdentifier_eq : ordered.primaryIdentifier = item.primaryIdentifier
  data2d_eq : ordered.data2d = item.data2d
  quantity_eq : ordered.quantity limits = amount.toNat
  withinLimit_iff : WithinLimit limits ordered ↔
    ∀ n, item.maxStackSize limits = .ok n → 1 < n → amount.toNat ≤ n
  accepts_iff : ∀ entries : List PlayerInventoryItem,
    Accepts PlayerInventoryItem.data 30 limits ordered ordered.data1[5].toNat entries ↔
      Accepts PlayerInventoryItem.data 30 limits item amount.toNat entries

theorem orderedItem_of_not {amount : UInt8} {item : ItemData} {n : Nat}
    (hmax : item.maxStackSize limits = .ok n) (h : ¬ (1 < n ∨ amount = 1)) :
    orderedItem limits amount item = .error (.runtimeError "item is not stackable") := by
  have hn : ¬ 1 < n := fun hn => h (.inl hn)
  have hamount : amount ≠ 1 := fun hamount => h (.inr hamount)
  simp [orderedItem, ItemData.isStackable, hmax, hn, hamount]

theorem exists_orderedItem {amount : UInt8} {item : ItemData} {n : Nat}
    (hmax : item.maxStackSize limits = .ok n) (h : 1 < n ∨ amount = 1) :
    ∃ ordered, orderedItem limits amount item = .ok ordered ∧
      Ordered limits amount item ordered := by
  by_cases hn : 1 < n
  · have hstacks : item.Stacks limits := stacks_iff.mpr ⟨n, hmax, hn⟩
    have hkind := primaryIdentifier_withByte_five item amount
    have hmax' := maxStackSize_of_primaryIdentifier_eq hkind limits
    refine ⟨item.withByte 5 amount, ?_, hkind, rfl, ?_, ?_, ?_⟩
    · simp [orderedItem, ItemData.isStackable, hmax, hn]
    · rw [quantity_of_stacks ((stacks_of_primaryIdentifier_eq hkind limits).mpr hstacks),
        data1_withByte_five]
    · rw [WithinLimit, hmax', data1_withByte_five]
    · intro entries
      rw [data1_withByte_five]
      exact accepts_congr hkind _ entries
  · have hamount : amount = 1 := h.resolve_left hn
    have hstacks : ¬ item.Stacks limits := by
      rw [stacks_iff]
      rintro ⟨m, hm, hlt⟩
      obtain rfl := Except.ok.inj (hmax.symm.trans hm)
      exact hn hlt
    refine ⟨item, ?_, rfl, rfl, ?_, ?_, ?_⟩
    · simp [orderedItem, ItemData.isStackable, hmax, hn, hamount]
    · rw [quantity_of_not_stacks hstacks, hamount]
      rfl
    · refine iff_of_true ?_ ?_ <;>
      · intro m hm hlt
        obtain rfl := Except.ok.inj (hmax.symm.trans hm)
        exact absurd hlt hn
    · intro entries
      exact accepts_count_congr hmax hn _ _ entries

variable {shops : ShopContents} {cmd : BuyShopItem}

/-- A purchase that fails early. -/
theorem buyLaw_of_error {e : Exception} {r : EStateM.Result Exception Session Unit}
    (h : r = .error e self) : BuyLaw limits shops cmd self r := by
  subst h
  exact .inr ⟨⟨e, rfl⟩, rfl⟩

/-- What is left of a purchase once the charge is made. -/
theorem run_onBuyShopItemBb {item ordered : ItemData} (hgame : l.isGame = true)
    (hshop : shopItem shops cmd.shopType cmd.itemIndex = .ok item)
    (hordered : orderedItem limits cmd.amount item = .ok ordered)
    (hdata : ordered.data2d = item.data2d)
    (hprice : item.data2d * cmd.amount.toUInt32 ≤ self.character.meseta) :
    ∃ ids, (onBuyShopItemBb limits l shops cmd).run self =
      (inCharacter (addItem { ordered with data2d := 0, id := cmd.shopItemId } limits) >>= fun _ =>
        sendCreateInventoryItemToLobby { ordered with data2d := 0, id := cmd.shopItemId }
          true).run
        { self with
          character := { self.character with
            meseta := self.character.meseta - item.data2d * cmd.amount.toUInt32 }
          nextItemIds := ids } := by
  have hcharge : (removeMeseta (item.data2d * cmd.amount.toUInt32) false).run self.character =
      .ok ⟨⟩ { self.character with
        meseta := self.character.meseta - item.data2d * cmd.amount.toUInt32 } := by
    refine removeMeseta_eq_ok.mpr ⟨.inl hprice, ?_⟩
    rw [if_pos hprice]
  obtain ⟨ids, hids⟩ := run_onItemIdGeneratedExternally cmd.shopItemId
    { self with character := { self.character with
        meseta := self.character.meseta - item.data2d * cmd.amount.toUInt32 } }
  refine ⟨ids, ?_⟩
  rw [onBuyShopItemBb, if_neg (by simp [hgame]), hshop, run_ok_bind, hordered, run_ok_bind, hdata,
    run_inCharacter_bind_of_ok hcharge, run_bind_of_ok hids]

/-- Meseta on a shelf is charged for and not added. -/
theorem boughtMeseta_iff {item ordered : ItemData} {n : Nat} (hgame : l.isGame = true)
    (hself : ∀ d ∈ self.character.inventory.itemData, WithinLimit limits d)
    (hshop : shopItem shops cmd.shopType cmd.itemIndex = .ok item)
    (hsize : 1 < n ∨ cmd.amount = 1)
    (hordered : orderedItem limits cmd.amount item = .ok ordered)
    (hitem : Ordered limits cmd.amount item ordered)
    (hprice : item.data2d * cmd.amount.toUInt32 ≤ self.character.meseta)
    (hmeseta : item.primaryIdentifier = 0x04000000) :
    BuyLaw limits shops cmd self ((onBuyShopItemBb limits l shops cmd).run self) ↔
      1 < n ∧ cmd.amount = 0 ∧ self.character.meseta ≤ 999999 := by
  obtain ⟨ids, hrun⟩ := run_onBuyShopItemBb hgame hshop hordered hitem.data2d_eq hprice
  have hclass : ({ ordered with data2d := 0, id := cmd.shopItemId } : ItemData).primaryIdentifier =
      0x04000000 := hitem.primaryIdentifier_eq.trans hmeseta
  rw [hrun, run_inCharacter_bind_of_ok (run_addItem_meseta hclass)]
  have hcapped : (min ((self.character.meseta - item.data2d * cmd.amount.toUInt32).toNat +
      (0 : UInt32).toNat) 999999).toUInt32.toNat =
        min (self.character.meseta - item.data2d * cmd.amount.toUInt32).toNat 999999 := by
    rw [UInt32.toNat_zero, Nat.add_zero, Nat.toUInt32_eq, UInt32.toNat_ofNat']
    omega
  have hfree (hamount : cmd.amount = 0) : item.data2d * cmd.amount.toUInt32 = 0 := by
    rw [hamount]
    exact UInt32.mul_zero
  constructor
  · rintro (⟨a, item', -, hshop', hcharge, hitems, -⟩ | ⟨⟨e, herror⟩, -⟩)
    · obtain rfl := Except.ok.inj (hshop.symm.trans hshop')
      have hnone : held limits 0x04000000 self.character.inventory.itemData =
          held limits 0x04000000 self.character.inventory.itemData +
            (if item.primaryIdentifier = 0x04000000 then cmd.amount.toNat else 0) :=
        hitems 0x04000000
      rw [if_pos hmeseta] at hnone
      have hamount : cmd.amount = 0 := UInt8.toNat_inj.mp (by
        rw [UInt8.toNat_zero]
        omega)
      have hkept : min (self.character.meseta - item.data2d * cmd.amount.toUInt32).toNat 999999 +
          item.data2d.toNat * cmd.amount.toNat = self.character.meseta.toNat := by
        rw [← hcapped]
        exact hcharge
      rw [hfree hamount, hamount, UInt32.sub_zero, UInt8.toNat_zero] at hkept
      refine ⟨hsize.resolve_right ?_, hamount, UInt32.le_iff_toNat_le.mpr ?_⟩
      · rw [hamount]
        decide
      · change self.character.meseta.toNat ≤ 999999
        omega
    · cases herror
  · rintro ⟨-, hamount, hlimit⟩
    have hle : self.character.meseta.toNat ≤ 999999 := UInt32.le_iff_toNat_le.mp hlimit
    refine .inl ⟨⟨⟩, item, rfl, hshop, ?_, fun k => ?_, hself⟩
    · refine (congrArg (· + item.data2d.toNat * cmd.amount.toNat) hcapped).trans ?_
      rw [hfree hamount, hamount, UInt32.sub_zero, UInt8.toNat_zero]
      omega
    · rw [hamount, UInt8.toNat_zero, ite_self]
      rfl

theorem boughtItem_iff {item ordered : ItemData} {n : Nat} (hgame : l.isGame = true)
    (hself : ∀ d ∈ self.character.inventory.itemData, WithinLimit limits d)
    (hshop : shopItem shops cmd.shopType cmd.itemIndex = .ok item)
    (hmax : item.maxStackSize limits = .ok n)
    (hordered : orderedItem limits cmd.amount item = .ok ordered)
    (hitem : Ordered limits cmd.amount item ordered)
    (hprice : item.data2d * cmd.amount.toUInt32 ≤ self.character.meseta)
    (hmeseta : item.primaryIdentifier ≠ 0x04000000) :
    BuyLaw limits shops cmd self ((onBuyShopItemBb limits l shops cmd).run self) ↔
      (Accepts PlayerInventoryItem.data 30 limits item cmd.amount.toNat
          self.character.inventory.items →
        item.data2d.toNat * cmd.amount.toNat < 2 ^ 32 ∧ (1 < n → cmd.amount.toNat ≤ n)) ∧
      (¬ Accepts PlayerInventoryItem.data 30 limits item cmd.amount.toNat
          self.character.inventory.items →
        item.data2d * cmd.amount.toUInt32 = 0) := by
  obtain ⟨ids, hrun⟩ := run_onBuyShopItemBb hgame hshop hordered hitem.data2d_eq hprice
  have hcharge : (item.data2d * cmd.amount.toUInt32).toNat =
      item.data2d.toNat * cmd.amount.toNat % 2 ^ 32 := by
    rw [UInt32.toNat_mul, UInt8.toNat_toUInt32]
  have hle := UInt32.le_iff_toNat_le.mp hprice
  have hleft := UInt32.toNat_sub_of_le _ _ hprice
  have hkind : ({ ordered with data2d := 0, id := cmd.shopItemId } : ItemData).primaryIdentifier =
      item.primaryIdentifier := hitem.primaryIdentifier_eq
  have hclass : ({ ordered with data2d := 0, id := cmd.shopItemId } : ItemData).primaryIdentifier ≠
      0x04000000 := fun h => hmeseta (hkind.symm.trans h)
  have haccepts : (∃ self', Adds { ordered with data2d := 0, id := cmd.shopItemId } limits
        { self.character with
          meseta := self.character.meseta - item.data2d * cmd.amount.toUInt32 } self') ↔
      Accepts PlayerInventoryItem.data 30 limits item cmd.amount.toNat
        self.character.inventory.items :=
    exists_adds_iff.trans (hitem.accepts_iff self.character.inventory.items)
  rcases hadd : (addItem { ordered with data2d := 0, id := cmd.shopItemId } limits).run
      { self.character with
        meseta := self.character.meseta - item.data2d * cmd.amount.toUInt32 } with
    ⟨⟨⟩, character⟩ | ⟨e, character⟩
  · rw [hrun, run_inCharacter_bind_of_ok hadd]
    have hadds := (addItem_eq_ok hclass).mp hadd
    have hroom := haccepts.mp ⟨_, hadds⟩
    simp only [hroom, forall_const, not_true_eq_false, false_implies, and_true]
    have hwithin := (hadds.withinLimit_iff hself).trans hitem.withinLimit_iff
    have hpaid : character.meseta.toNat =
        self.character.meseta.toNat - item.data2d.toNat * cmd.amount.toNat % 2 ^ 32 := by
      rw [hadds.meseta_eq, ← hcharge]
      exact hleft
    constructor
    · rintro (⟨a, item', -, hshop', hprices, -, hall⟩ | ⟨⟨e, herror⟩, -⟩)
      · obtain rfl := Except.ok.inj (hshop.symm.trans hshop')
        have htotal : character.meseta.toNat + item.data2d.toNat * cmd.amount.toNat =
          self.character.meseta.toNat := hprices
        have := Nat.mod_lt (item.data2d.toNat * cmd.amount.toNat) (Nat.two_pow_pos 32)
        exact ⟨by omega, hwithin.mp hall n hmax⟩
      · cases herror
    · rintro ⟨hsmall, hlimit⟩
      refine .inl ⟨⟨⟩, item, rfl, hshop, ?_, fun k => ?_, hwithin.mpr ?_⟩
      · refine (congrArg (· + item.data2d.toNat * cmd.amount.toNat) hpaid).trans ?_
        rw [Nat.mod_eq_of_lt hsmall] at hcharge ⊢
        omega
      · refine (hadds.held k).trans ?_
        rw [← hitem.quantity_eq, ← hitem.primaryIdentifier_eq, ← amountOf_eq]
        exact congrArg _ (amountOf_congr rfl rfl limits k)
      · intro m hm hlt
        obtain rfl := Except.ok.inj (hmax.symm.trans hm)
        exact hlimit hlt
  · obtain rfl := addItem_atomic _ _ _ _ _ hadd
    rw [hrun, run_inCharacter_bind_of_error hadd]
    have hroom : ¬ Accepts PlayerInventoryItem.data 30 limits item cmd.amount.toNat
        self.character.inventory.items := by
      rw [← haccepts]
      rintro ⟨character, hadds⟩
      cases hadd.symm.trans ((addItem_eq_ok hclass).mpr hadds)
    simp only [hroom, not_false_eq_true, false_implies, true_and, forall_const]
    constructor
    · rintro (⟨a, item', hok, -⟩ | ⟨-, hsame⟩)
      · cases hok
      · have hkept : self.character.meseta - item.data2d * cmd.amount.toUInt32 =
            self.character.meseta := congrArg (·.meseta) hsame
        rw [hkept] at hleft
        exact UInt32.toNat_inj.mp (by rw [UInt32.toNat_zero]; omega)
    · intro hfree
      refine .inr ⟨⟨e, rfl⟩, ?_⟩
      rw [hfree, UInt32.sub_zero]
      rfl

/-- A purchase keeps its law exactly if it fits. -/
theorem buyLaw_iff (hself : ∀ d ∈ self.character.inventory.itemData, WithinLimit limits d) :
    BuyLaw limits shops cmd self ((onBuyShopItemBb limits l shops cmd).run self) ↔ BuyFits limits l shops cmd self := by
  cases hgame : l.isGame with
  | false =>
      refine iff_of_true
        (buyLaw_of_error (e := .runtimeError "6xB7 command sent in non-game lobby") ?_) ?_
      · rw [onBuyShopItemBb, if_pos (by simp [hgame])]
        rfl
      · intro h
        rw [hgame] at h
        cases h
  | true =>
  rcases hshop : shopItem shops cmd.shopType cmd.itemIndex with e | item
  · refine iff_of_true (buyLaw_of_error (e := e) ?_) ?_
    · rw [onBuyShopItemBb, if_neg (by simp [hgame]), hshop, run_error_bind]
    · intro _ item n h
      cases hshop.symm.trans h
  rcases hmax : item.maxStackSize limits with e | n
  · refine iff_of_true (buyLaw_of_error (e := e) ?_) ?_
    · have hordered : orderedItem limits cmd.amount item = .error e := by
        simp [orderedItem, ItemData.isStackable, hmax]
      rw [onBuyShopItemBb, if_neg (by simp [hgame]), hshop, run_ok_bind, hordered, run_error_bind]
    · intro _ item' n h hmax'
      obtain rfl := Except.ok.inj (hshop.symm.trans h)
      cases hmax.symm.trans hmax'
  have hfits : BuyFits limits l shops cmd self ↔
      ((1 < n ∨ cmd.amount = 1) → item.data2d * cmd.amount.toUInt32 ≤ self.character.meseta →
        if item.primaryIdentifier = 0x04000000 then
          1 < n ∧ cmd.amount = 0 ∧ self.character.meseta ≤ 999999
        else
          (Accepts PlayerInventoryItem.data 30 limits item cmd.amount.toNat
              self.character.inventory.items →
            item.data2d.toNat * cmd.amount.toNat < 2 ^ 32 ∧ (1 < n → cmd.amount.toNat ≤ n)) ∧
          (¬ Accepts PlayerInventoryItem.data 30 limits item cmd.amount.toNat
              self.character.inventory.items →
            item.data2d * cmd.amount.toUInt32 = 0)) := by
    constructor
    · intro h
      exact h hgame item n hshop hmax
    · intro h _ item' n' hshop' hmax'
      obtain rfl := Except.ok.inj (hshop.symm.trans hshop')
      obtain rfl := Except.ok.inj (hmax.symm.trans hmax')
      exact h
  rw [hfits]
  by_cases hsize : 1 < n ∨ cmd.amount = 1
  · obtain ⟨ordered, hordered, hitem⟩ := exists_orderedItem hmax hsize
    by_cases hprice : item.data2d * cmd.amount.toUInt32 ≤ self.character.meseta
    · simp only [hsize, hprice, forall_const]
      split
      · rename_i hmeseta
        exact boughtMeseta_iff hgame hself hshop hsize hordered hitem hprice hmeseta
      · rename_i hmeseta
        exact boughtItem_iff hgame hself hshop hmax hordered hitem hprice hmeseta
    · refine iff_of_true (buyLaw_of_error
        (e := .outOfRange "player does not have enough meseta") ?_) fun _ h => absurd h hprice
      rw [onBuyShopItemBb, if_neg (by simp [hgame]), hshop, run_ok_bind, hordered, run_ok_bind,
        hitem.data2d_eq]
      have hpoor : (removeMeseta (item.data2d * cmd.amount.toUInt32) false).run self.character =
          .error (.outOfRange "player does not have enough meseta") self.character := by
        rw [removeMeseta, run_get_bind, if_neg hprice]
        rfl
      exact run_inCharacter_bind_of_error hpoor
  · refine iff_of_true (buyLaw_of_error (e := .runtimeError "item is not stackable") ?_)
      fun h => absurd h hsize
    rw [onBuyShopItemBb, if_neg (by simp [hgame]), hshop, run_ok_bind,
      orderedItem_of_not hmax hsize, run_error_bind]

/-- Sales and purchases keep their value laws exactly if they fit. -/
theorem shop_value_iff (limits : StackLimits) (priceForItem : PriceForItem) (l : Lobby)
    (shops : ShopContents) (sale : SellItemAtShop) (purchase : BuyShopItem) (self : Session)
    (hself : ∀ d ∈ self.character.inventory.itemData, FilledWithinLimit limits d) :
    (SellLaw limits priceForItem l sale self ↔ SellFits limits priceForItem l sale self) ∧
      (BuyLaw limits shops purchase self ((onBuyShopItemBb limits l shops purchase).run self) ↔
        BuyFits limits l shops purchase self) :=
  ⟨sellLaw_iff hself, buyLaw_iff fun d hd => (hself d hd).withinLimit⟩

def monomates (count : UInt8) (id price : UInt32) : ItemData :=
  { (ItemData.ofClass 3 0 id).withByte 5 count with data2d := price }

def customer (count : UInt8) : Session where
  character := ⟨500, ⟨[⟨1, 0, 0, monomates count 0x00010000 0⟩]⟩⟩
  bank := ⟨999999, 200, 0, []⟩
  nextItemIds := Vector.replicate 12 0x00010001
  identifyResult := .cleared
  sent := []

def gameLobby : Lobby := ⟨true, false, 0, 0, false, none⟩

def itemShop : ShopContents := #v[[monomates 1 0 50], [], []]

def monomatePrice : PriceForItem := fun _ => .ok 50

theorem shop_value_iff_monomates :
    (SellLaw defaultLimits monomatePrice gameLobby ⟨0x00010000, 2⟩ (customer 3) ↔
      SellFits defaultLimits monomatePrice gameLobby ⟨0x00010000, 2⟩ (customer 3)) ∧
    (BuyLaw defaultLimits itemShop ⟨0x00010002, 0, 0, 4⟩ (customer 3)
        ((onBuyShopItemBb defaultLimits gameLobby itemShop ⟨0x00010002, 0, 0, 4⟩).run
          (customer 3)) ↔
      BuyFits defaultLimits gameLobby itemShop ⟨0x00010002, 0, 0, 4⟩ (customer 3)) :=
  shop_value_iff defaultLimits monomatePrice gameLobby itemShop ⟨0x00010000, 2⟩
    ⟨0x00010002, 0, 0, 4⟩ (customer 3) (by decide)

/-- Three monomates are sold as two hundred, and a monomate is charged for that
finds no place. -/
theorem sale_overpaid_purchase_lost :
    ¬ SellLaw defaultLimits monomatePrice gameLobby ⟨0x00010000, 200⟩ (customer 3) ∧
      ¬ BuyLaw defaultLimits itemShop ⟨0x00010002, 0, 0, 1⟩ (customer 10)
        ((onBuyShopItemBb defaultLimits gameLobby itemShop ⟨0x00010002, 0, 0, 1⟩).run
          (customer 10)) := by
  constructor
  · intro hlaw
    have hremove : (removeItem 0x00010000 200 defaultLimits).run (customer 3).character =
        .ok (monomates 3 0x00010000 0) ⟨500, ⟨[]⟩⟩ := by rfl
    exact absurd (hlaw rfl _ _ 50 hremove rfl).2 (by decide +kernel)
  · rintro (⟨a, item, hok, -⟩ | ⟨-, hsame⟩)
    · cases hok
    · exact absurd hsame (by decide +kernel)

end HuntersGuild.ShopCommands
