import HuntersGuild.ExchangeSteps
import HuntersGuild.ItemStocks

/-!
What a payment takes from an inventory, and what is left of it after an item
has been added or the payment has been put back.
-/

namespace HuntersGuild.ExchangePayments

open HuntersGuild.BlueBurstSession
open HuntersGuild.CharacterFile
open HuntersGuild.ExchangeSteps
open HuntersGuild.InventoryConservation
open HuntersGuild.InventoryOperations
open HuntersGuild.Items
open HuntersGuild.ItemStocks
open HuntersGuild.StatefulPrograms

/-- There are the same items in the same quantities, and as much meseta. -/
def Kept (limits : StackLimits) (self self' : PSOBBCharacterFile) : Prop :=
  (∀ k, stock limits k self'.inventory.items = stock limits k self.inventory.items) ∧
    self'.meseta = self.meseta

/-- What a new item adds to the stock, unless it becomes meseta on hand. -/
def gained (limits : StackLimits) (k : UInt32 ⊕ ItemData) (newItem : ItemData) : Nat :=
  if newItem.primaryIdentifier = 0x04000000 then 0
  else portion limits k newItem (newItem.quantity limits)

/-- The price has been paid with an item of the demanded kind, and exactly the
new item has been gained for it. -/
def Exchanges (limits : StackLimits) (primaryIdentifier : UInt32) (price : ItemData → Nat)
    (newItem : ItemData) (self self' : PSOBBCharacterFile) : Prop :=
  (∃ paid ∈ self.inventory.items, paid.data.primaryIdentifier = primaryIdentifier ∧
    ∀ k, stock limits k self'.inventory.items +
        portion limits k (settled paid).data (price paid.data) =
      stock limits k self.inventory.items + gained limits k newItem) ∧
  self'.meseta.toNat = self.meseta.toNat +
    if newItem.primaryIdentifier = 0x04000000 then newItem.data2d.toNat else 0

/-- What the addition of an item needs in order not to lose any of it. -/
def Takes (limits : StackLimits) (newItem : ItemData) (self : PSOBBCharacterFile) : Prop :=
  if newItem.primaryIdentifier = 0x04000000 then
    self.meseta.toNat + newItem.data2d.toNat ≤ 999999
  else
    Room limits newItem self

/-- What the addition of an item needs in order not to be refused. -/
def Arrives (limits : StackLimits) (newItem : ItemData) (self : PSOBBCharacterFile) : Prop :=
  newItem.primaryIdentifier = 0x04000000 ∨ Room limits newItem self

/-- The removal from an entry takes exactly the price. -/
structure Charges (limits : StackLimits) (primaryIdentifier amount : UInt32)
    (price : ItemData → Nat) (self : PSOBBCharacterFile)
    (y : Fin self.inventory.items.length) : Prop where
  primaryIdentifier_eq : (self.inventory.items.get y).data.primaryIdentifier = primaryIdentifier
  price_eq : price (self.inventory.items.get y).data =
    requested limits amount (self.inventory.items.get y).data
  keepsUnits : ¬ Unwraps self y

/-- What has been removed from an entry can be put back. -/
structure Refunds (limits : StackLimits) (amount : UInt32) (part : Bool)
    (self : PSOBBCharacterFile) (y : Fin self.inventory.items.length) : Prop where
  notMeseta : (self.inventory.items.get y).data.primaryIdentifier ≠ 0x04000000
  room : Room limits (handedOver amount part (self.inventory.items.get y))
    (takenFrom amount part self y)
  keepsUnits : ¬ Unwraps self y

variable {limits : StackLimits} {primaryIdentifier amount : UInt32} {price : ItemData → Nat}
  {newItem : ItemData} {self : PSOBBCharacterFile} {part : Bool}
  {y : Fin self.inventory.items.length}

/-! A removal from an entry. -/

/-- An armor and a unit are of different kinds. -/
theorem kind_ne_of_unwraps (h : Unwraps self y) {d : ItemData} (hd : d.isUnit = true) :
    kind limits d ≠ kind limits (settled (self.inventory.items.get y)).data := by
  intro hkind
  have hclass : d.data1[0] = 1 ∧ d.data1[1] = 3 := by simpa [ItemData.isUnit] using hd
  have harmor : (self.inventory.items.get y).data.data1[0] = 1 ∧
      (self.inventory.items.get y).data.data1[1] = 1 := by simpa [ItemData.isArmor] using h.2.1
  obtain ⟨-, hsub⟩ := class_of_primaryIdentifier_eq
    ((primaryIdentifier_of_kind hkind).trans (primaryIdentifier_settled _))
  have hsame := hsub (by rw [hclass.1]; decide)
  rw [hclass.2, harmor.2] at hsame
  exact absurd hsame (by decide)

/-- Of its own kind, a removal takes what was requested in any case. -/
theorem stock_takenFrom_self
    (hsplit : splits amount limits (self.inventory.items.get y).data = .ok part)
    (hworn : part = true → (self.inventory.items.get y).isEquipped = false) :
    stock limits (kind limits (settled (self.inventory.items.get y)).data)
        (takenFrom amount part self y).inventory.items +
      requested limits amount (self.inventory.items.get y).data =
      stock limits (kind limits (settled (self.inventory.items.get y)).data) self.inventory.items := by
  have hkept : ¬ Unwraps self y ∨ ∀ d : ItemData, d.isUnit = true →
      kind limits d ≠ kind limits (settled (self.inventory.items.get y)).data := by
    by_cases hunwraps : Unwraps self y
    · exact .inr fun d hd => kind_ne_of_unwraps hunwraps hd
    · exact .inl hunwraps
  have hstock := stock_takenFrom y hsplit hworn hkept
  rwa [portion_self] at hstock

theorem meseta_takenFrom (amount : UInt32) (part : Bool) (self : PSOBBCharacterFile)
    (y : Fin self.inventory.items.length) : (takenFrom amount part self y).meseta = self.meseta := by
  unfold takenFrom
  split
  · rfl
  · split <;> rfl

theorem part_eq_false_of_unwraps (h : Unwraps self y)
    (hworn : part = true → (self.inventory.items.get y).isEquipped = false) : part = false := by
  rw [← Bool.not_eq_true]
  intro hpart
  have hequipped := h.1
  rw [hworn hpart] at hequipped
  cases hequipped

/-- The price is missing afterwards exactly if the removal charges it. -/
theorem exists_paid_iff
    (hsplit : splits amount limits (self.inventory.items.get y).data = .ok part)
    (hworn : part = true → (self.inventory.items.get y).isEquipped = false)
    (hfilled : FilledWithinLimit limits (self.inventory.items.get y).data)
    (hprice : ∀ paid, price paid = requested limits amount (self.inventory.items.get y).data →
      price (self.inventory.items.get y).data = requested limits amount (self.inventory.items.get y).data) :
    (∃ paid ∈ self.inventory.items, paid.data.primaryIdentifier = primaryIdentifier ∧
      ∀ k, stock limits k (takenFrom amount part self y).inventory.items +
          portion limits k (settled paid).data (price paid.data) =
        stock limits k self.inventory.items) ↔
      Charges limits primaryIdentifier amount price self y := by
  have hpos : 0 < requested limits amount (self.inventory.items.get y).data := by
    rw [Nat.pos_iff_ne_zero, Ne, requested_eq_zero]
    exact Nat.ne_of_gt hfilled.quantity_pos
  constructor
  · rintro ⟨paid, -, hpid, hstock⟩
    have hown := stock_takenFrom_self hsplit hworn
    have hat := hstock (kind limits (settled (self.inventory.items.get y)).data)
    have hportion : portion limits (kind limits (settled (self.inventory.items.get y)).data)
        (settled paid).data (price paid.data) =
          requested limits amount (self.inventory.items.get y).data := by omega
    by_cases hkind : kind limits (settled paid).data =
        kind limits (settled (self.inventory.items.get y)).data
    · rw [portion, if_pos hkind] at hportion
      refine ⟨?_, hprice _ hportion, fun hunwraps => ?_⟩
      · rw [← hpid, ← primaryIdentifier_settled, ← primaryIdentifier_settled paid]
        exact (primaryIdentifier_of_kind hkind).symm
      · obtain rfl := part_eq_false_of_unwraps hunwraps hworn
        obtain ⟨d, hunit, hsome, hnone⟩ := exists_unwrapped limits hunwraps
        have hlost := hstock (kind limits d)
        rw [hnone, portion, if_neg fun h =>
          kind_ne_of_unwraps hunwraps hunit (h.symm.trans hkind)] at hlost
        omega
    · rw [portion, if_neg hkind] at hportion
      omega
  · rintro ⟨hpid, hexact, hkept⟩
    refine ⟨_, List.get_mem _ y, hpid, fun k => ?_⟩
    rw [← stock_takenFrom (k := k) y hsplit hworn (.inl hkept)]
    exact congrArg _ (congrArg _ hexact)

theorem not_kept_takenFrom
    (hsplit : splits amount limits (self.inventory.items.get y).data = .ok part)
    (hworn : part = true → (self.inventory.items.get y).isEquipped = false)
    (hfilled : FilledWithinLimit limits (self.inventory.items.get y).data) :
    ¬ Kept limits self (takenFrom amount part self y) := by
  rintro ⟨hstock, -⟩
  have hown := stock_takenFrom_self hsplit hworn
  have hat := hstock (kind limits (settled (self.inventory.items.get y)).data)
  have hnone : requested limits amount (self.inventory.items.get y).data = 0 := by omega
  rw [requested_eq_zero] at hnone
  exact absurd hnone (Nat.ne_of_gt hfilled.quantity_pos)

/-! An addition after the removal. -/

theorem gained_of_not_meseta (h : newItem.primaryIdentifier ≠ 0x04000000)
    (k : UInt32 ⊕ ItemData) :
    gained limits k newItem = portion limits k newItem (newItem.quantity limits) := if_neg h

theorem portion_withId (limits : StackLimits) (k : UInt32 ⊕ ItemData) (d : ItemData)
    (newId : UInt32) (n : Nat) :
    portion limits k { d with id := newId } n = portion limits k d n :=
  portion_congr (kind_withId d newId) n

theorem quantity_withId (limits : StackLimits) (d : ItemData) (newId : UInt32) :
    ({ d with id := newId } : ItemData).quantity limits = d.quantity limits :=
  quantity_congr rfl rfl limits

theorem toNat_withMeseta (amount : UInt32) (self : PSOBBCharacterFile) :
    (withMeseta amount self).meseta.toNat = min (self.meseta.toNat + amount.toNat) 999999 :=
  toNat_capped _

/-- The exchange is carried out in full or left alone exactly if the removal
charges the price and the new item has its place. -/
theorem exchanged_iff
    (hsplit : splits amount limits (self.inventory.items.get y).data = .ok part)
    (hworn : part = true → (self.inventory.items.get y).isEquipped = false)
    (hfilled : FilledWithinLimit limits (self.inventory.items.get y).data)
    (hprice : ∀ paid, price paid = requested limits amount (self.inventory.items.get y).data →
      price (self.inventory.items.get y).data = requested limits amount (self.inventory.items.get y).data)
    (newId : UInt32) :
    Ends (Exchanges limits primaryIdentifier price newItem self) (Kept limits self)
        ((addItem { newItem with id := newId } limits).run (takenFrom amount part self y)) ↔
      Charges limits primaryIdentifier amount price self y ∧
        Takes limits newItem (takenFrom amount part self y) := by
  have hpaid := @exists_paid_iff limits primaryIdentifier amount price self part y hsplit hworn
    hfilled hprice
  have hmeseta := meseta_takenFrom amount part self y
  rcases addItem_cases limits { newItem with id := newId } (takenFrom amount part self y) with
    ⟨hclass, hrun⟩ | ⟨hclass, hroom, self', hadds, hrun⟩ | ⟨hclass, hroom, what, hrun⟩
  · have hclass' : newItem.primaryIdentifier = 0x04000000 := hclass
    rw [hrun, Ends, Exchanges, Takes, if_pos hclass', if_pos hclass', toNat_withMeseta, hmeseta,
      ← hpaid]
    refine and_congr ?_ (by dsimp only; omega)
    simp only [gained, if_pos hclass', Nat.add_zero]
    rfl
  · have hclass' : newItem.primaryIdentifier ≠ 0x04000000 := hclass
    rw [hrun, Ends, Exchanges, Takes, if_neg hclass', if_neg hclass', hadds.meseta_eq, hmeseta,
      ← hpaid]
    refine and_congr ?_ (iff_of_true rfl hroom)
    simp only [gained_of_not_meseta hclass', stock_adds hadds, portion_withId, quantity_withId,
      Nat.add_right_comm, Nat.add_right_cancel_iff]
  · have hclass' : newItem.primaryIdentifier ≠ 0x04000000 := hclass
    rw [hrun, Ends, Takes, if_neg hclass']
    exact iff_of_false (not_kept_takenFrom hsplit hworn hfilled) fun h => hroom h.2

/-! The payment is put back. -/

theorem kind_handedOver
    (hsplit : splits amount limits (self.inventory.items.get y).data = .ok part)
    (hworn : part = true → (self.inventory.items.get y).isEquipped = false) :
    kind limits (handedOver amount part (self.inventory.items.get y)) =
      kind limits (settled (self.inventory.items.get y)).data := by
  cases part with
  | true =>
      obtain ⟨hstacks, -, -⟩ := splits_eq_true.mp hsplit
      rw [handedOver, if_pos rfl, kind_withId, settled_of_not_equipped (hworn rfl)]
      exact (kind_congr (primaryIdentifier_withByte_five _ _).symm hstacks).symm
  | false =>
      rw [handedOver, if_neg Bool.false_ne_true, settled_data]

theorem portion_handedOver (k : UInt32 ⊕ ItemData)
    (hsplit : splits amount limits (self.inventory.items.get y).data = .ok part)
    (hworn : part = true → (self.inventory.items.get y).isEquipped = false) :
    portion limits k (handedOver amount part (self.inventory.items.get y))
        ((handedOver amount part (self.inventory.items.get y)).quantity limits) =
      portion limits k (settled (self.inventory.items.get y)).data
        (requested limits amount (self.inventory.items.get y).data) := by
  rw [(taken_handedOver hsplit).quantity_eq]
  exact portion_congr (kind_handedOver hsplit hworn) _

/-- Whether or not it can be added again, the payment is back exactly if the
removal can be undone. -/
theorem refunded_iff
    (hsplit : splits amount limits (self.inventory.items.get y).data = .ok part)
    (hworn : part = true → (self.inventory.items.get y).isEquipped = false)
    (hfilled : FilledWithinLimit limits (self.inventory.items.get y).data) :
    Ends (Kept limits self) (Kept limits self)
        ((addItem (handedOver amount part (self.inventory.items.get y)) limits).run
          (takenFrom amount part self y)) ↔
      Refunds limits amount part self y := by
  have hkind := (taken_handedOver hsplit).primaryIdentifier_eq
  have hlost := not_kept_takenFrom hsplit hworn hfilled
  rcases addItem_cases limits (handedOver amount part (self.inventory.items.get y))
      (takenFrom amount part self y) with
    ⟨hclass, hrun⟩ | ⟨hclass, hroom, self', hadds, hrun⟩ | ⟨hclass, hroom, what, hrun⟩
  · rw [hrun, Ends]
    refine iff_of_false (fun h => hlost ⟨h.1, meseta_takenFrom amount part self y⟩) ?_
    rintro ⟨hitem, -, -⟩
    exact hitem (hkind.symm.trans hclass)
  · rw [hrun, Ends]
    constructor
    · rintro ⟨hstock, -⟩
      refine ⟨fun h => hclass (hkind.trans h), hroom, fun hunwraps => ?_⟩
      obtain rfl := part_eq_false_of_unwraps hunwraps hworn
      obtain ⟨d, hunit, hsome, hnone⟩ := exists_unwrapped limits hunwraps
      have hback := hstock (kind limits d)
      rw [stock_adds hadds, hnone, portion_handedOver _ hsplit hworn, portion,
        if_neg (kind_ne_of_unwraps hunwraps hunit).symm] at hback
      omega
    · rintro ⟨-, -, hkept⟩
      refine ⟨fun k => ?_, hadds.meseta_eq.trans (meseta_takenFrom amount part self y)⟩
      rw [stock_adds hadds, portion_handedOver k hsplit hworn]
      exact stock_takenFrom y hsplit hworn (.inl hkept)
  · rw [hrun, Ends]
    refine iff_of_false hlost ?_
    rintro ⟨-, hback, -⟩
    exact hroom hback

/-! Meseta is removed instead of an entry, under the ID that stands for it. -/

/-- Meseta that has been removed can be put back. -/
def RefundsMeseta (amount : UInt32) (self : PSOBBCharacterFile) : Prop :=
  if amount ≤ self.meseta then self.meseta ≤ 999999 else self.meseta = 999999

theorem withoutMeseta_eq_iff :
    (withoutMeseta amount self).meseta = self.meseta ↔ amount = 0 ∨ self.meseta = 0 := by
  unfold withoutMeseta
  dsimp only
  rw [← UInt32.toNat_inj, ← UInt32.toNat_inj, ← UInt32.toNat_inj, UInt32.toNat_zero]
  split
  · rename_i henough
    have hle := UInt32.le_iff_toNat_le.mp henough
    rw [UInt32.toNat_sub_of_le _ _ henough]
    omega
  · rename_i hpoor
    have hlt := UInt32.lt_iff_toNat_lt.mp (UInt32.not_le.mp hpoor)
    rw [UInt32.toNat_zero]
    omega

theorem withMeseta_withoutMeseta_iff :
    (withMeseta amount (withoutMeseta amount self)).meseta = self.meseta ↔
      RefundsMeseta amount self := by
  rw [← UInt32.toNat_inj, toNat_withMeseta, RefundsMeseta, withoutMeseta]
  have hlimit : (999999 : UInt32).toNat = 999999 := rfl
  split
  · rename_i henough
    have hle := UInt32.le_iff_toNat_le.mp henough
    rw [UInt32.toNat_sub_of_le _ _ henough, UInt32.le_iff_toNat_le]
    omega
  · rename_i hpoor
    have hlt := UInt32.lt_iff_toNat_lt.mp (UInt32.not_le.mp hpoor)
    rw [UInt32.toNat_zero, ← UInt32.toNat_inj]
    omega

theorem refunded_meseta_iff :
    Ends (Kept limits self) (Kept limits self)
        ((addItem (mesetaItem amount) limits).run (withoutMeseta amount self)) ↔
      RefundsMeseta amount self := by
  have hclass : (mesetaItem amount).primaryIdentifier = 0x04000000 := rfl
  rw [run_addItem_meseta hclass, ← withMeseta_withoutMeseta_iff]
  exact ⟨fun h => h.2, fun h => ⟨fun _ => rfl, h⟩⟩

/-- Then only a price of nothing has been paid. -/
theorem exchanged_meseta_iff {x : Fin self.inventory.items.length}
    (hfound : (self.inventory.items.get x).data.primaryIdentifier = primaryIdentifier)
    (hprice : ∀ paid ∈ self.inventory.items, price paid.data = 0 →
      price (self.inventory.items.get x).data = 0)
    (hfree : price (self.inventory.items.get x).data = 0 → amount = 0) (newId : UInt32) :
    Ends (Exchanges limits primaryIdentifier price newItem self) (Kept limits self)
        ((addItem { newItem with id := newId } limits).run (withoutMeseta amount self)) ↔
      (Arrives limits newItem self →
        price (self.inventory.items.get x).data = 0 ∧ Takes limits newItem self) ∧
      (¬ Arrives limits newItem self → amount = 0 ∨ self.meseta = 0) := by
  have hpaid : (∃ paid ∈ self.inventory.items,
      paid.data.primaryIdentifier = primaryIdentifier ∧
        ∀ k, portion limits k (settled paid).data (price paid.data) = 0) ↔
      price (self.inventory.items.get x).data = 0 := by
    constructor
    · rintro ⟨paid, hmem, -, hnone⟩
      have hzero := hnone (kind limits (settled paid).data)
      rw [portion_self] at hzero
      exact hprice paid hmem hzero
    · intro hzero
      refine ⟨_, List.get_mem _ x, hfound, fun k => ?_⟩
      rw [hzero, portion, ite_self]
  have hsame : price (self.inventory.items.get x).data = 0 →
      (withoutMeseta amount self).meseta = self.meseta :=
    fun h => withoutMeseta_eq_iff.mpr (.inl (hfree h))
  rcases addItem_cases limits { newItem with id := newId } (withoutMeseta amount self) with
    ⟨hclass, hrun⟩ | ⟨hclass, hroom, self', hadds, hrun⟩ | ⟨hclass, hroom, what, hrun⟩
  · have hclass' : newItem.primaryIdentifier = 0x04000000 := hclass
    have harrives : Arrives limits newItem self := .inl hclass'
    simp only [harrives, true_implies, not_true_eq_false, false_implies, and_true]
    rw [hrun, Ends, Exchanges, Takes, if_pos hclass', if_pos hclass', toNat_withMeseta]
    constructor
    · rintro ⟨⟨paid, hmem, hpid, hstock⟩, hsum⟩
      have hzero : price (self.inventory.items.get x).data = 0 := by
        refine hpaid.mp ⟨paid, hmem, hpid, fun k => ?_⟩
        have hat := hstock k
        rw [gained, if_pos hclass'] at hat
        exact Nat.add_left_cancel hat
      rw [hsame hzero] at hsum
      dsimp only at hsum
      exact ⟨hzero, by omega⟩
    · rintro ⟨hzero, hsum⟩
      obtain ⟨paid, hmem, hpid, hnone⟩ := hpaid.mpr hzero
      rw [hsame hzero]
      refine ⟨⟨paid, hmem, hpid, fun k => ?_⟩, by dsimp only; omega⟩
      rw [hnone k, gained, if_pos hclass']
      rfl
  · have hclass' : newItem.primaryIdentifier ≠ 0x04000000 := hclass
    have harrives : Arrives limits newItem self := .inr hroom
    simp only [harrives, true_implies, not_true_eq_false, false_implies, and_true]
    rw [hrun, Ends, Exchanges, Takes, if_neg hclass', if_neg hclass', hadds.meseta_eq]
    have hstock : ∀ k, stock limits k self'.inventory.items =
        stock limits k self.inventory.items + gained limits k newItem := by
      intro k
      rw [stock_adds hadds, portion_withId, quantity_withId, gained_of_not_meseta hclass']
      rfl
    constructor
    · rintro ⟨⟨paid, hmem, hpid, hlost⟩, -⟩
      refine ⟨hpaid.mp ⟨paid, hmem, hpid, fun k => ?_⟩, hroom⟩
      have hat := hlost k
      rw [hstock k] at hat
      exact Nat.add_left_cancel hat
    · rintro ⟨hzero, -⟩
      obtain ⟨paid, hmem, hpid, hnone⟩ := hpaid.mpr hzero
      refine ⟨⟨paid, hmem, hpid, fun k => ?_⟩, congrArg UInt32.toNat (hsame hzero)⟩
      rw [hnone k, hstock k]
      rfl
  · have harrives : ¬ Arrives limits newItem self := by
      rintro (hmeseta | hplace)
      · exact hclass hmeseta
      · exact hroom hplace
    simp only [harrives, false_implies, not_false_eq_true, true_implies, true_and]
    rw [hrun, Ends, ← withoutMeseta_eq_iff]
    exact ⟨fun h => h.2, fun h => ⟨fun _ => rfl, h⟩⟩

/-! An addition that is refused may be answered by putting the payment back. -/

theorem ends_addItem_of_arrives {item : ItemData} {returned thrown thrown' : PSOBBCharacterFile → Prop}
    (h : Arrives limits item self) :
    Ends returned thrown ((addItem item limits).run self) ↔
      Ends returned thrown' ((addItem item limits).run self) := by
  rcases addItem_cases limits item self with
    ⟨hclass, hrun⟩ | ⟨hclass, hroom, self', hadds, hrun⟩ | ⟨hclass, hroom, what, hrun⟩
  · rw [hrun]
    rfl
  · rw [hrun]
    rfl
  · exact absurd h (not_or.mpr ⟨hclass, hroom⟩)

theorem ends_addItem_of_not_arrives {item : ItemData} {returned thrown : PSOBBCharacterFile → Prop}
    (h : ¬ Arrives limits item self) :
    Ends returned thrown ((addItem item limits).run self) ↔ thrown self := by
  rcases addItem_cases limits item self with
    ⟨hclass, hrun⟩ | ⟨hclass, hroom, self', hadds, hrun⟩ | ⟨hclass, hroom, what, hrun⟩
  · exact absurd (.inl hclass) h
  · exact absurd (.inr hroom) h
  · rw [hrun]
    rfl

/-- Putting the payment back replaces what it is to leave it unchanged. -/
theorem ends_addItem_refunding {item : ItemData}
    {returned thrown thrown' : PSOBBCharacterFile → Prop} {exact' back : Prop}
    (hexact : Ends returned thrown' ((addItem item limits).run self) ↔ exact')
    (hback : thrown self ↔ back) :
    Ends returned thrown ((addItem item limits).run self) ↔
      (Arrives limits item self → exact') ∧ (¬ Arrives limits item self → back) := by
  by_cases harrives : Arrives limits item self
  · rw [ends_addItem_of_arrives harrives, hexact]
    exact ⟨fun h => ⟨fun _ => h, fun hnot => absurd harrives hnot⟩, fun h => h.1 harrives⟩
  · rw [ends_addItem_of_not_arrives harrives, hback]
    exact ⟨fun h => ⟨fun hnot => absurd hnot harrives, fun _ => h⟩, fun h => h.2 harrives⟩

end HuntersGuild.ExchangePayments
