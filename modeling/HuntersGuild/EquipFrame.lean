import HuntersGuild.EquipInvariant

/-!
Which entries of an inventory change when something is put on or taken off.
-/

namespace HuntersGuild.EquipFrame

open HuntersGuild.EquipInvariant
open HuntersGuild.ExceptionRules
open HuntersGuild.InventoryOperations
open HuntersGuild.Items
open HuntersGuild.StatefulPrograms

/-- Every entry that is not equipped stays what it is, except at the places
that are free to change. -/
def Framed (free : Nat → Prop) (before after : PlayerInventory) : Prop :=
  ∀ x i, before.items[x]? = some i → i.isEquipped = false → ¬ free x →
    after.items[x]? = some i

/-- The place of the item that is being equipped. -/
def Found (self : PlayerInventory) (itemId : UInt32) (x : Nat) : Prop :=
  ∃ index, self.findItem itemId = .ok index ∧ index.val = x

/-- A unit that is not equipped is no present, and its byte for the slot, which
is also the byte for the wrapping, is zero. -/
def Plain (i : PlayerInventoryItem) : Prop :=
  i.isEquipped = false → i.data.isUnit = true → i.data.data1[4] = 0

/-- An armor is only changed for another one while no unit would lose its
wrapping. -/
def EquipKeeps (self : PlayerInventory) (itemId : UInt32) (slot : EquipSlot) : Prop :=
  ∀ index, self.findItem itemId = .ok index → (self.items.get index).data.isArmor = true →
    (∀ v, slot ≠ .undefined v) → self.hasEquippedItem .armor = .ok true →
    ∀ i ∈ self.items, Plain i

/-- Only what is equipped is taken off, or what has nothing to lose, and an
armor only while no unit would lose its wrapping. -/
def UnequipKeeps (self : PlayerInventory) (itemId : UInt32) : Prop :=
  ∀ index, self.findItem itemId = .ok index → Plain (self.items.get index) ∧
    ((self.items.get index).data.isArmor = true → ∀ i ∈ self.items, Plain i)

variable {slot : EquipSlot} {i : PlayerInventoryItem} {items : List PlayerInventoryItem}
  {self : PlayerInventory}

theorem Framed.refl (free : Nat → Prop) (self : PlayerInventory) : Framed free self self :=
  fun _ _ hi _ _ => hi

/-! What is taken off. -/

theorem takenOff_eq_iff (h : i.isEquipped = false) : i.takenOff = i ↔ Plain i := by
  unfold PlayerInventoryItem.takenOff Plain
  rw [flags_of_not_equipped h]
  constructor
  · intro hsame _ hunit
    have hdata : (i.data.withByte 4 0).data1[4] = i.data.data1[4] :=
      congrArg (fun j : PlayerInventoryItem => j.data.data1[4]) (by simpa [hunit] using hsame)
    simpa using hdata.symm
  · intro hplain
    by_cases hunit : i.data.isUnit = true
    · have hbyte : i.data.withByte 4 0 = i.data := by
        rw [ItemData.withByte, ← hplain h hunit]
        exact congrArg (fun v => { i.data with data1 := v }) (i.data.data1.set_getElem_self (z := 4) (by decide))
      rw [if_pos hunit, hbyte]
    · rw [if_neg hunit]

/-- An entry that is taken off keeps its frame exactly when it is plain. -/
theorem framed_unequipItemIndex_iff {free : Nat → Prop} {index : Nat}
    {item : PlayerInventoryItem} (hitem : self.items[index]? = some item) :
    Framed free self (self.unequipItemIndex index) ↔
      ∀ x i, self.items[x]? = some i → ¬ free x →
        (x = index ∨ item.data.isArmor = true ∧ i.data.isUnit = true) → Plain i := by
  constructor
  · intro hframed x i hi hfree hreached hequipped
    have hsame := hframed x i hi hequipped hfree
    rw [getElem?_unequipItemIndex hitem, hi, Option.map_some, if_pos hreached,
      Option.some.injEq] at hsame
    exact (takenOff_eq_iff hequipped).mp hsame hequipped
  · intro hplain x i hi hequipped hfree
    rw [getElem?_unequipItemIndex hitem, hi, Option.map_some, Option.some.injEq]
    split
    · rename_i hreached
      exact (takenOff_eq_iff hequipped).mpr (hplain x i hi hfree hreached)
    · rfl

theorem finalState_unequipItemId (itemId : UInt32) :
    finalState ((unequipItemId itemId).run self) =
      match self.findItem itemId with
      | .ok index => self.unequipItemIndex index
      | .error _ => self := by
  unfold unequipItemId
  rw [run_get_bind]
  cases self.findItem itemId <;> rfl

theorem framed_unequipItemId_iff (self : PlayerInventory) (itemId : UInt32) :
    Framed (fun _ => False) self (finalState ((unequipItemId itemId).run self)) ↔
      UnequipKeeps self itemId := by
  rw [finalState_unequipItemId]
  unfold UnequipKeeps
  rcases self.findItem itemId with e | index
  · simp only [reduceCtorEq, false_implies, implies_true, iff_true]
    exact Framed.refl _ self
  · have hitem : self.items[index.val]? = some (self.items.get index) :=
      List.getElem?_eq_getElem index.isLt
    simp only [Except.ok.injEq, forall_eq']
    rw [framed_unequipItemIndex_iff hitem]
    constructor
    · intro h
      refine ⟨h index _ hitem id (.inl rfl), fun harmor i hi hequipped hunit => ?_⟩
      obtain ⟨x, hx⟩ := List.mem_iff_getElem?.mp hi
      exact h x i hx id (.inr ⟨harmor, hunit⟩) hequipped hunit
    · rintro ⟨hplain, hunits⟩ x i hi - (rfl | ⟨harmor, -⟩)
      · obtain rfl := Option.some.inj (hitem.symm.trans hi)
        exact hplain
      · exact hunits harmor i (List.mem_of_getElem? hi)

/-! What is put on. -/

theorem findEquippedItemFrom_holds {y z : Nat} {ret : Option Nat}
    (h : findEquippedItemFrom slot y ret items = .ok (some z)) :
    ret = some z ∨ ∃ x i, z = y + x ∧ items[x]? = some i ∧ Holds slot i := by
  induction items generalizing y ret with
  | nil => exact .inl (Except.ok.inj h)
  | cons i items ih =>
      have hlater : (∃ x j, z = y + 1 + x ∧ items[x]? = some j ∧ Holds slot j) →
          ∃ x j, z = y + x ∧ (i :: items)[x]? = some j ∧ Holds slot j := by
        rintro ⟨x, j, rfl, hj, hholds⟩
        exact ⟨x + 1, j, by omega, hj, hholds⟩
      unfold findEquippedItemFrom at h
      obtain ⟨b, hb, h⟩ := bind_eq_ok.mp h
      cases b with
      | false => exact (ih h).imp id hlater
      | true =>
          cases ret with
          | some _ => cases h
          | none =>
              obtain hz | hrest := ih h
              · exact .inr ⟨0, i, (Option.some.inj hz).symm, rfl, hb⟩
              · exact .inr (hlater hrest)

theorem findEquippedItem_holds {y : Nat} (h : self.findEquippedItem slot = .ok y) :
    ∃ i, self.items[y]? = some i ∧ Holds slot i := by
  unfold PlayerInventory.findEquippedItem at h
  obtain ⟨r, hr, h⟩ := bind_eq_ok.mp h
  cases r with
  | none => cases h
  | some z =>
      obtain rfl := Except.ok.inj h
      obtain hz | ⟨x, i, rfl, hi, hholds⟩ := findEquippedItemFrom_holds hr
      · cases hz
      · rw [Nat.zero_add]
        exact ⟨i, hi, hholds⟩

/-- An armor goes in the slot for armors, whatever slot is asked for. -/
theorem equipSlotFor_armor {data : ItemData} (harmor : data.isArmor = true) :
    equipSlotFor slot data = .ok .armor ∨ ∃ v e, slot = .undefined v ∧
      equipSlotFor slot data = .error e := by
  have hclass : data.data1[0] = 1 ∧ data.data1[1] = 1 := by
    simpa [ItemData.isArmor] using harmor
  cases slot <;>
    simp [equipSlotFor, ItemData.canBeEquippedInSlot, ItemData.defaultEquipSlot,
      ItemData.isArmor, ItemData.isShield, ItemData.isUnit, hclass.1, hclass.2]

/-- Only armors share a slot with an armor. -/
theorem isArmor_of_fits {data data' : ItemData} (harmor : data.isArmor = true)
    (h : data.canBeEquippedInSlot slot = .ok true)
    (h' : data'.canBeEquippedInSlot slot = .ok true) : data'.isArmor = true := by
  have hclass : data.data1[0] = 1 ∧ data.data1[1] = 1 := by
    simpa [ItemData.isArmor] using harmor
  cases slot <;>
    simp_all [ItemData.canBeEquippedInSlot, ItemData.isShield, ItemData.isUnit]

/-- The place whose entry is taken off when this entry is put on. -/
def Displaced (self : PlayerInventory) (data : ItemData) (slot : EquipSlot) (y : Nat) : Prop :=
  ∃ slot', equipSlotFor slot data = .ok slot' ∧ self.findEquippedItem slot' = .ok y

/-- What is left of an inventory, beside the entry that is put on, is what
taking off the entry in the slot leaves. -/
theorem getElem?_equipItemIndex {index : Nat} {item : PlayerInventoryItem}
    (hitem : self.items[index]? = some item) :
    (∃ y, Displaced self item.data slot y ∧ ∀ x ≠ index,
        (finalState ((equipItemIndex index slot).run self)).items[x]? =
          (self.unequipItemIndex y).items[x]?) ∨
      (∀ y, ¬ Displaced self item.data slot y) ∧ ∀ x ≠ index,
        (finalState ((equipItemIndex index slot).run self)).items[x]? = self.items[x]? := by
  have hput : ∀ (before : PlayerInventory) (s : EquipSlot) (x : Nat), x ≠ index →
      (before.items.modify index (·.putOn s))[x]? = before.items[x]? :=
    fun before s x hx => List.getElem?_modify_ne _ _ (Ne.symm hx)
  unfold equipItemIndex
  rw [run_get_bind, hitem]
  unfold Displaced
  dsimp only
  rcases equipSlotFor slot item.data with e | s
  · exact .inr ⟨by simp, fun x _ => rfl⟩
  rw [run_ok_bind]
  rcases hfind : self.findEquippedItem s with (what | what) | y
  · have hhas : self.hasEquippedItem s = .ok false := by
      unfold PlayerInventory.hasEquippedItem
      rw [hfind]
    refine .inr ⟨by simp [hfind], fun x hx => ?_⟩
    rw [hhas, run_ok_bind]
    exact hput self s x hx
  · have hhas : self.hasEquippedItem s = .error (.runtimeError what) := by
      unfold PlayerInventory.hasEquippedItem
      rw [hfind]
    refine .inr ⟨by simp [hfind], fun x _ => ?_⟩
    rw [hhas]
    rfl
  · have hhas : self.hasEquippedItem s = .ok true := by
      unfold PlayerInventory.hasEquippedItem
      rw [hfind]
    refine .inl ⟨y, ⟨s, rfl, hfind⟩, fun x hx => ?_⟩
    have hcall : (unequipItemSlot s).run self = .ok ⟨⟩ (self.unequipItemIndex y) := by
      unfold unequipItemSlot
      rw [run_get_bind, hfind, run_ok_bind]
      rfl
    rw [hhas, run_ok_bind, if_pos rfl, run_bind_of_ok hcall]
    exact hput _ s x hx

/-- Which entry is displaced by an armor. -/
theorem displaced_armor_iff {data : ItemData} (harmor : data.isArmor = true) {y : Nat} :
    Displaced self data slot y ↔
      (∀ v, slot ≠ .undefined v) ∧ self.findEquippedItem .armor = .ok y := by
  unfold Displaced
  obtain hok | ⟨v, e, rfl, herror⟩ := @equipSlotFor_armor slot data harmor
  · have hdefined : ∀ v, slot ≠ .undefined v := by
      rintro v rfl
      cases hok
    rw [hok]
    simp [hdefined]
  · rw [herror]
    simp

/-- An armor is displaced by nothing but an armor. -/
theorem exists_displaced {data : ItemData} {y : Nat} (h : Displaced self data slot y) :
    ∃ i, self.items[y]? = some i ∧ i.isEquipped = true ∧
      (i.data.isArmor = true ↔ data.isArmor = true) := by
  obtain ⟨s, hs, hfind⟩ := h
  obtain ⟨i, hi, hholds⟩ := findEquippedItem_holds hfind
  obtain ⟨hequipped, hfits, -⟩ := holds_iff.mp hholds
  exact ⟨i, hi, hequipped, fun harmor => isArmor_of_fits harmor hfits (equipSlotFor_fits hs),
    fun harmor => isArmor_of_fits harmor (equipSlotFor_fits hs) hfits⟩

theorem hasEquippedItem_iff :
    self.hasEquippedItem slot = .ok true ↔ ∃ y, self.findEquippedItem slot = .ok y := by
  unfold PlayerInventory.hasEquippedItem
  rcases self.findEquippedItem slot with (what | what) | y <;> simp

/-- Beside the entry that is put on, the frame holds exactly when no armor with
wrapped units under it is displaced. -/
theorem framed_equipItemIndex_iff {index : Nat} {item : PlayerInventoryItem}
    (hitem : self.items[index]? = some item) :
    Framed (index = ·) self (finalState ((equipItemIndex index slot).run self)) ↔
      (item.data.isArmor = true → (∀ v, slot ≠ .undefined v) →
        self.hasEquippedItem .armor = .ok true → ∀ i ∈ self.items, Plain i) := by
  have hframed : ∀ after after' : PlayerInventory,
      (∀ x ≠ index, after.items[x]? = after'.items[x]?) →
        (Framed (index = ·) self after ↔ Framed (index = ·) self after') := by
    intro after after' hsame
    refine forall₄_congr fun x i _ _ => forall_congr' fun hx => ?_
    rw [hsame x (Ne.symm hx)]
  rw [hasEquippedItem_iff]
  obtain ⟨y, hdisplaced, hafter⟩ | ⟨hnone, hafter⟩ :=
    @getElem?_equipItemIndex slot self index item hitem
  · obtain ⟨holder, hholder, hequipped, harmor⟩ := exists_displaced hdisplaced
    rw [hframed _ _ hafter, framed_unequipItemIndex_iff hholder, harmor]
    constructor
    · intro h hisArmor _ _ i hi hoff hunit
      obtain ⟨x, hx⟩ := List.mem_iff_getElem?.mp hi
      refine h x i hx (fun heq => ?_) (.inr ⟨hisArmor, hunit⟩) hoff hunit
      -- a unit is no armor, so it is not the entry that is put on
      subst heq
      obtain rfl := Option.some.inj (hitem.symm.trans hx)
      simp_all [ItemData.isArmor, ItemData.isUnit]
    · rintro h x i hi - (rfl | ⟨hisArmor, -⟩)
      · obtain rfl := Option.some.inj (hholder.symm.trans hi)
        intro hoff
        rw [hequipped] at hoff
        cases hoff
      · have hfound := (displaced_armor_iff hisArmor).mp hdisplaced
        exact h hisArmor hfound.1 ⟨y, hfound.2⟩ i (List.mem_of_getElem? hi)
  · rw [hframed _ _ hafter]
    constructor
    · rintro - hisArmor hdefined ⟨y, hy⟩
      exact absurd ((displaced_armor_iff hisArmor).mpr ⟨hdefined, hy⟩) (hnone y)
    · exact fun _ => Framed.refl _ self

theorem framed_equipItemId_iff (self : PlayerInventory) (itemId : UInt32) (slot : EquipSlot) :
    Framed (Found self itemId) self (finalState ((equipItemId itemId slot).run self)) ↔
      EquipKeeps self itemId slot := by
  unfold equipItemId EquipKeeps Found
  rw [run_get_bind]
  rcases self.findItem itemId with e | index
  · simp only [reduceCtorEq, false_and, exists_false, false_implies, implies_true, iff_true]
    exact Framed.refl _ self
  · have hitem : self.items[index.val]? = some (self.items.get index) :=
      List.getElem?_eq_getElem index.isLt
    rw [run_ok_bind]
    simp only [Except.ok.injEq, forall_eq', exists_eq_left']
    exact framed_equipItemIndex_iff hitem

/-- Which calls of `equip_item_id` and `unequip_item_id` change nothing about
the entries that are not equipped. -/
theorem framed_iff (self : PlayerInventory) (itemId : UInt32) (slot : EquipSlot) :
    (Framed (Found self itemId) self (finalState ((equipItemId itemId slot).run self)) ↔
        EquipKeeps self itemId slot) ∧
      (Framed (fun _ => False) self (finalState ((unequipItemId itemId).run self)) ↔
        UnequipKeeps self itemId) :=
  ⟨framed_equipItemId_iff self itemId slot, framed_unequipItemId_iff self itemId⟩

/-- An armor that is worn, and a unit that is a present. -/
def withPresent : PlayerInventory :=
  ⟨[⟨1, 0, 8, .ofClass 1 1 1⟩, ⟨1, 0, 0, (ItemData.ofClass 1 3 2).withByte 4 0x45⟩]⟩

/-- When the armor is taken off, or put on again, the present is not wrapped any
more. -/
theorem not_framed_withPresent :
    ¬ ∀ (self : PlayerInventory) (itemId : UInt32) (slot : EquipSlot),
      Framed (Found self itemId) self (finalState ((equipItemId itemId slot).run self)) ∧
        Framed (fun _ => False) self (finalState ((unequipItemId itemId).run self)) := by
  intro h
  have hsame := (h withPresent 1 .armor).2 1 _ rfl (by decide) id
  exact absurd hsame (by decide +kernel)

end HuntersGuild.EquipFrame
