import HuntersGuild.Items
import HuntersGuild.StatefulPrograms

/-!
The inventory of a player, with the equipment.
-/

namespace HuntersGuild.InventoryOperations

open HuntersGuild.ExceptionRules
open HuntersGuild.Items
open HuntersGuild.StatefulPrograms

structure PlayerInventoryItem where
  present : UInt8
  unknownA1 : UInt8
  flags : UInt32
  data : ItemData
deriving DecidableEq

/-- The first `num_items` entries; nothing reads the entries after them. -/
structure PlayerInventory where
  items : List PlayerInventoryItem
deriving DecidableEq

def PlayerInventory.itemData (self : PlayerInventory) : List ItemData :=
  self.items.map (·.data)

def PlayerInventoryItem.isEquipped (self : PlayerInventoryItem) : Bool := self.flags &&& 8 ≠ 0

def PlayerInventory.findItem (self : PlayerInventory) (itemId : UInt32) :
    Except Exception (Fin self.items.length) :=
  match self.items.findFinIdx? (fun i => i.data.id = itemId) with
  | some x => .ok x
  | none => .error (.outOfRange "item not present")

def PlayerInventory.findItemByPrimaryIdentifier (self : PlayerInventory)
    (primaryIdentifier : UInt32) : Except Exception (Fin self.items.length) :=
  match self.items.findFinIdx? (fun i => i.data.primaryIdentifier = primaryIdentifier) with
  | some x => .ok x
  | none => .error (.outOfRange "item not present")

/-- Units of the same kind share four slots; the one they are in is part of
their data. -/
def inUnitSlot (slot : EquipSlot) (data : ItemData) : Bool :=
  match slot with
  | .unit1 => data.data1[4] = 0
  | .unit2 => data.data1[4] = 1
  | .unit3 => data.data1[4] = 2
  | .unit4 => data.data1[4] = 3
  | _ => true

/-- Whether an entry holds a slot. -/
def PlayerInventoryItem.holds (self : PlayerInventoryItem) (slot : EquipSlot) :
    Except Exception Bool := do
  if !self.isEquipped then
    return false
  else if !(← self.data.canBeEquippedInSlot slot) then
    return false
  else
    return inUnitSlot slot self.data

def findEquippedItemFrom (slot : EquipSlot) (y : Nat) (ret : Option Nat) :
    List PlayerInventoryItem → Except Exception (Option Nat)
  | [] => return ret
  | i :: items => do
      if ← i.holds slot then
        match ret with
        | none => findEquippedItemFrom slot (y + 1) (some y) items
        | some _ => throw (.runtimeError "multiple items are equipped in the same slot")
      else
        findEquippedItemFrom slot (y + 1) ret items

def PlayerInventory.findEquippedItem (slot : EquipSlot) (self : PlayerInventory) :
    Except Exception Nat := do
  match ← findEquippedItemFrom slot 0 none self.items with
  | some y => return y
  | none => throw (.outOfRange "no item is equipped in this slot")

def PlayerInventory.hasEquippedItem (slot : EquipSlot) (self : PlayerInventory) :
    Except Exception Bool :=
  match self.findEquippedItem slot with
  | .ok _ => .ok true
  | .error (.outOfRange _) => .ok false
  | .error e => .error e

/-- An entry that is not worn any more. -/
def PlayerInventoryItem.takenOff (self : PlayerInventoryItem) : PlayerInventoryItem :=
  { self with
    flags := self.flags &&& ~~~8
    data := if self.data.isUnit then self.data.withByte 4 0 else self.data }

/-- Without an armor there is no place for units. -/
def PlayerInventory.unequipItemIndex (index : Nat) (self : PlayerInventory) :
    PlayerInventory :=
  match self.items[index]? with
  | none => self
  | some item =>
      if item.data.isArmor then
        ⟨(self.items.set index item.takenOff).map fun unit =>
          if unit.data.isUnit then unit.takenOff else unit⟩
      else
        ⟨self.items.set index item.takenOff⟩

def unequipItemId (itemId : UInt32) : EStateM Exception PlayerInventory PUnit := do
  let self ← get
  let index ← fromExcept (self.findItem itemId)
  modify (·.unequipItemIndex index)

def unequipItemSlot (slot : EquipSlot) : EStateM Exception PlayerInventory PUnit := do
  let self ← get
  let index ← fromExcept (self.findEquippedItem slot)
  modify (·.unequipItemIndex index)

/-- `static_cast<uint8_t>(slot) - 9` for the slots of units. -/
def unitNumber : EquipSlot → UInt8
  | .unit2 => 1
  | .unit3 => 2
  | .unit4 => 3
  | _ => 0

def PlayerInventoryItem.putOn (slot : EquipSlot) (self : PlayerInventoryItem) :
    PlayerInventoryItem :=
  { self with
    flags := self.flags ||| 8
    data := if self.data.isUnit then self.data.withByte 4 (unitNumber slot)
      else self.data }

/-- The slot that is used when the client asks for this one. -/
def equipSlotFor (slot : EquipSlot) (data : ItemData) : Except Exception EquipSlot := do
  if slot = .unknown then
    data.defaultEquipSlot
  else if !(← data.canBeEquippedInSlot slot) then
    data.defaultEquipSlot
  else
    return slot

def equipItemIndex (index : Nat) (slot : EquipSlot) :
    EStateM Exception PlayerInventory PUnit := do
  let self ← get
  match self.items[index]? with
  | none => throw (.outOfRange "array index out of bounds")
  | some item =>
      let slot ← fromExcept (equipSlotFor slot item.data)
      if ← fromExcept (self.hasEquippedItem slot) then
        unequipItemSlot slot
      modify fun self => ⟨self.items.modify index (·.putOn slot)⟩

def equipItemId (itemId : UInt32) (slot : EquipSlot) :
    EStateM Exception PlayerInventory PUnit := do
  let self ← get
  let index ← fromExcept (self.findItem itemId)
  equipItemIndex index slot

/-- The number of entries of a type that have been removed. -/
def removeAllItemsOfType (data1_0 : UInt8) (data1_1 : Int16) :
    EStateM Exception PlayerInventory Nat := do
  let self ← get
  let items := self.items.filter fun i =>
    ¬ (i.data.data1[0] = data1_0 ∧
      (data1_1 < 0 ∨ i.data.data1[1] = data1_1.toUInt16.toUInt8))
  set (⟨items⟩ : PlayerInventory)
  return self.items.length - items.length

/-! What taking an entry off changes, which is neither its kind nor its count. -/

theorem isEquipped_takenOff (i : PlayerInventoryItem) : i.takenOff.isEquipped = false := by
  have hflags : (i.flags &&& ~~~8) &&& 8 = 0 := by
    rw [UInt32.and_assoc, show (~~~8 &&& 8 : UInt32) = 0 from by decide, UInt32.and_zero]
  simp [PlayerInventoryItem.isEquipped, PlayerInventoryItem.takenOff, hflags]

theorem flags_of_not_equipped {i : PlayerInventoryItem} (h : i.isEquipped = false) :
    i.flags &&& ~~~8 = i.flags := by
  have hzero : i.flags &&& 8 = 0 := by simpa [PlayerInventoryItem.isEquipped] using h
  calc i.flags &&& ~~~8 = (i.flags &&& ~~~8) ||| (i.flags &&& 8) := by rw [hzero, UInt32.or_zero]
    _ = i.flags &&& (~~~8 ||| 8) := (UInt32.eq_of_toBitVec_eq BitVec.and_or_distrib_left).symm
    _ = i.flags := by rw [show (~~~8 ||| 8 : UInt32) = -1 from by decide, UInt32.and_neg_one]

theorem primaryIdentifier_takenOff (i : PlayerInventoryItem) :
    i.takenOff.data.primaryIdentifier = i.data.primaryIdentifier := by
  unfold PlayerInventoryItem.takenOff
  split
  · rename_i hunit
    have hclass : i.data.data1[0] = 1 ∧ i.data.data1[1] = 3 := by
      simpa [ItemData.isUnit] using hunit
    exact primaryIdentifier_withByte_four (by rw [hclass.1]; decide) 0
  · rfl

theorem amountOf_takenOff (limits : StackLimits) (k : UInt32) (i : PlayerInventoryItem) :
    amountOf limits k i.takenOff.data = amountOf limits k i.data := by
  refine amountOf_congr (primaryIdentifier_takenOff i) ?_ limits k
  unfold PlayerInventoryItem.takenOff
  split <;> simp

/-- Taking an entry off takes off that entry and, for an armor, every unit. -/
theorem getElem?_unequipItemIndex {self : PlayerInventory} {index : Nat}
    {item : PlayerInventoryItem} (hitem : self.items[index]? = some item) (x : Nat) :
    (self.unequipItemIndex index).items[x]? = self.items[x]?.map fun i =>
      if x = index ∨ item.data.isArmor = true ∧ i.data.isUnit = true then i.takenOff
      else i := by
  have hset : (self.items.set index item.takenOff)[x]? =
      self.items[x]?.map fun i => if x = index then i.takenOff else i := by
    obtain ⟨hlt, -⟩ := List.getElem?_eq_some_iff.mp hitem
    by_cases hx : x = index
    · subst hx
      simp only [List.getElem?_set_self hlt, hitem, if_true, Option.map_some]
    · simp only [List.getElem?_set_ne (Ne.symm hx), if_neg hx, Option.map_id']
  unfold PlayerInventory.unequipItemIndex
  simp only [hitem]
  by_cases harmor : item.data.isArmor = true
  · rw [if_pos harmor, List.getElem?_map, hset, Option.map_map]
    rcases hi : self.items[x]? with - | i
    · rfl
    simp only [Option.map_some, Function.comp_apply, harmor, true_and, Option.some.injEq]
    by_cases hx : x = index
    · subst hx
      obtain rfl : i = item := Option.some.inj (hi.symm.trans hitem)
      have hnot : i.takenOff.data.isUnit = false := by
        have hclass : i.data.data1[0] = 1 ∧ i.data.data1[1] = 1 := by
          simpa [ItemData.isArmor] using harmor
        simp [PlayerInventoryItem.takenOff, ItemData.isUnit, hclass.1, hclass.2]
      simp [hnot]
    · simp [hx]
  · rw [if_neg harmor, hset]
    simp only [harmor, Bool.false_eq_true, false_and, or_false]

theorem length_unequipItemIndex (self : PlayerInventory) (index : Nat) :
    (self.unequipItemIndex index).items.length = self.items.length := by
  unfold PlayerInventory.unequipItemIndex
  cases self.items[index]? with
  | none => rfl
  | some item =>
      dsimp only
      split <;> simp

theorem itemData_unequipItemIndex_map {β : Type} {f : ItemData → β}
    (hf : ∀ i : PlayerInventoryItem, f i.takenOff.data = f i.data) (self : PlayerInventory)
    (index : Nat) :
    (self.unequipItemIndex index).itemData.map f = self.itemData.map f := by
  rcases hitem : self.items[index]? with - | item
  · simp only [PlayerInventory.unequipItemIndex, hitem]
  · refine List.ext_getElem? fun x => ?_
    simp only [PlayerInventory.itemData, List.getElem?_map, getElem?_unequipItemIndex hitem,
      Option.map_map]
    congr 1
    funext i
    simp only [Function.comp_apply]
    split
    · exact hf i
    · rfl

/-- What is held does not depend on what is equipped. -/
theorem held_unequipItemIndex (limits : StackLimits) (k : UInt32) (self : PlayerInventory)
    (index : Nat) :
    held limits k (self.unequipItemIndex index).itemData = held limits k self.itemData :=
  congrArg List.sum (itemData_unequipItemIndex_map (amountOf_takenOff limits k) self index)

end HuntersGuild.InventoryOperations
