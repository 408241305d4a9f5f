import HuntersGuild.CharacterFile
import HuntersGuild.CheckedLoops
import Mathlib.Data.Finset.Card

/-!
The order in which a player keeps the items of the inventory, which the client
chooses.
-/

namespace HuntersGuild.InventorySorting

open HuntersGuild.CharacterFile (findItem_eq_ok)
open HuntersGuild.CheckedLoops
open HuntersGuild.ExceptionRules
open HuntersGuild.InventoryOperations
open HuntersGuild.Items
open HuntersGuild.StatefulPrograms

/-- An entry as it is stored. The extension data is not about the item: it
belongs to the place in the array. -/
structure InventorySlot where
  extensionData1 : UInt8
  extensionData2 : UInt8
  item : PlayerInventoryItem
deriving DecidableEq

structure StoredInventory where
  numItems : UInt8
  slots : Vector InventorySlot 30
deriving DecidableEq

/-- The first `num_items` entries. -/
def StoredInventory.inventory (self : StoredInventory) : PlayerInventory :=
  ⟨(self.slots.toList.take self.numItems.toNat).map (·.item)⟩

/-- Other items in the places, with the extension data as it is. -/
def StoredInventory.withItems (sorted : Vector PlayerInventoryItem 30) (self : StoredInventory) :
    StoredInventory :=
  { self with
    slots := Vector.zipWith (fun slot item => { slot with item := item }) self.slots sorted }

/-- What the client puts in the places after its items. -/
def noItem : UInt32 := 0xFFFFFFFF

def listedIds (itemIds : Vector UInt32 30) : List UInt32 :=
  itemIds.toList.filter (· ≠ noItem)

def eraseEach : List UInt32 → Finset UInt32 → Except Exception (Finset UInt32)
  | [], sortedItemIds => return sortedItemIds
  | id :: ids, sortedItemIds =>
      if id ∈ sortedItemIds then
        eraseEach ids (sortedItemIds.erase id)
      else
        throw (.runtimeError "inventory contains item ID not present in sorted array")

/-- The checks of the handler. They compare the array with itself and with the
number of items, not with the ids in the inventory. -/
def checkSortedIds (itemIds : Vector UInt32 30) (numItems : UInt8) : Except Exception PUnit := do
  let sortedItemIds := (listedIds itemIds).toFinset
  if sortedItemIds.card ≠ (listedIds itemIds).length then
    throw (.runtimeError "sorted array contains duplicate item IDs")
  else if sortedItemIds.card ≠ numItems.toNat then
    throw (.runtimeError
      "sorted array contains a different number of items than the inventory contains")
  else
    let rest ← eraseEach (itemIds.toList.take numItems.toNat) sortedItemIds
    if rest ≠ ∅ then
      throw (.runtimeError "sorted array contains item ID not present in inventory")
    else
      return ⟨⟩

/-- What goes in a place for which the client lists this id. -/
def sortedItem (self : PlayerInventory) (itemId : UInt32) :
    Except Exception PlayerInventoryItem := do
  if itemId = noItem then
    return ⟨0, 0, 0, .cleared⟩
  else
    let index ← self.findItem itemId
    return (self.items.get index)

def onSortInventoryBb (version : Version) (itemIds : Vector UInt32 30) :
    EStateM Exception StoredInventory PUnit := do
  if version ≠ .bbV4 then
    throw (.runtimeError "6xC4 command sent by non-BB client")
  else
    let self ← get
    fromExcept (checkSortedIds itemIds self.numItems)
    let sorted ← fromExcept (itemIds.mapM (sortedItem self.inventory))
    set (self.withItems sorted)

/-- The items of an inventory in the order of an array of ids, and whatever
belongs to the places as it was. -/
structure Rearranged (itemIds : Vector UInt32 30) (before after : StoredInventory) : Prop where
  numItems : after.numItems = before.numItems
  perm : after.inventory.items.Perm before.inventory.items
  order : after.inventory.items.map (·.data.id) = listedIds itemIds
  extensionData1 : after.slots.map (·.extensionData1) = before.slots.map (·.extensionData1)
  extensionData2 : after.slots.map (·.extensionData2) = before.slots.map (·.extensionData2)

variable {itemIds : Vector UInt32 30} {numItems : UInt8} {self : StoredInventory}

/-! What the checks establish. -/

theorem mem_of_eraseEach {ids : List UInt32} {ids' rest : Finset UInt32}
    (h : eraseEach ids ids' = .ok rest) : ∀ id ∈ ids, id ∈ ids' := by
  induction ids generalizing ids' with
  | nil => exact fun id hid => absurd hid List.not_mem_nil
  | cons id ids ih =>
      unfold eraseEach at h
      split at h
      · rename_i hid
        exact List.forall_mem_cons.mpr
          ⟨hid, fun id' hid' => Finset.mem_of_mem_erase (ih h id' hid')⟩
      · cases h

/-- Ids that are all listed, as many as there are listed ones, are the list. -/
theorem take_eq_filter {α : Type} {p : α → Bool} {xs : List α} {n : Nat}
    (hlength : (xs.filter p).length = n) (hp : ∀ x ∈ xs.take n, p x = true) :
    xs.take n = xs.filter p := by
  have hn : n ≤ xs.length := hlength ▸ List.length_filter_le p xs
  have hsplit : xs.filter p = xs.take n ++ (xs.drop n).filter p := by
    calc xs.filter p = (xs.take n ++ xs.drop n).filter p := by rw [List.take_append_drop]
      _ = xs.take n ++ (xs.drop n).filter p := by
          rw [List.filter_append, List.filter_eq_self.mpr hp]
  have hrest : (xs.drop n).filter p = [] := by
    have hlength' := congrArg List.length hsplit
    rw [List.length_append, List.length_take, hlength, Nat.min_eq_left hn] at hlength'
    exact List.length_eq_zero_iff.mp (by omega)
  rw [hsplit, hrest, List.append_nil]

/-- An array that passes begins with the ids that it lists, and lists each once. -/
theorem of_checkSortedIds (h : checkSortedIds itemIds numItems = .ok ⟨⟩) :
    (listedIds itemIds).Nodup ∧ (listedIds itemIds).length = numItems.toNat ∧
      itemIds.toList.take numItems.toNat = listedIds itemIds := by
  unfold checkSortedIds at h
  dsimp only at h
  split at h
  · cases h
  rename_i hduplicate
  split at h
  · cases h
  rename_i hnumber
  obtain ⟨rest, hrest, -⟩ := bind_eq_ok.mp h
  have hcard := not_not.mp hduplicate
  have hlength : (listedIds itemIds).length = numItems.toNat := hcard ▸ not_not.mp hnumber
  refine ⟨Multiset.toFinset_card_eq_card_iff_nodup.mp hcard, hlength, take_eq_filter hlength ?_⟩
  intro id hid
  have hmem := List.mem_toFinset.mp (mem_of_eraseEach hrest id hid)
  exact (List.mem_filter.mp hmem).2

/-! What the loop puts in the places. -/

theorem toList_mapM {α β : Type} {f : α → Except Exception β} {n : Nat} {xs : Vector α n}
    {ys : Vector β n} (h : xs.mapM f = .ok ys) : xs.toList.mapM f = .ok ys.toList := by
  have harray : xs.toArray.mapM f = .ok ys.toArray := by
    rw [← Vector.toArray_mapM, h]
    rfl
  rw [Array.mapM_eq_mapM_toList] at harray
  rcases hlist : xs.toArray.toList.mapM f with e | l
  · rw [hlist] at harray
    cases harray
  · rw [hlist] at harray
    exact hlist.trans (congrArg Except.ok (congrArg Array.toList (Except.ok.inj harray)))

theorem of_sortedItem {inventory : PlayerInventory} {itemId : UInt32} {i : PlayerInventoryItem}
    (hid : itemId ≠ noItem) (h : sortedItem inventory itemId = .ok i) :
    i ∈ inventory.items ∧ i.data.id = itemId := by
  unfold sortedItem at h
  rw [if_neg hid] at h
  obtain ⟨index, hfind, h⟩ := bind_eq_ok.mp h
  obtain rfl := Except.ok.inj h
  exact ⟨List.get_mem _ index, findItem_eq_ok hfind⟩

/-- Items with different keys, all from a list that is no longer, are a
permutation of it. -/
theorem perm_of_keys {α β : Type} {key : α → β} {xs ys : List α} (hkeys : (xs.map key).Nodup)
    (hmem : ∀ x ∈ xs, x ∈ ys) (hlength : ys.length ≤ xs.length) : xs.Perm ys :=
  (List.subperm_of_subset (hkeys.of_map key) hmem).perm_of_length_le hlength

theorem items_of_mapM {inventory : PlayerInventory} {ids : List UInt32}
    {items : List PlayerInventoryItem} (h : ids.mapM (sortedItem inventory) = .ok items)
    (hids : ∀ id ∈ ids, id ≠ noItem) :
    items.map (·.data.id) = ids ∧ ∀ i ∈ items, i ∈ inventory.items := by
  have hsorted := mapM_eq_ok_iff.mp h
  clear h
  induction hsorted with
  | nil => exact ⟨rfl, fun i hi => absurd hi List.not_mem_nil⟩
  | cons hhead _ ih =>
      obtain ⟨hid, htail⟩ := List.forall_mem_cons.mp hids
      obtain ⟨hmem, rfl⟩ := of_sortedItem hid hhead
      obtain ⟨horder, hall⟩ := ih htail
      exact ⟨by rw [List.map_cons, horder], List.forall_mem_cons.mpr ⟨hmem, hall⟩⟩

theorem length_inventory (h : self.numItems.toNat ≤ 30) :
    self.inventory.items.length = self.numItems.toNat := by
  simp [StoredInventory.inventory, h]

@[simp] theorem numItems_withItems (sorted : Vector PlayerInventoryItem 30)
    (self : StoredInventory) : (self.withItems sorted).numItems = self.numItems := rfl

theorem inventory_withItems (sorted : Vector PlayerInventoryItem 30) (self : StoredInventory) :
    (self.withItems sorted).inventory = ⟨sorted.toList.take self.numItems.toNat⟩ := by
  have hitems : (self.withItems sorted).slots.map (·.item) = sorted := by
    ext z hz
    simp [StoredInventory.withItems]
  unfold StoredInventory.inventory
  rw [List.map_take, ← Vector.toList_map, hitems, numItems_withItems]

theorem rearranged_withItems {sorted : Vector PlayerInventoryItem 30}
    (hcheck : checkSortedIds itemIds self.numItems = .ok ⟨⟩)
    (hsorted : itemIds.mapM (sortedItem self.inventory) = .ok sorted) :
    Rearranged itemIds self (self.withItems sorted) := by
  obtain ⟨hnodup, hlength, htake⟩ := of_checkSortedIds hcheck
  have hnumber : self.numItems.toNat ≤ 30 := by
    calc self.numItems.toNat = (listedIds itemIds).length := hlength.symm
      _ ≤ itemIds.toList.length := List.length_filter_le _ _
      _ = 30 := Vector.length_toList
  have hlisted : ∀ id ∈ listedIds itemIds, id ≠ noItem := by
    intro id hid
    simpa using (List.mem_filter.mp hid).2
  have hplaced : (listedIds itemIds).mapM (sortedItem self.inventory) =
      .ok (sorted.toList.take self.numItems.toNat) := by
    rw [← htake, mapM_eq_ok_iff]
    exact List.forall₂_take _ (mapM_eq_ok_iff.mp (toList_mapM hsorted))
  obtain ⟨horder, hmem⟩ := items_of_mapM hplaced hlisted
  refine ⟨rfl, ?_, ?_, ?_, ?_⟩
  · rw [inventory_withItems]
    refine perm_of_keys (horder ▸ hnodup) hmem ?_
    rw [length_inventory hnumber, List.length_take, Vector.length_toList, Nat.min_eq_left hnumber]
  · rw [inventory_withItems]
    exact horder
  · ext z hz
    simp [StoredInventory.withItems]
  · ext z hz
    simp [StoredInventory.withItems]

/-- Sorting an inventory either throws and changes nothing, or rearranges the
items in the order that the client listed. -/
theorem rearranged_of_onSortInventoryBb (version : Version) (itemIds : Vector UInt32 30)
    (self : StoredInventory) :
    Ends (Rearranged itemIds self) (· = self) ((onSortInventoryBb version itemIds).run self) := by
  unfold onSortInventoryBb
  by_cases hversion : version = .bbV4
  · rw [if_neg (not_not.mpr hversion), run_get_bind]
    rcases hcheck : checkSortedIds itemIds self.numItems with e | ⟨⟩
    · exact rfl
    rw [run_ok_bind]
    rcases hsorted : itemIds.mapM (sortedItem self.inventory) with e | sorted
    · exact rfl
    exact rearranged_withItems hcheck hsorted
  · rw [if_pos hversion]
    exact rfl

/-- Three items, of which the last two change places. -/
example :
    let i : UInt32 → PlayerInventoryItem := fun id => ⟨1, 0, 0, .ofClass 0 1 id⟩
    let self : StoredInventory :=
      ⟨3, Vector.ofFn fun z => ⟨z.val.toUInt8, 0, i (10 + z.val.toUInt32)⟩⟩
    let ids := ((Vector.replicate 30 noItem).set 0 10).set 1 12 |>.set 2 11
    (finalState ((onSortInventoryBb .bbV4 ids).run self)).inventory.items = [i 10, i 12, i 11] := by
  decide +kernel

end HuntersGuild.InventorySorting
