import HuntersGuild.InventoryConservation

/-!
The stock of an inventory: how much there is of each kind of item. Items that
form stacks are of a kind by their primary identifiers, and all others by their
data, apart from the ID and from being worn.
-/

namespace HuntersGuild.ItemStocks

open HuntersGuild.CharacterFile
open HuntersGuild.InventoryConservation
open HuntersGuild.InventoryOperations
open HuntersGuild.Items
open HuntersGuild.KeyedTotals

def kind (limits : StackLimits) (d : ItemData) : UInt32 ⊕ ItemData :=
  match d.isStackable limits with
  | .ok true => .inl d.primaryIdentifier
  | _ => .inr { d with id := 0 }

/-- So many units of the kind of an item. -/
def portion (limits : StackLimits) (k : UInt32 ⊕ ItemData) (d : ItemData) (n : Nat) : Nat :=
  if kind limits d = k then n else 0

def stock (limits : StackLimits) (k : UInt32 ⊕ ItemData) (items : List PlayerInventoryItem) :
    Nat :=
  total (fun i => kind limits (settled i).data) (fun i => (settled i).data.quantity limits) k
    items

/-- Removing a worn armor takes the flags of units that are not worn. -/
def Unwraps (self : PSOBBCharacterFile) (index : Fin self.inventory.items.length) : Prop :=
  (self.inventory.items.get index).isEquipped = true ∧
    (self.inventory.items.get index).data.isArmor = true ∧
    ∃ i ∈ self.inventory.items, i.data.isUnit = true ∧ i.isEquipped = false ∧ i.data.data1[4] ≠ 0

variable {limits : StackLimits} {k : UInt32 ⊕ ItemData}

theorem kind_of_stacks {d : ItemData} (h : d.Stacks limits) :
    kind limits d = .inl d.primaryIdentifier := by
  unfold kind
  rw [show d.isStackable limits = .ok true from h]

theorem kind_of_not_stacks {d : ItemData} (h : ¬ d.Stacks limits) :
    kind limits d = .inr { d with id := 0 } := by
  unfold kind
  split
  · rename_i hstacks
    exact absurd hstacks h
  · rfl

theorem kind_congr {x y : ItemData} (hkind : x.primaryIdentifier = y.primaryIdentifier)
    (hx : x.Stacks limits) : kind limits x = kind limits y := by
  rw [kind_of_stacks hx, hkind,
    kind_of_stacks ((stacks_of_primaryIdentifier_eq hkind limits).mp hx)]

/-- An item and the same item under another ID are of one kind. -/
theorem kind_withId (d : ItemData) (newId : UInt32) :
    kind limits { d with id := newId } = kind limits d := by
  by_cases h : d.Stacks limits
  · exact (kind_congr (primaryIdentifier_withId d newId).symm h).symm
  · have h' : ¬ ({ d with id := newId } : ItemData).Stacks limits :=
      mt (stacks_of_primaryIdentifier_eq (primaryIdentifier_withId d newId) limits).mp h
    rw [kind_of_not_stacks h, kind_of_not_stacks h']

/-- Items of one kind that do not stack are the same but for their IDs. -/
theorem data1_of_kind {x y : ItemData} (h : kind limits x = kind limits y)
    (hy : ¬ y.Stacks limits) : x.data1 = y.data1 := by
  rw [kind_of_not_stacks hy] at h
  by_cases hx : x.Stacks limits
  · rw [kind_of_stacks hx] at h
    cases h
  · rw [kind_of_not_stacks hx] at h
    have hdata := congrArg ItemData.data1 (Sum.inr.inj h)
    exact hdata

theorem primaryIdentifier_of_kind {x y : ItemData} (h : kind limits x = kind limits y) :
    x.primaryIdentifier = y.primaryIdentifier := by
  by_cases hx : x.Stacks limits <;> by_cases hy : y.Stacks limits
  · rw [kind_of_stacks hx, kind_of_stacks hy] at h
    exact Sum.inl.inj h
  · rw [kind_of_stacks hx, kind_of_not_stacks hy] at h
    cases h
  · rw [kind_of_not_stacks hx, kind_of_stacks hy] at h
    cases h
  · rw [kind_of_not_stacks hx, kind_of_not_stacks hy] at h
    have hdata := congrArg ItemData.primaryIdentifier (Sum.inr.inj h)
    rwa [primaryIdentifier_withId, primaryIdentifier_withId] at hdata

/-! Entries as they are when they are not worn. -/

theorem isUnit_of_stacks {d : ItemData} (h : d.Stacks limits) : d.isUnit = false := by
  obtain ⟨n, hmax, hlt⟩ := stacks_iff.mp h
  by_contra hunit
  have hclass : d.data1[0] = 1 ∧ d.data1[1] = 3 := by
    simpa [ItemData.isUnit] using hunit
  have hone := @maxStackSize_eq_one limits d (by simp [hclass.1])
    (by simp [hclass.1])
  rw [hmax] at hone
  obtain rfl := Except.ok.inj hone
  exact absurd hlt (Nat.lt_irrefl 1)

theorem settled_data (i : PlayerInventoryItem) :
    (settled i).data = if i.isEquipped then i.takenOff.data else i.data := by
  unfold settled
  split <;> rfl

theorem settled_data_of_not_unit {i : PlayerInventoryItem} (h : i.data.isUnit = false) :
    (settled i).data = i.data := by
  rw [settled_data]
  split
  · simp only [PlayerInventoryItem.takenOff, h, Bool.false_eq_true, if_false]
  · rfl

theorem primaryIdentifier_settled (i : PlayerInventoryItem) :
    (settled i).data.primaryIdentifier = i.data.primaryIdentifier := by
  rw [settled_data]
  split
  · exact primaryIdentifier_takenOff i
  · rfl

theorem quantity_settled (i : PlayerInventoryItem) :
    (settled i).data.quantity limits = i.data.quantity limits := by
  have htaken := amountOf_takenOff limits i.data.primaryIdentifier i
  rw [amountOf_eq, amountOf_self, if_pos (primaryIdentifier_takenOff i)] at htaken
  rw [settled_data]
  split
  · exact htaken
  · rfl

theorem isUnit_takenOff (i : PlayerInventoryItem) : i.takenOff.data.isUnit = i.data.isUnit := by
  unfold PlayerInventoryItem.takenOff
  split
  · simp [ItemData.isUnit]
  · rfl

theorem data1_takenOff_four {i : PlayerInventoryItem} (h : i.data.isUnit = true) :
    i.takenOff.data.data1[4] = 0 := by
  simp [PlayerInventoryItem.takenOff, h]

theorem isUnit_settled (i : PlayerInventoryItem) : (settled i).data.isUnit = i.data.isUnit := by
  rw [settled_data]
  split
  · exact isUnit_takenOff i
  · rfl

theorem settled_of_not_equipped {i : PlayerInventoryItem} (h : i.isEquipped = false) :
    settled i = i := by
  unfold settled
  rw [if_neg (Bool.eq_false_iff.mp h)]

theorem settled_new (item : ItemData) : settled ⟨1, 0, 0, item⟩ = ⟨1, 0, 0, item⟩ :=
  settled_of_not_equipped (show decide ((0 : UInt32) &&& 8 ≠ 0) = false from by decide)

theorem portion_self (limits : StackLimits) (d : ItemData) (n : Nat) :
    portion limits (kind limits d) d n = n := if_pos rfl

theorem portion_add (d : ItemData) (m n : Nat) :
    portion limits k d (m + n) = portion limits k d m + portion limits k d n := by
  unfold portion
  split <;> rfl

theorem portion_congr {x y : ItemData} (h : kind limits x = kind limits y) (n : Nat) :
    portion limits k x n = portion limits k y n := by
  unfold portion
  rw [h]

/-! Changes of the stock. -/

theorem stock_congr {items items' : List PlayerInventoryItem}
    (h : items.map settled = items'.map settled) : stock limits k items = stock limits k items' := by
  have hmap : ∀ l : List PlayerInventoryItem, stock limits k l =
      ((l.map settled).map (share (fun i : PlayerInventoryItem => kind limits i.data)
        (fun i => i.data.quantity limits) k)).sum := by
    intro l
    rw [List.map_map]
    rfl
  rw [hmap, hmap, h]

theorem stock_eraseIdx (items : List PlayerInventoryItem) (x : Fin items.length) :
    stock limits k (items.eraseIdx x) +
        portion limits k (settled (items.get x)).data ((items.get x).data.quantity limits) =
      stock limits k items := by
  rw [← quantity_settled]
  exact total_eraseIdx items x x.isLt

theorem stock_append (items : List PlayerInventoryItem) (item : ItemData) :
    stock limits k (items ++ [⟨1, 0, 0, item⟩]) =
      stock limits k items + portion limits k item (item.quantity limits) := by
  refine (total_append _ _).trans ?_
  rw [total_cons, total_nil, share, settled_new]
  rfl

/-- A stack with another count. -/
theorem stock_set (items : List PlayerInventoryItem) (x : Fin items.length)
    (h : (items.get x).data.Stacks limits) (v : UInt8) :
    stock limits k (items.set x { (items.get x) with data := (items.get x).data.withByte 5 v }) +
        portion limits k (items.get x).data (items.get x).data.data1[5].toNat =
      stock limits k items + portion limits k (items.get x).data v.toNat := by
  have hkind := primaryIdentifier_withByte_five (items.get x).data v
  have hstacks : ((items.get x).data.withByte 5 v).Stacks limits :=
    (stacks_of_primaryIdentifier_eq hkind limits).mpr h
  have hset := @total_set _ _ _ (fun i => kind limits (settled i).data)
    (fun i => (settled i).data.quantity limits) k items x x.isLt
    { (items.get x) with data := (items.get x).data.withByte 5 v }
  have hshare : ∀ i : PlayerInventoryItem, i.data.Stacks limits →
      share (fun i => kind limits (settled i).data)
          (fun i => (settled i).data.quantity limits) k i =
        portion limits k i.data i.data.data1[5].toNat := by
    intro i hi
    rw [share, quantity_settled, settled_data_of_not_unit (isUnit_of_stacks hi),
      quantity_of_stacks hi]
    rfl
  have hnew := hshare { (items.get x) with data := (items.get x).data.withByte 5 v } hstacks
  rw [data1_withByte_five, portion_congr (kind_congr hkind hstacks)] at hnew
  rw [hnew] at hset
  have hold := hshare (items.get x) h
  simp only [List.get_eq_getElem] at hold hset ⊢
  rw [hold] at hset
  exact hset

/-! Removals and additions. -/

/-- Taking off an entry touches no kinds but those of units. -/
theorem stock_unequipItemIndex {inventory : PlayerInventory} (x : Fin inventory.items.length)
    (hworn : (inventory.items.get x).isEquipped = true)
    (hunits : ∀ d : ItemData, d.isUnit = true → kind limits d ≠ k) :
    stock limits k ((inventory.unequipItemIndex x).items.eraseIdx x) =
      stock limits k (inventory.items.eraseIdx x) := by
  have hitem : inventory.items[x.val]? = some (inventory.items.get x) :=
    List.getElem?_eq_getElem x.isLt
  unfold stock total
  rw [← List.eraseIdx_map, ← List.eraseIdx_map]
  congr 2
  refine List.ext_getElem? fun y => ?_
  simp only [List.getElem?_map, getElem?_unequipItemIndex hitem, Option.map_map]
  rcases hy : inventory.items[y]? with - | i
  · rfl
  simp only [Option.map_some, Option.some.injEq, Function.comp_apply]
  split
  · rename_i htaken
    obtain rfl | ⟨-, hunit⟩ := htaken
    · obtain rfl : i = inventory.items.get x := by
        rw [List.getElem?_eq_getElem x.isLt] at hy
        exact (Option.some.inj hy).symm
      have hsettled : settled (inventory.items.get x).takenOff = settled (inventory.items.get x) := by
        rw [settled_takenOff, settled, if_pos hworn]
      simp only [share, hsettled]
    · have hne : ∀ j : PlayerInventoryItem, j.data.isUnit = true →
          share (fun i => kind limits (settled i).data)
            (fun i => (settled i).data.quantity limits) k j = 0 :=
        fun j hj => share_of_ne (hunits _ ((isUnit_settled j).trans hj))
      rw [hne i hunit, hne i.takenOff ((isUnit_takenOff i).trans hunit)]
  · rfl

variable {self self' : PSOBBCharacterFile} {item : ItemData} {amount : UInt32} {part : Bool}

theorem stock_adds (h : Adds item limits self self') :
    stock limits k self'.inventory.items =
      stock limits k self.inventory.items + portion limits k item (item.quantity limits) := by
  cases h with
  | merged combineMax y hmax hfind hfits =>
      obtain ⟨hlt, hkind⟩ := findStack_eq_some hfind
      have hitem : item.Stacks limits := stacks_iff.mpr ⟨combineMax, hmax, hlt⟩
      have hstack := (stacks_of_primaryIdentifier_eq hkind limits).mpr hitem
      have hset := stock_set (k := k) self.inventory.items y hstack
        ((self.inventory.items.get y).data.data1[5].toNat + item.data1[5].toNat).toUInt8
      rw [toNat_toUInt8_of_le hfits (maxStackSize_lt hmax), portion_add] at hset
      rw [quantity_of_stacks hitem, ← portion_congr (kind_congr hkind hstack)]
      refine Nat.add_right_cancel (hset.trans ?_)
      omega
  | appended combineMax hmax hnew hroom => exact stock_append _ _

/-- A removal takes what was requested, and nothing of another kind unless it
unwraps units. -/
theorem stock_takenFrom (y : Fin self.inventory.items.length)
    (hsplit : splits amount limits (self.inventory.items.get y).data = .ok part)
    (hworn : part = true → (self.inventory.items.get y).isEquipped = false)
    (hkept : ¬ Unwraps self y ∨ ∀ d : ItemData, d.isUnit = true → kind limits d ≠ k) :
    stock limits k (takenFrom amount part self y).inventory.items +
        portion limits k (settled (self.inventory.items.get y)).data
          (requested limits amount (self.inventory.items.get y).data) =
      stock limits k self.inventory.items := by
  rw [requested_eq hsplit]
  cases part with
  | true =>
      obtain ⟨hstacks, hpos, hless⟩ := splits_eq_true.mp hsplit
      have hset := stock_set (k := k) self.inventory.items y hstacks
        ((self.inventory.items.get y).data.data1[5] - amount.toUInt8)
      have hcount : (self.inventory.items.get y).data.data1[5].toNat =
          ((self.inventory.items.get y).data.data1[5] - amount.toUInt8).toNat + amount.toNat := by
        rw [toNat_part_left hsplit]
        omega
      rw [hcount, portion_add] at hset
      rw [if_pos rfl, settled_of_not_equipped (hworn rfl), takenFrom, if_pos rfl]
      refine Nat.add_right_cancel (Eq.trans ?_ hset)
      simp only [withItems]
      omega
  | false =>
      rw [if_neg Bool.false_ne_true, takenFrom, if_neg Bool.false_ne_true]
      cases hequipped : (self.inventory.items.get y).isEquipped with
      | false => exact stock_eraseIdx _ y
      | true =>
          have hitem : self.inventory.items[y.val]? = some (self.inventory.items.get y) :=
            List.getElem?_eq_getElem y.isLt
          have herase : stock limits k ((self.inventory.unequipItemIndex y).items.eraseIdx y) =
              stock limits k (self.inventory.items.eraseIdx y) := by
            obtain hunwraps | hunits := hkept
            · refine stock_congr ((othersKept_unequipItemIndex hitem).mpr ?_)
              rintro ⟨harmor, hunits⟩
              exact hunwraps ⟨hequipped, harmor, hunits⟩
            · exact stock_unequipItemIndex y hequipped hunits
          rw [if_pos rfl]
          simp only [withItems]
          rw [herase]
          exact stock_eraseIdx _ y

/-- Unwrapped units are of another kind than before. -/
theorem exists_unwrapped (limits : StackLimits) {y : Fin self.inventory.items.length}
    (h : Unwraps self y) :
    ∃ d : ItemData, d.isUnit = true ∧ 0 < stock limits (kind limits d) self.inventory.items ∧
      stock limits (kind limits d) (takenFrom amount false self y).inventory.items = 0 := by
  obtain ⟨hequipped, harmor, i, hi, hunit, hunequipped, hflags⟩ := h
  have hitem : self.inventory.items[y.val]? = some (self.inventory.items.get y) :=
    List.getElem?_eq_getElem y.isLt
  have hnot : ∀ d : ItemData, d.isUnit = true → ¬ d.Stacks limits := by
    intro d hd hstacks
    rw [isUnit_of_stacks hstacks] at hd
    cases hd
  refine ⟨i.data, hunit, ?_, ?_⟩
  · obtain ⟨z, hz⟩ := List.mem_iff_get.mp hi
    have herase := @stock_eraseIdx limits (kind limits i.data) self.inventory.items z
    rw [show (self.inventory.items.get z) = i from hz, settled_of_not_equipped hunequipped,
      portion_self, quantity_of_not_stacks (hnot i.data hunit)] at herase
    omega
  · rw [takenFrom, if_neg Bool.false_ne_true, if_pos hequipped]
    refine List.sum_eq_zero fun n hn => ?_
    obtain ⟨j, hj, rfl⟩ := List.mem_map.mp hn
    refine share_of_ne fun hkind => ?_
    obtain ⟨z, hz⟩ := List.mem_iff_getElem?.mp (List.mem_of_mem_eraseIdx hj)
    rw [getElem?_unequipItemIndex hitem] at hz
    obtain ⟨old, hold, rfl⟩ := Option.map_eq_some_iff.mp hz
    have hdata := data1_of_kind hkind (hnot i.data hunit)
    generalize hnew : (if z = y.val ∨ (self.inventory.items.get y).data.isArmor = true ∧
      old.data.isUnit = true then old.takenOff else old) = new at hdata
    have hunit' : new.data.isUnit = true := by
      rw [← isUnit_settled, ItemData.isUnit, hdata]
      exact hunit
    split at hnew
    · subst hnew
      rw [settled_takenOff] at hdata
      refine hflags ?_
      rw [← hdata]
      exact data1_takenOff_four ((isUnit_takenOff old).symm.trans hunit')
    · rename_i hkept
      subst hnew
      exact hkept (.inr ⟨harmor, hunit'⟩)

end HuntersGuild.ItemStocks
