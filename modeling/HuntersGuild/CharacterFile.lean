import HuntersGuild.InventoryOperations

/-!
Adding items to a character file and removing them from it.
-/

namespace HuntersGuild.CharacterFile

open HuntersGuild.ExceptionRules
open HuntersGuild.InventoryOperations
open HuntersGuild.Items
open HuntersGuild.StatefulPrograms

/-- The inventory, and the meseta on hand from the display data. -/
structure PSOBBCharacterFile where
  meseta : UInt32
  inventory : PlayerInventory
deriving DecidableEq

def addMeseta (amount : UInt32) : EStateM Exception PSOBBCharacterFile Unit :=
  modify fun self =>
    { self with meseta := (min (self.meseta.toNat + amount.toNat) 999999).toUInt32 }

def removeMeseta (amount : UInt32) (allowOverdraft : Bool) :
    EStateM Exception PSOBBCharacterFile Unit := do
  let self ← get
  if amount ≤ self.meseta then
    modify fun self => { self with meseta := self.meseta - amount }
  else if allowOverdraft then
    modify fun self => { self with meseta := 0 }
  else
    throw (.outOfRange "player does not have enough meseta")

def withItems (items : List PlayerInventoryItem) (self : PSOBBCharacterFile) :
    PSOBBCharacterFile :=
  { self with inventory := ⟨items⟩ }

def addItem (item : ItemData) (limits : StackLimits) :
    EStateM Exception PSOBBCharacterFile Unit := do
  let primaryIdentifier := item.primaryIdentifier
  if primaryIdentifier = 0x04000000 then
    addMeseta item.data2d
  else
    let combineMax ← fromExcept (item.maxStackSize limits)
    let self ← get
    match findStack PlayerInventoryItem.data primaryIdentifier combineMax self.inventory.items with
    | some y =>
        let stack := self.inventory.items.get y
        let newStackSize := stack.data.data1[5].toNat + item.data1[5].toNat
        if combineMax < newStackSize then
          throw (.outOfRange "stack is too large")
        else
          modify (withItems (self.inventory.items.set y
            { stack with data := stack.data.withByte 5 newStackSize.toUInt8 }))
    | none =>
        if 30 ≤ self.inventory.items.length then
          throw (.outOfRange "inventory is full")
        else
          modify (withItems (self.inventory.items ++ [⟨1, 0, 0, item⟩]))

def removeItem (itemId amount : UInt32) (limits : StackLimits) :
    EStateM Exception PSOBBCharacterFile ItemData := do
  if itemId = 0xFFFFFFFF then
    removeMeseta amount !(isV4 limits.version)
    return { ItemData.cleared.withByte 0 4 with data2d := amount }
  else
    let self ← get
    let index ← fromExcept (self.inventory.findItem itemId)
    let inventoryItem := self.inventory.items.get index
    let isEquipped := inventoryItem.isEquipped
    if ← fromExcept (splits amount limits inventoryItem.data) then
      if isEquipped then
        throw (.runtimeError "character has a combine item equipped")
      else
        let ret := { inventoryItem.data.withByte 5 amount.toUInt8 with id := 0xFFFFFFFF }
        modify (withItems (self.inventory.items.set index { inventoryItem with
          data := inventoryItem.data.withByte 5
            (inventoryItem.data.data1[5] - amount.toUInt8) }))
        return ret
    else
      -- taking it off changes an equipped unit itself, and an armor only other entries
      let ret := if isEquipped then inventoryItem.takenOff.data else inventoryItem.data
      let inventory :=
        if isEquipped then self.inventory.unequipItemIndex index else self.inventory
      modify (withItems (inventory.items.eraseIdx index))
      return ret

/-! What the two calls do when they return. -/

/-- An item that is not meseta is merged into a stack or takes a free entry. -/
inductive Adds (item : ItemData) (limits : StackLimits) (self : PSOBBCharacterFile) :
    PSOBBCharacterFile → Prop
  | merged (combineMax : Nat) (y : Fin self.inventory.items.length)
      (hmax : item.maxStackSize limits = .ok combineMax)
      (hfind : findStack PlayerInventoryItem.data item.primaryIdentifier combineMax
        self.inventory.items = some y)
      (hfits : (self.inventory.items.get y).data.data1[5].toNat + item.data1[5].toNat ≤ combineMax) :
      Adds item limits self (withItems (self.inventory.items.set y
        { (self.inventory.items.get y) with
          data := (self.inventory.items.get y).data.withByte 5
            ((self.inventory.items.get y).data.data1[5].toNat + item.data1[5].toNat).toUInt8 }) self)
  | appended (combineMax : Nat) (hmax : item.maxStackSize limits = .ok combineMax)
      (hnew : findStack PlayerInventoryItem.data item.primaryIdentifier combineMax
        self.inventory.items = none)
      (hroom : self.inventory.items.length < 30) :
      Adds item limits self (withItems (self.inventory.items ++ [⟨1, 0, 0, item⟩]) self)

/-- A part of a stack, or a whole entry. -/
inductive Removes (itemId amount : UInt32) (limits : StackLimits) (self : PSOBBCharacterFile) :
    ItemData → PSOBBCharacterFile → Prop
  | part (index : Fin self.inventory.items.length)
      (hfind : self.inventory.findItem itemId = .ok index)
      (hpart : splits amount limits (self.inventory.items.get index).data = .ok true)
      (hunequipped : (self.inventory.items.get index).isEquipped = false) :
      Removes itemId amount limits self
        { (self.inventory.items.get index).data.withByte 5 amount.toUInt8 with id := 0xFFFFFFFF }
        (withItems (self.inventory.items.set index { (self.inventory.items.get index) with
          data := (self.inventory.items.get index).data.withByte 5
            ((self.inventory.items.get index).data.data1[5] - amount.toUInt8) }) self)
  | entry (index : Fin self.inventory.items.length)
      (hfind : self.inventory.findItem itemId = .ok index)
      (hwhole : splits amount limits (self.inventory.items.get index).data = .ok false)
      (hunequipped : (self.inventory.items.get index).isEquipped = false) :
      Removes itemId amount limits self (self.inventory.items.get index).data
        (withItems (self.inventory.items.eraseIdx index) self)
  | equippedEntry (index : Fin self.inventory.items.length)
      (hfind : self.inventory.findItem itemId = .ok index)
      (hwhole : splits amount limits (self.inventory.items.get index).data = .ok false)
      (hequipped : (self.inventory.items.get index).isEquipped = true) :
      Removes itemId amount limits self (self.inventory.items.get index).takenOff.data
        (withItems ((self.inventory.unequipItemIndex index).items.eraseIdx index) self)

variable {item : ItemData} {limits : StackLimits} {self self' : PSOBBCharacterFile}
  {itemId amount : UInt32}

theorem findItem_eq_ok {inventory : PlayerInventory} {x : Fin inventory.items.length}
    (h : inventory.findItem itemId = .ok x) : (inventory.items.get x).data.id = itemId := by
  unfold PlayerInventory.findItem at h
  split at h
  · rename_i y hy
    obtain rfl := Except.ok.inj h
    simpa using (List.findFinIdx?_eq_some_iff.mp hy).1
  · cases h

theorem findItemByPrimaryIdentifier_eq_ok {inventory : PlayerInventory}
    {primaryIdentifier : UInt32} {x : Fin inventory.items.length}
    (h : inventory.findItemByPrimaryIdentifier primaryIdentifier = .ok x) :
    (inventory.items.get x).data.primaryIdentifier = primaryIdentifier := by
  unfold PlayerInventory.findItemByPrimaryIdentifier at h
  split at h
  · rename_i y hy
    obtain rfl := Except.ok.inj h
    simpa using (List.findFinIdx?_eq_some_iff.mp hy).1
  · cases h

theorem addItem_atomic (item : ItemData) (limits : StackLimits) :
    Atomic (addItem item limits) := by
  unfold addItem
  dsimp only
  split
  · exact (throwless_modify _).atomic
  · refine (readOnly_fromExcept _).bind_atomic fun combineMax => ?_
    refine readOnly_get.bind_atomic fun self => ?_
    split
    · split
      · exact (readOnly_throw _).atomic
      · exact (throwless_modify _).atomic
    · split
      · exact (readOnly_throw _).atomic
      · exact (throwless_modify _).atomic

theorem removeMeseta_atomic (amount : UInt32) (allowOverdraft : Bool) :
    Atomic (removeMeseta amount allowOverdraft) := by
  refine readOnly_get.bind_atomic fun self => ?_
  split
  · exact (throwless_modify _).atomic
  · split
    · exact (throwless_modify _).atomic
    · exact (readOnly_throw _).atomic

theorem removeItem_atomic (itemId amount : UInt32) (limits : StackLimits) :
    Atomic (removeItem itemId amount limits) := by
  unfold removeItem
  dsimp only
  split
  · exact (removeMeseta_atomic amount _).bind_throwless fun _ => throwless_pure _
  · refine readOnly_get.bind_atomic fun self => ?_
    refine (readOnly_fromExcept _).bind_atomic fun index => ?_
    refine (readOnly_fromExcept _).bind_atomic fun part => ?_
    cases part with
    | true =>
        simp only [if_true]
        split
        · exact (readOnly_throw _).atomic
        · exact ((throwless_modify _).bind fun _ => throwless_pure _).atomic
    | false =>
        simp only [Bool.false_eq_true, if_false]
        exact ((throwless_modify _).bind fun _ => throwless_pure _).atomic

theorem addItem_eq_ok (hitem : item.primaryIdentifier ≠ 0x04000000) :
    (addItem item limits).run self = .ok ⟨⟩ self' ↔ Adds item limits self self' := by
  unfold addItem
  dsimp only
  rw [if_neg hitem]
  constructor
  · intro h
    rcases hmax : item.maxStackSize limits with e | combineMax
    · rw [hmax, run_error_bind] at h
      cases h
    rw [hmax, run_ok_bind, run_get_bind] at h
    rcases hfind : findStack PlayerInventoryItem.data item.primaryIdentifier combineMax
        self.inventory.items with - | y
    · simp only [hfind] at h
      by_cases hroom : 30 ≤ self.inventory.items.length
      · rw [if_pos hroom] at h
        cases h
      · rw [if_neg hroom] at h
        cases h
        exact .appended combineMax hmax hfind (Nat.lt_of_not_le hroom)
    · simp only [hfind] at h
      by_cases hfits : combineMax <
          (self.inventory.items.get y).data.data1[5].toNat + item.data1[5].toNat
      · rw [if_pos hfits] at h
        cases h
      · rw [if_neg hfits] at h
        cases h
        exact .merged combineMax y hmax hfind (Nat.le_of_not_lt hfits)
  · intro h
    cases h with
    | merged combineMax y hmax hfind hfits =>
        rw [hmax, run_ok_bind, run_get_bind]
        simp only [hfind, if_neg (Nat.not_lt.mpr hfits)]
        rfl
    | appended combineMax hmax hnew hroom =>
        rw [hmax, run_ok_bind, run_get_bind]
        simp only [hnew, if_neg (Nat.not_le.mpr hroom)]
        rfl

theorem removeItem_eq_ok (hid : itemId ≠ 0xFFFFFFFF) {ret : ItemData} :
    (removeItem itemId amount limits).run self = .ok ret self' ↔
      Removes itemId amount limits self ret self' := by
  unfold removeItem
  dsimp only
  rw [if_neg hid, run_get_bind]
  constructor
  · intro h
    rcases hfind : self.inventory.findItem itemId with e | index
    · rw [hfind, run_error_bind] at h
      cases h
    rw [hfind, run_ok_bind] at h
    rcases hsplit : splits amount limits (self.inventory.items.get index).data with e | part
    · rw [hsplit, run_error_bind] at h
      cases h
    rw [hsplit, run_ok_bind] at h
    cases part with
    | true =>
        rw [if_pos rfl] at h
        by_cases hequipped : (self.inventory.items.get index).isEquipped = true
        · rw [if_pos hequipped] at h
          cases h
        · rw [if_neg hequipped] at h
          cases h
          exact .part index hfind hsplit (Bool.eq_false_iff.mpr hequipped)
    | false =>
        rw [if_neg Bool.false_ne_true] at h
        cases hequipped : (self.inventory.items.get index).isEquipped with
        | true =>
            simp only [hequipped, if_true] at h
            cases h
            exact .equippedEntry index hfind hsplit hequipped
        | false =>
            simp only [hequipped, Bool.false_eq_true, if_false] at h
            cases h
            exact .entry index hfind hsplit hequipped
  · intro h
    cases h with
    | part index hfind hpart hunequipped =>
        rw [hfind, run_ok_bind, hpart, run_ok_bind]
        simp only [hunequipped, Bool.false_eq_true, if_false, if_true]
        rfl
    | entry index hfind hwhole hunequipped =>
        rw [hfind, run_ok_bind, hwhole, run_ok_bind]
        simp only [hunequipped, Bool.false_eq_true, if_false]
        rfl
    | equippedEntry index hfind hwhole hequipped =>
        rw [hfind, run_ok_bind, hwhole, run_ok_bind]
        simp only [hequipped, Bool.false_eq_true, if_false, if_true]
        rfl

theorem run_addItem_meseta (hitem : item.primaryIdentifier = 0x04000000) :
    (addItem item limits).run self = .ok ⟨⟩ { self with
      meseta := (min (self.meseta.toNat + item.data2d.toNat) 999999).toUInt32 } := by
  unfold addItem
  dsimp only
  rw [if_pos hitem]
  rfl

theorem removeMeseta_eq_ok {allowOverdraft : Bool} {r : Unit} :
    (removeMeseta amount allowOverdraft).run self = .ok r self' ↔
      (amount ≤ self.meseta ∨ allowOverdraft = true) ∧
        self' = { self with
          meseta := if amount ≤ self.meseta then self.meseta - amount else 0 } := by
  unfold removeMeseta
  rw [run_get_bind]
  by_cases henough : amount ≤ self.meseta
  · simp only [henough, true_or, true_and]
    exact ⟨fun h => by cases h; rfl, fun h => h ▸ rfl⟩
  · simp only [henough, false_or]
    cases allowOverdraft with
    | false => exact iff_of_false nofun nofun
    | true => exact ⟨fun h => by cases h; exact ⟨rfl, rfl⟩, fun h => h.2 ▸ rfl⟩

/-- Meseta is removed as an item that holds the amount. -/
theorem removeItem_meseta_eq_ok {ret : ItemData} :
    (removeItem 0xFFFFFFFF amount limits).run self = .ok ret self' ↔
      (amount ≤ self.meseta ∨ isV4 limits.version = false) ∧
        self' = { self with
          meseta := if amount ≤ self.meseta then self.meseta - amount else 0 } ∧
        ret = { ItemData.cleared.withByte 0 4 with data2d := amount } := by
  unfold removeItem
  rw [if_pos rfl]
  rcases hrun : (removeMeseta amount !(isV4 limits.version)).run self with ⟨⟨⟩, mid⟩ | ⟨e, mid⟩
  · rw [run_bind_of_ok hrun]
    obtain ⟨hallowed, rfl⟩ := removeMeseta_eq_ok.mp hrun
    rw [Bool.not_eq_true'] at hallowed
    constructor
    · intro h
      cases h
      exact ⟨hallowed, rfl, rfl⟩
    · rintro ⟨-, rfl, rfl⟩
      rfl
  · rw [run_bind_of_error hrun]
    refine iff_of_false nofun ?_
    rintro ⟨hallowed, -, -⟩
    rw [← Bool.not_eq_true'] at hallowed
    have hok : ∃ after, (removeMeseta amount !(isV4 limits.version)).run self = .ok ⟨⟩ after :=
      ⟨_, removeMeseta_eq_ok.mpr ⟨hallowed, rfl⟩⟩
    obtain ⟨after, hafter⟩ := hok
    cases hrun.symm.trans hafter

/-! Quantities. -/

theorem itemData_set (x : Nat) (i : PlayerInventoryItem) :
    (withItems (self.inventory.items.set x i) self).inventory.itemData =
      self.inventory.itemData.set x i.data :=
  List.map_set

theorem itemData_append (i : PlayerInventoryItem) :
    (withItems (self.inventory.items ++ [i]) self).inventory.itemData =
      self.inventory.itemData ++ [i.data] :=
  List.map_append

theorem itemData_eraseIdx (inventory : PlayerInventory) (x : Nat) :
    (withItems (inventory.items.eraseIdx x) self).inventory.itemData =
      inventory.itemData.eraseIdx x :=
  (List.eraseIdx_map _ _ _).symm

theorem getElem?_itemData (inventory : PlayerInventory) (x : Fin inventory.items.length) :
    inventory.itemData[x.val]? = some (inventory.items.get x).data := by
  simp only [PlayerInventory.itemData, List.getElem?_map, List.get_eq_getElem,
    List.getElem?_eq_getElem x.isLt, Option.map_some]

/-- Adding an item adds its quantity. -/
theorem Adds.held (h : Adds item limits self self') (k : UInt32) :
    held limits k self'.inventory.itemData =
      held limits k self.inventory.itemData + amountOf limits k item := by
  cases h with
  | merged combineMax y hmax hfind hfits =>
      obtain ⟨hlt, hkind⟩ := findStack_eq_some hfind
      rw [itemData_set]
      exact held_merge (getElem?_itemData self.inventory y) hkind
        (stacks_iff.mpr ⟨combineMax, hmax, hlt⟩) (toNat_toUInt8_of_le hfits (maxStackSize_lt hmax)) k
  | appended combineMax hmax hnew hroom =>
      rw [itemData_append]
      exact held_append_singleton limits self.inventory.itemData item k

/-- What is removed is what is returned. -/
theorem Removes.held {ret : ItemData} (h : Removes itemId amount limits self ret self')
    (k : UInt32) :
    held limits k self'.inventory.itemData + amountOf limits k ret =
      held limits k self.inventory.itemData := by
  cases h with
  | part index hfind hpart hunequipped =>
      rw [itemData_set]
      exact held_split (getElem?_itemData self.inventory index) hpart k
  | entry index hfind hwhole hunequipped =>
      rw [itemData_eraseIdx]
      exact held_eraseIdx limits (getElem?_itemData self.inventory index) k
  | equippedEntry index hfind hwhole hequipped =>
      rw [itemData_eraseIdx, ← held_unequipItemIndex limits k self.inventory index]
      refine held_eraseIdx limits ?_ k
      have hitem : self.inventory.items[index.val]? = some (self.inventory.items.get index) :=
        List.getElem?_eq_getElem index.isLt
      simp only [PlayerInventory.itemData, List.getElem?_map, getElem?_unequipItemIndex hitem,
        hitem, Option.map_some, true_or, if_true]

/-! When the two calls return. -/

theorem exists_adds_iff :
    (∃ self', Adds item limits self self') ↔
      Accepts PlayerInventoryItem.data 30 limits item item.data1[5].toNat self.inventory.items := by
  constructor
  · rintro ⟨self', h⟩
    cases h with
    | merged combineMax y hmax hfind hfits =>
        refine ⟨combineMax, hmax, ?_⟩
        rw [hfind]
        exact hfits
    | appended combineMax hmax hnew hroom =>
        refine ⟨combineMax, hmax, ?_⟩
        rw [hnew]
        exact hroom
  · rintro ⟨combineMax, hmax, hplace⟩
    rcases hfind : findStack PlayerInventoryItem.data item.primaryIdentifier combineMax
        self.inventory.items with - | y
    · rw [hfind] at hplace
      exact ⟨_, .appended combineMax hmax hfind hplace⟩
    · rw [hfind] at hplace
      exact ⟨_, .merged combineMax y hmax hfind hplace⟩

theorem taken_takenOff (i : PlayerInventoryItem) (h : splits amount limits i.data = .ok false) :
    Taken amount limits i.data i.takenOff.data false where
  splits_eq := h
  primaryIdentifier_eq := primaryIdentifier_takenOff i
  count_eq := by
    unfold PlayerInventoryItem.takenOff
    split
    · simp
    · rfl
  data2d_eq := by
    unfold PlayerInventoryItem.takenOff
    split <;> rfl

theorem Removes.taken {ret : ItemData} (h : Removes itemId amount limits self ret self') :
    ∃ index part, self.inventory.findItem itemId = .ok index ∧
      (part = true → (self.inventory.items.get index).isEquipped = false) ∧
      Taken amount limits (self.inventory.items.get index).data ret part := by
  cases h with
  | part index hfind hpart hunequipped =>
      refine ⟨index, true, hfind, fun _ => hunequipped, hpart, ?_, ?_, rfl⟩
      · rw [primaryIdentifier_withId, primaryIdentifier_withByte_five]
      · rw [if_pos rfl, ← toNat_part_taken hpart]
        exact congrArg UInt8.toNat (data1_withByte_five _ _)
  | entry index hfind hwhole hunequipped =>
      exact ⟨index, false, hfind, fun _ => hunequipped, hwhole, rfl, rfl, rfl⟩
  | equippedEntry index hfind hwhole hequipped =>
      exact ⟨index, false, hfind, fun h => (Bool.false_ne_true h).elim, taken_takenOff _ hwhole⟩

theorem exists_removes {index : Fin self.inventory.items.length} {part : Bool}
    (hfind : self.inventory.findItem itemId = .ok index)
    (hsplit : splits amount limits (self.inventory.items.get index).data = .ok part)
    (hunequipped : part = true → (self.inventory.items.get index).isEquipped = false) :
    ∃ ret self', Removes itemId amount limits self ret self' := by
  cases part with
  | true => exact ⟨_, _, .part index hfind hsplit (hunequipped rfl)⟩
  | false =>
      cases hequipped : (self.inventory.items.get index).isEquipped with
      | true => exact ⟨_, _, .equippedEntry index hfind hsplit hequipped⟩
      | false => exact ⟨_, _, .entry index hfind hsplit hequipped⟩

/-- A removal leaves its mark, even if what it removes counts for nothing. -/
theorem Removes.ne {ret : ItemData} (h : Removes itemId amount limits self ret self') :
    self' ≠ self := by
  intro heq
  have hitems := congrArg (·.inventory.items) heq
  cases h with
  | part index hfind hpart hunequipped =>
      obtain ⟨-, hpos, hless⟩ := splits_eq_true.mp hpart
      have hleft := toNat_part_left hpart
      have hentry := congrArg (·[index.val]?) hitems
      simp only [withItems, List.getElem?_set_self index.isLt, List.getElem?_eq_getElem index.isLt,
        Option.some.injEq] at hentry
      have hcount := congrArg (fun i => i.data.data1[5]) hentry
      simp only [data1_withByte_five] at hcount
      rw [hcount] at hleft
      simp only [List.get_eq_getElem] at hleft hpos hless
      omega
  | entry index hfind hwhole hunequipped =>
      have hlength := congrArg List.length hitems
      simp only [withItems, List.length_eraseIdx_of_lt index.isLt] at hlength
      have := index.isLt
      omega
  | equippedEntry index hfind hwhole hequipped =>
      have hlength := congrArg List.length hitems
      have hlt := index.isLt
      simp only [withItems, List.length_eraseIdx, length_unequipItemIndex, if_pos hlt] at hlength
      omega

theorem Adds.meseta_eq (h : Adds item limits self self') : self'.meseta = self.meseta := by
  cases h <;> rfl

theorem Removes.meseta_eq {ret : ItemData} (h : Removes itemId amount limits self ret self') :
    self'.meseta = self.meseta := by
  cases h <;> rfl

/-- An addition keeps the limits exactly if the item is within its own. -/
theorem Adds.withinLimit_iff (h : Adds item limits self self')
    (hself : ∀ d ∈ self.inventory.itemData, WithinLimit limits d) :
    (∀ d ∈ self'.inventory.itemData, WithinLimit limits d) ↔ WithinLimit limits item := by
  cases h with
  | merged combineMax y hmax hfind hfits =>
      obtain ⟨hlt, hkind⟩ := findStack_eq_some hfind
      have hlimit := maxStackSize_lt hmax
      refine iff_of_true ?_ ?_
      · intro d hd
        rw [itemData_set] at hd
        rcases List.mem_or_eq_of_mem_set hd with hold | rfl
        · exact hself d hold
        · intro n hn hstacks
          rw [data1_withByte_five, toNat_toUInt8_of_le hfits hlimit]
          rw [maxStackSize_of_primaryIdentifier_eq
            ((primaryIdentifier_withByte_five _ _).trans hkind), hmax] at hn
          obtain rfl := Except.ok.inj hn
          exact hfits
      · intro n hn hstacks
        obtain rfl := Except.ok.inj (hmax.symm.trans hn)
        omega
  | appended combineMax hmax hnew hroom =>
      rw [itemData_append]
      constructor
      · intro hall
        exact hall item (by simp)
      · intro hitem d hd
        rcases List.mem_append.mp hd with hold | hsame
        · exact hself d hold
        · rw [List.mem_singleton.mp hsame]
          exact hitem

/-! Bounds of the meseta on hand. -/

theorem toNat_capped (n : Nat) : (min n 999999).toUInt32.toNat = min n 999999 := by
  rw [Nat.toUInt32_eq, UInt32.toNat_ofNat']
  omega

theorem keeps_addMeseta (amount : UInt32) :
    Keeps (fun self : PSOBBCharacterFile => self.meseta ≤ 999999) (addMeseta amount) := by
  refine keeps_modify fun self _ => UInt32.le_iff_toNat_le.mpr ?_
  dsimp only
  rw [toNat_capped]
  exact Nat.min_le_right _ _

theorem keeps_addItem (item : ItemData) (limits : StackLimits) :
    Keeps (fun self : PSOBBCharacterFile => self.meseta ≤ 999999) (addItem item limits) := by
  intro self hself
  by_cases hmeseta : item.primaryIdentifier = 0x04000000
  · rw [addItem]
    dsimp only
    rw [if_pos hmeseta]
    exact keeps_addMeseta item.data2d self hself
  · rcases hadd : (addItem item limits).run self with ⟨⟨⟩, self'⟩ | ⟨e, self'⟩
    · have hadds := (addItem_eq_ok hmeseta).mp hadd
      rw [finalState_ok, hadds.meseta_eq]
      exact hself
    · obtain rfl := addItem_atomic _ _ _ _ _ hadd
      exact hself

theorem keeps_removeMeseta (bound amount : UInt32) (allowOverdraft : Bool) :
    Keeps (fun self : PSOBBCharacterFile => self.meseta ≤ bound)
      (removeMeseta amount allowOverdraft) := by
  intro self hself
  rcases hremove : (removeMeseta amount allowOverdraft).run self with ⟨r, self'⟩ | ⟨e, self'⟩
  · obtain ⟨-, rfl⟩ := removeMeseta_eq_ok.mp hremove
    rw [finalState_ok]
    dsimp only
    split
    · rename_i henough
      have hle := UInt32.le_iff_toNat_le.mp hself
      refine UInt32.le_iff_toNat_le.mpr ?_
      rw [UInt32.toNat_sub_of_le _ _ henough]
      omega
    · exact UInt32.le_iff_toNat_le.mpr (Nat.zero_le _)
  · obtain rfl := removeMeseta_atomic _ _ _ _ _ hremove
    exact hself

theorem keeps_removeItem (bound itemId amount : UInt32) (limits : StackLimits) :
    Keeps (fun self : PSOBBCharacterFile => self.meseta ≤ bound)
      (removeItem itemId amount limits) := by
  intro self hself
  by_cases hid : itemId = 0xFFFFFFFF
  · rw [removeItem, if_pos hid, finalState_bind_pure (f := fun _ => _)]
    exact keeps_removeMeseta bound amount _ self hself
  · rcases hremove : (removeItem itemId amount limits).run self with ⟨ret, self'⟩ | ⟨e, self'⟩
    · have hremoves := (removeItem_eq_ok hid).mp hremove
      rw [finalState_ok, hremoves.meseta_eq]
      exact hself
    · obtain rfl := removeItem_atomic _ _ _ _ _ _ hremove
      exact hself

/-! A removal as a function of the entry that it is about. -/

/-- What the removal of an entry, or of a part of it, hands over. -/
def handedOver (amount : UInt32) (part : Bool) (entry : PlayerInventoryItem) : ItemData :=
  if part then { entry.data.withByte 5 amount.toUInt8 with id := 0xFFFFFFFF }
  else if entry.isEquipped then entry.takenOff.data
  else entry.data

/-- What is left without an entry, or without a part of it. -/
def takenFrom (amount : UInt32) (part : Bool) (self : PSOBBCharacterFile)
    (index : Fin self.inventory.items.length) : PSOBBCharacterFile :=
  if part then
    withItems (self.inventory.items.set index { (self.inventory.items.get index) with
      data := (self.inventory.items.get index).data.withByte 5
        ((self.inventory.items.get index).data.data1[5] - amount.toUInt8) }) self
  else if (self.inventory.items.get index).isEquipped then
    withItems ((self.inventory.unequipItemIndex index).items.eraseIdx index) self
  else
    withItems (self.inventory.items.eraseIdx index) self

theorem taken_handedOver {part : Bool} {entry : PlayerInventoryItem}
    (h : splits amount limits entry.data = .ok part) :
    Taken amount limits entry.data (handedOver amount part entry) part := by
  unfold handedOver
  cases part with
  | true =>
      rw [if_pos rfl]
      refine ⟨h, ?_, ?_, rfl⟩
      · rw [primaryIdentifier_withId, primaryIdentifier_withByte_five]
      · rw [if_pos rfl, ← toNat_part_taken h]
        exact congrArg UInt8.toNat (data1_withByte_five _ _)
  | false =>
      rw [if_neg Bool.false_ne_true]
      split
      · exact taken_takenOff entry h
      · exact ⟨h, rfl, rfl, rfl⟩

theorem removes_iff {ret : ItemData} :
    Removes itemId amount limits self ret self' ↔
      ∃ index part, self.inventory.findItem itemId = .ok index ∧
        splits amount limits (self.inventory.items.get index).data = .ok part ∧
        (part = true → (self.inventory.items.get index).isEquipped = false) ∧
        ret = handedOver amount part (self.inventory.items.get index) ∧
        self' = takenFrom amount part self index := by
  constructor
  · intro h
    cases h with
    | part index hfind hpart hunequipped =>
        exact ⟨index, true, hfind, hpart, fun _ => hunequipped, rfl, rfl⟩
    | entry index hfind hwhole hunequipped =>
        have hworn := Bool.eq_false_iff.mp hunequipped
        refine ⟨index, false, hfind, hwhole, fun _ => hunequipped, ?_, ?_⟩
        · rw [handedOver, if_neg Bool.false_ne_true, if_neg hworn]
        · rw [takenFrom, if_neg Bool.false_ne_true, if_neg hworn]
    | equippedEntry index hfind hwhole hequipped =>
        refine ⟨index, false, hfind, hwhole, nofun, ?_, ?_⟩
        · rw [handedOver, if_neg Bool.false_ne_true, if_pos hequipped]
        · rw [takenFrom, if_neg Bool.false_ne_true, if_pos hequipped]
  · rintro ⟨index, part, hfind, hsplit, hallowed, rfl, rfl⟩
    cases part with
    | true => exact .part index hfind hsplit (hallowed rfl)
    | false =>
        rw [handedOver, takenFrom, if_neg Bool.false_ne_true, if_neg Bool.false_ne_true]
        cases hequipped : (self.inventory.items.get index).isEquipped with
        | true => exact .equippedEntry index hfind hsplit hequipped
        | false => exact .entry index hfind hsplit hequipped

end HuntersGuild.CharacterFile
