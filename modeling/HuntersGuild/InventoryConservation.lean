import HuntersGuild.CallTrace
import HuntersGuild.CharacterFile

/-!
No item is lost, duplicated or changed by adding and removing items.
-/

namespace HuntersGuild.InventoryConservation

open HuntersGuild.CallTrace
open HuntersGuild.CharacterFile
open HuntersGuild.InventoryOperations
open HuntersGuild.Items
open HuntersGuild.StatefulPrograms

inductive Op where
  | addItem (item : ItemData)
  | removeItem (itemId amount : UInt32)

def program (limits : StackLimits) :
    Op → EStateM Exception PSOBBCharacterFile (Option ItemData)
  | .addItem item => do
      addItem item limits
      return none
  | .removeItem itemId amount => do
      return some (← removeItem itemId amount limits)

/-- A run goes on after an exception. -/
def call (limits : StackLimits) (op : Op) (self : PSOBBCharacterFile) :
    Except Exception (Except Exception (Option ItemData) × PSOBBCharacterFile) :=
  attempt (program limits op) self

/-- Meseta has an identifier of its own in both calls. -/
def NotMeseta : Op → Prop
  | .addItem item => item.primaryIdentifier ≠ 0x04000000
  | .removeItem itemId _ => itemId ≠ 0xFFFFFFFF

instance : DecidablePred NotMeseta
  | .addItem item => inferInstanceAs (Decidable (item.primaryIdentifier ≠ 0x04000000))
  | .removeItem itemId _ => inferInstanceAs (Decidable (itemId ≠ 0xFFFFFFFF))

/-- An entry as it is when it is not worn. -/
def settled (i : PlayerInventoryItem) : PlayerInventoryItem :=
  if i.isEquipped then i.takenOff else i

/-- All entries but the one at an index are the same apart from being worn. -/
def OthersKept (x : Nat) (before after : List PlayerInventoryItem) : Prop :=
  (after.eraseIdx x).map settled = (before.eraseIdx x).map settled

/-- The quantity of an added item is gained, in an entry of its kind. -/
def AddConserves (limits : StackLimits) (item : ItemData) (self self' : PSOBBCharacterFile) :
    Prop :=
  held limits item.primaryIdentifier self'.inventory.itemData =
      held limits item.primaryIdentifier self.inventory.itemData + item.quantity limits ∧
    ∃ x i, self'.inventory.items[x]? = some i ∧
      i.data.primaryIdentifier = item.primaryIdentifier ∧
      OthersKept x self.inventory.items self'.inventory.items

/-- The quantity of the returned item is lost, from the entry that was asked
for: the entry is gone, or it is a smaller stack. -/
def RemoveConserves (limits : StackLimits) (itemId : UInt32) (ret : ItemData)
    (self self' : PSOBBCharacterFile) : Prop :=
  held limits ret.primaryIdentifier self'.inventory.itemData + ret.quantity limits =
      held limits ret.primaryIdentifier self.inventory.itemData ∧
    ∃ index : Fin self.inventory.items.length,
      self.inventory.findItem itemId = .ok index ∧
      (self.inventory.items.get index).data.primaryIdentifier = ret.primaryIdentifier ∧
      (self'.inventory.items.map settled =
          (self.inventory.items.eraseIdx index).map settled ∨
        ∃ i, self'.inventory.items[index.val]? = some i ∧
          i.data.primaryIdentifier = ret.primaryIdentifier ∧
          OthersKept index self.inventory.items self'.inventory.items)

/-- A call that throws changes nothing; one that returns moves exactly what it
is about. -/
def Conserves (limits : StackLimits) (self : PSOBBCharacterFile) (op : Op) : Prop :=
  match op, (program limits op).run self with
  | _, .error _ self' => self' = self
  | .addItem item, .ok _ self' =>
      AddConserves limits item self self' ∧ self'.meseta = self.meseta ∧
        self'.inventory.items.length ≤ 30
  | .removeItem itemId _, .ok ret self' =>
      (∃ item, ret = some item ∧ RemoveConserves limits itemId item self self') ∧
        self'.meseta = self.meseta ∧ self'.inventory.items.length ≤ 30

/-- The call takes off an armor while a unit that is not worn has its flags,
a present's color for instance, where worn units have their slot. -/
def ClearsUnits (self : PSOBBCharacterFile) : Op → Prop
  | .addItem _ => False
  | .removeItem itemId _ =>
      ∃ index : Fin self.inventory.items.length, self.inventory.findItem itemId = .ok index ∧
        (self.inventory.items.get index).isEquipped = true ∧
        (self.inventory.items.get index).data.isArmor = true ∧
        ∃ i ∈ self.inventory.items, i.data.isUnit = true ∧ i.isEquipped = false ∧
          i.data.data1[4] ≠ 0

variable {limits : StackLimits} {self self' : PSOBBCharacterFile}

/-! Entries that are kept. -/

theorem map_eraseIdx_eq_iff {α β : Type} {l l' : List α} (f : α → β) (x : Nat) :
    (l'.eraseIdx x).map f = (l.eraseIdx x).map f ↔
      ∀ y, y ≠ x → l'[y]?.map f = l[y]?.map f := by
  constructor
  · intro h y hy
    by_cases hlt : y < x
    · have hat := congrArg (fun m => m[y]?) h
      simpa only [List.getElem?_map, List.getElem?_eraseIdx_of_lt hlt] using hat
    · obtain ⟨z, rfl⟩ : ∃ z, y = z + 1 := ⟨y - 1, by omega⟩
      have hat := congrArg (fun m => m[z]?) h
      simpa only [List.getElem?_map, List.getElem?_eraseIdx_of_ge (show x ≤ z by omega)]
        using hat
  · intro h
    refine List.ext_getElem? fun y => ?_
    rw [List.getElem?_map, List.getElem?_map]
    by_cases hlt : y < x
    · rw [List.getElem?_eraseIdx_of_lt hlt, List.getElem?_eraseIdx_of_lt hlt]
      exact h y (by omega)
    · rw [List.getElem?_eraseIdx_of_ge (Nat.le_of_not_lt hlt),
        List.getElem?_eraseIdx_of_ge (Nat.le_of_not_lt hlt)]
      exact h (y + 1) (by omega)

theorem settled_takenOff (i : PlayerInventoryItem) : settled i.takenOff = i.takenOff := by
  rw [settled, isEquipped_takenOff, if_neg Bool.false_ne_true]

/-- Taking a unit off is visible unless it was worn or has no flags. -/
theorem takenOff_eq_settled_iff {i : PlayerInventoryItem} (hunit : i.data.isUnit = true) :
    i.takenOff = settled i ↔ i.isEquipped = true ∨ i.data.data1[4] = 0 := by
  cases hequipped : i.isEquipped with
  | true => simp [settled, hequipped]
  | false =>
      have hdata : i.takenOff.data = i.data.withByte 4 0 := by
        simp only [PlayerInventoryItem.takenOff, hunit, if_true]
      simp only [settled, hequipped, Bool.false_eq_true, if_false, false_or]
      constructor
      · intro h
        rw [← congrArg PlayerInventoryItem.data h, hdata]
        simp
      · intro h
        have hset : i.data.data1.set 4 0 = i.data.data1 := by
          rw [← h]
          exact i.data.data1.set_getElem_self (by decide)
        have hkept : i.data.withByte 4 0 = i.data := by
          unfold ItemData.withByte
          exact congrArg (fun v => { i.data with data1 := v }) hset
        calc i.takenOff = { i with flags := i.flags &&& ~~~8, data := i.takenOff.data } := rfl
          _ = i := by rw [hdata, hkept, flags_of_not_equipped hequipped]

/-- Taking an entry off keeps the others, unless it clears units. -/
theorem othersKept_unequipItemIndex {inventory : PlayerInventory} {index : Nat}
    {item : PlayerInventoryItem} (hitem : inventory.items[index]? = some item) :
    OthersKept index inventory.items (inventory.unequipItemIndex index).items ↔
      ¬ (item.data.isArmor = true ∧ ∃ i ∈ inventory.items, i.data.isUnit = true ∧
        i.isEquipped = false ∧ i.data.data1[4] ≠ 0) := by
  rw [OthersKept, map_eraseIdx_eq_iff]
  simp only [getElem?_unequipItemIndex hitem, Option.map_map]
  constructor
  · rintro h ⟨harmor, i, hi, hunit, hunequipped, hflags⟩
    obtain ⟨y, hy⟩ := List.mem_iff_getElem?.mp hi
    have hne : y ≠ index := by
      rintro rfl
      obtain rfl : item = i := Option.some.inj (hitem.symm.trans hy)
      have hclass : item.data.data1[1] = 1 ∧ item.data.data1[1] = 3 := by
        simp_all [ItemData.isArmor, ItemData.isUnit]
      exact absurd (hclass.1.symm.trans hclass.2) (by decide)
    have hat := h y hne
    simp only [hy, Option.map_some, Function.comp_apply, harmor, hunit, and_self, or_true, if_true,
      Option.some.injEq, settled_takenOff] at hat
    obtain hequipped | hzero := (takenOff_eq_settled_iff hunit).mp hat
    · exact absurd (hequipped.symm.trans hunequipped) (by decide)
    · exact hflags hzero
  · intro h y hne
    rcases hy : inventory.items[y]? with - | i
    · rfl
    simp only [Option.map_some, Function.comp_apply, hne, false_or, Option.some.injEq]
    split
    · rename_i htaken
      rw [settled_takenOff, takenOff_eq_settled_iff htaken.2]
      by_contra hvisible
      rw [not_or, Bool.not_eq_true] at hvisible
      exact h ⟨htaken.1, i, List.mem_of_getElem? hy, htaken.2, hvisible.1, hvisible.2⟩
    · rfl

theorem othersKept_set (items : List PlayerInventoryItem) (x : Nat) (i : PlayerInventoryItem) :
    OthersKept x items (items.set x i) := by
  rw [OthersKept, map_eraseIdx_eq_iff]
  intro y hy
  rw [List.getElem?_set_ne (Ne.symm hy)]

theorem othersKept_append (items : List PlayerInventoryItem) (i : PlayerInventoryItem) :
    OthersKept items.length items (items ++ [i]) := by
  rw [OthersKept, map_eraseIdx_eq_iff]
  intro y hy
  by_cases hlt : y < items.length
  · rw [List.getElem?_append_left hlt]
  · have hle : items.length + 1 ≤ y := by omega
    rw [List.getElem?_eq_none (by simpa using hle), List.getElem?_eq_none (by omega)]

/-! One call. -/

theorem conserves_of_adds {item : ItemData} (h : Adds item limits self self')
    (hsize : self.inventory.items.length ≤ 30) :
    AddConserves limits item self self' ∧ self'.meseta = self.meseta ∧
      self'.inventory.items.length ≤ 30 := by
  have hgain := h.held item.primaryIdentifier
  rw [amountOf_self] at hgain
  cases h with
  | merged combineMax y hmax hfind hfits =>
      obtain ⟨-, hkind⟩ := findStack_eq_some hfind
      refine ⟨⟨hgain, y, _, List.getElem?_set_self y.isLt, ?_, othersKept_set _ _ _⟩, rfl, ?_⟩
      · exact (primaryIdentifier_withByte_five _ _).trans hkind
      · simpa [withItems] using hsize
  | appended combineMax hmax hnew hroom =>
      refine ⟨⟨hgain, _, _, List.getElem?_concat_length, rfl, othersKept_append _ _⟩, rfl, ?_⟩
      simp only [withItems, List.length_append, List.length_singleton]
      omega

theorem not_clearsUnits {itemId amount : UInt32} {index : Fin self.inventory.items.length}
    (hfind : self.inventory.findItem itemId = .ok index)
    (hunequipped : (self.inventory.items.get index).isEquipped = false) :
    ¬ ClearsUnits self (.removeItem itemId amount) := by
  rintro ⟨index', hfind', hequipped, -⟩
  obtain rfl : index = index' := Except.ok.inj (hfind.symm.trans hfind')
  rw [hunequipped] at hequipped
  cases hequipped

/-- After an entry is gone, the rest cannot be the same list with a change at
its index. -/
theorem not_othersKept_eraseIdx {items items' : List PlayerInventoryItem} {x : Nat}
    {i : PlayerInventoryItem} (hlength : items'.length = items.length)
    (hi : (items'.eraseIdx x)[x]? = some i) : ¬ OthersKept x items (items'.eraseIdx x) := by
  intro h
  obtain ⟨hx, -⟩ := List.getElem?_eq_some_iff.mp hi
  have hlengths := congrArg List.length h
  have hlt : x < items'.length := by
    by_contra hge
    rw [List.eraseIdx_of_length_le (Nat.le_of_not_lt hge)] at hx
    exact hge hx
  rw [List.length_eraseIdx_of_lt hlt] at hx
  rw [List.length_map, List.length_map, List.length_eraseIdx_of_lt (by
    rw [List.length_eraseIdx_of_lt hlt]
    exact hx), List.length_eraseIdx_of_lt hlt, List.length_eraseIdx_of_lt (by omega)] at hlengths
  omega

/-- A successful removal is exact unless it clears units. -/
theorem conserves_iff_of_removes {itemId amount : UInt32} {ret : ItemData}
    (h : Removes itemId amount limits self ret self')
    (hsize : self.inventory.items.length ≤ 30) :
    (RemoveConserves limits itemId ret self self' ∧ self'.meseta = self.meseta ∧
        self'.inventory.items.length ≤ 30) ↔
      ¬ ClearsUnits self (.removeItem itemId amount) := by
  have hloss := h.held ret.primaryIdentifier
  rw [amountOf_self] at hloss
  cases h with
  | part index hfind hpart hunequipped =>
      refine iff_of_true ⟨⟨hloss, index, hfind, ?_, .inr ⟨_, List.getElem?_set_self index.isLt,
        ?_, othersKept_set _ _ _⟩⟩, rfl, ?_⟩ (not_clearsUnits hfind hunequipped)
      · exact (primaryIdentifier_withByte_five _ _).symm
      · exact (primaryIdentifier_withByte_five _ _).trans
          (primaryIdentifier_withByte_five _ _).symm
      · simpa [withItems] using hsize
  | entry index hfind hwhole hunequipped =>
      refine iff_of_true ⟨⟨hloss, index, hfind, rfl, .inl rfl⟩, rfl, ?_⟩
        (not_clearsUnits hfind hunequipped)
      exact Nat.le_trans (List.length_eraseIdx_le _ _) hsize
  | equippedEntry index hfind hwhole hequipped =>
      have hlength := length_unequipItemIndex self.inventory index
      have hitem : self.inventory.items[index.val]? = some (self.inventory.items.get index) :=
        List.getElem?_eq_getElem index.isLt
      have hkept := othersKept_unequipItemIndex hitem
      constructor
      · rintro ⟨⟨-, index', hfind', -, hothers⟩, -, -⟩ ⟨index'', hfind'', -, harmor, hunits⟩
        obtain rfl : index = index' := Except.ok.inj (hfind.symm.trans hfind')
        obtain rfl : index = index'' := Except.ok.inj (hfind.symm.trans hfind'')
        obtain hsame | ⟨i, hi, -, hsame⟩ := hothers
        · exact hkept.mp hsame ⟨harmor, hunits⟩
        · exact not_othersKept_eraseIdx hlength hi hsame
      · intro hclear
        refine ⟨⟨hloss, index, hfind, (primaryIdentifier_takenOff _).symm, .inl ?_⟩, rfl, ?_⟩
        · exact hkept.mpr fun hcleared =>
            hclear ⟨index, hfind, hequipped, hcleared.1, hcleared.2⟩
        · exact Nat.le_trans (List.length_eraseIdx_le _ _) (Nat.le_trans (Nat.le_of_eq hlength) hsize)

theorem splits_of_isArmor {amount : UInt32} {data : ItemData} (h : data.isArmor = true) :
    splits amount limits data = .ok false := by
  have hclass : data.data1[0] = 1 ∧ data.data1[1] = 1 := by
    simpa [ItemData.isArmor] using h
  exact splits_of_not_stacks (maxStackSize_eq_one (by rw [hclass.1]; decide)
    (by rw [hclass.1]; decide)) (Nat.lt_irrefl 1)

theorem conserves_iff {op : Op} (hop : NotMeseta op)
    (hsize : self.inventory.items.length ≤ 30) :
    Conserves limits self op ↔ ¬ ClearsUnits self op := by
  cases op with
  | addItem item =>
      refine iff_of_true ?_ id
      rcases hrun : (addItem item limits).run self with ⟨⟨⟩, self'⟩ | ⟨e, self'⟩
      · simp only [Conserves, program, run_bind_of_ok hrun]
        exact conserves_of_adds ((addItem_eq_ok hop).mp hrun) hsize
      · simp only [Conserves, program, run_bind_of_error hrun]
        exact addItem_atomic item limits self e self' hrun
  | removeItem itemId amount =>
      rcases hrun : (removeItem itemId amount limits).run self with ⟨ret, self'⟩ | ⟨e, self'⟩
      · have hremoves := (removeItem_eq_ok hop).mp hrun
        rw [← conserves_iff_of_removes hremoves hsize]
        simp only [Conserves, program, run_bind_of_ok hrun]
        constructor
        · rintro ⟨⟨ret', hret, hconserves⟩, hrest⟩
          obtain rfl := Option.some.inj hret
          exact ⟨hconserves, hrest⟩
        · rintro ⟨hconserves, hrest⟩
          exact ⟨⟨ret, rfl, hconserves⟩, hrest⟩
      · simp only [Conserves, program, run_bind_of_error hrun]
        refine iff_of_true (removeItem_atomic itemId amount limits self e self' hrun) ?_
        rintro ⟨index, hfind, hequipped, harmor, -⟩
        have hremoves : Removes itemId amount limits self _ _ :=
          .equippedEntry index hfind (splits_of_isArmor harmor) hequipped
        have hok := (removeItem_eq_ok hop).mpr hremoves
        rw [hrun] at hok
        cases hok

theorem length_finalState_le {op : Op} (h : Conserves limits self op)
    (hsize : self.inventory.items.length ≤ 30) :
    (finalState ((program limits op).run self)).inventory.items.length ≤ 30 := by
  rcases hrun : (program limits op).run self with ⟨ret, self'⟩ | ⟨e, self'⟩
  · cases op with
    | addItem item =>
        simp only [Conserves, hrun] at h
        exact h.2.2
    | removeItem itemId amount =>
        simp only [Conserves, hrun] at h
        exact h.2.2
  · simp only [Conserves, hrun] at h
    exact h ▸ hsize

/-- In a run of additions and removals no item is lost, duplicated or changed,
exactly when no armor is taken off while the flags of a unit that is not worn
would be cleared. -/
theorem conserves_run_iff (limits : StackLimits) (self : PSOBBCharacterFile) (ops : List Op)
    (hsize : self.inventory.items.length ≤ 30) (hops : ∀ op ∈ ops, NotMeseta op) :
    (∀ c ∈ trace (call limits) self ops, Conserves limits c.1 c.2) ↔
      ∀ c ∈ trace (call limits) self ops, ¬ ClearsUnits c.1 c.2 := by
  have hcall : ∀ s : PSOBBCharacterFile, s.inventory.items.length ≤ 30 → ∀ op ∈ ops,
      (Conserves limits s op ↔ ¬ ClearsUnits s op) :=
    fun s hs op hop => conserves_iff (hops op hop) hs
  have hstep : ∀ s : PSOBBCharacterFile, s.inventory.items.length ≤ 30 → ∀ op ∈ ops,
      Conserves limits s op → ∀ r s', call limits op s = .ok (r, s') →
        s'.inventory.items.length ≤ 30 := by
    intro s hs op hop hgood r s' hrun
    obtain ⟨-, rfl⟩ := attempt_eq_ok.mp hrun
    exact length_finalState_le hgood hs
  exact forall_trace_iff (fun s : PSOBBCharacterFile => s.inventory.items.length ≤ 30) hcall hstep
    hsize

def tools (count : UInt8) (id : UInt32) : ItemData := (ItemData.ofClass 3 0 id).withByte 5 count

/-- An armor that is worn, a unit that is not, and three tools in a stack. -/
def equippedCharacter (unitFlags : UInt8) : PSOBBCharacterFile :=
  ⟨0, ⟨[⟨1, 0, 8, .ofClass 1 1 1⟩, ⟨1, 0, 0, (ItemData.ofClass 1 3 2).withByte 4 unitFlags⟩,
    ⟨1, 0, 0, tools 3 3⟩]⟩⟩

/-- A stack is merged, split and refused, and the armor is removed. -/
def exchangeOps : List Op :=
  [.addItem (tools 4 4), .removeItem 3 5, .addItem (tools 9 5), .removeItem 1 0,
    .removeItem 1 0, .addItem (.ofClass 2 0 6), .removeItem 3 0]

theorem conserves_run_iff_exchange :
    (trace (call defaultLimits) (equippedCharacter 0) exchangeOps).length = 7 ∧
      ((∀ c ∈ trace (call defaultLimits) (equippedCharacter 0) exchangeOps,
          Conserves defaultLimits c.1 c.2) ↔
        ∀ c ∈ trace (call defaultLimits) (equippedCharacter 0) exchangeOps,
          ¬ ClearsUnits c.1 c.2) := by
  exact ⟨by decide +kernel, conserves_run_iff defaultLimits _ _ (by decide) (by decide)⟩

/-- Removing the armor unwraps a present that is not worn. -/
theorem unit_unwrapped :
    (finalState ((removeItem 1 0 defaultLimits).run (equippedCharacter 0x42))).inventory.items =
        [⟨1, 0, 0, .ofClass 1 3 2⟩, ⟨1, 0, 0, tools 3 3⟩] ∧
      ¬ Conserves defaultLimits (equippedCharacter 0x42) (.removeItem 1 0) := by
  refine ⟨by decide +kernel, ?_⟩
  rw [conserves_iff (by decide) (by decide), not_not]
  exact ⟨⟨0, by decide⟩, by rfl, by decide, by decide, _, List.mem_cons_of_mem _ List.mem_cons_self,
    by decide, by decide, by decide⟩

end HuntersGuild.InventoryConservation
