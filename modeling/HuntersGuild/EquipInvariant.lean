import HuntersGuild.CallTrace
import HuntersGuild.InventoryOperations

/-!
No equip slot is ever held by two entries of an inventory.
-/

namespace HuntersGuild.EquipInvariant

open HuntersGuild.CallTrace
open HuntersGuild.ExceptionRules
open HuntersGuild.InventoryOperations
open HuntersGuild.Items
open HuntersGuild.StatefulPrograms

def Holds (slot : EquipSlot) (i : PlayerInventoryItem) : Prop := i.holds slot = .ok true

/-- No two entries hold the same slot. -/
def Exclusive (items : List PlayerInventoryItem) : Prop :=
  items.Pairwise fun i j => ∀ slot, Holds slot i → ¬ Holds slot j

variable {slot : EquipSlot} {i : PlayerInventoryItem} {items : List PlayerInventoryItem}

theorem holds_iff :
    Holds slot i ↔ i.isEquipped = true ∧ i.data.canBeEquippedInSlot slot = .ok true ∧
      inUnitSlot slot i.data = true := by
  unfold Holds PlayerInventoryItem.holds
  cases i.isEquipped with
  | false => simp
  | true =>
      rcases i.data.canBeEquippedInSlot slot with e | fits
      · simp
      · cases fits <;> simp

theorem holds_error {e : Exception} (h : i.holds slot = .error e) :
    e = .runtimeError "invalid equip slot" := by
  have hslot : ∀ e', i.data.canBeEquippedInSlot slot = .error e' →
      e' = .runtimeError "invalid equip slot" := by
    intro e' he
    cases slot <;> simp_all [ItemData.canBeEquippedInSlot]
  unfold PlayerInventoryItem.holds at h
  cases hequipped : i.isEquipped with
  | false => simp [hequipped] at h
  | true =>
      rcases hfits : i.data.canBeEquippedInSlot slot with e' | fits
      · simp only [hequipped, hfits, Bool.not_true, Bool.false_eq_true, if_false, error_bind,
          Except.error.injEq] at h
        exact h ▸ hslot e' hfits
      · cases fits <;> simp [hequipped, hfits] at h

theorem not_holds_takenOff : ¬ Holds slot i.takenOff := by
  intro h
  have hequipped := (holds_iff.mp h).1
  rw [isEquipped_takenOff] at hequipped
  cases hequipped

/-- An entry that is put on holds the slot that it is put in, and no other. -/
theorem eq_of_holds_putOn {slot' : EquipSlot}
    (hfits : i.data.canBeEquippedInSlot slot = .ok true) (h : Holds slot' (i.putOn slot)) :
    slot' = slot := by
  obtain ⟨-, hfits', hunit⟩ := holds_iff.mp h
  by_cases hkind : i.data.isUnit = true
  · have hclass : i.data.data1[0] = 1 ∧ i.data.data1[1] = 3 := by
      simpa [ItemData.isUnit] using hkind
    cases slot <;> cases slot' <;>
      simp_all [PlayerInventoryItem.putOn, ItemData.canBeEquippedInSlot, ItemData.isArmor,
        ItemData.isShield, inUnitSlot, unitNumber]
  · cases slot <;> cases slot' <;>
      simp_all [PlayerInventoryItem.putOn, ItemData.canBeEquippedInSlot, ItemData.isArmor,
        ItemData.isShield]

/-! Looking for the holder of a slot. -/

theorem findEquippedItemFrom_of_some {y z : Nat} {r : Option Nat}
    (h : findEquippedItemFrom slot y (some z) items = .ok r) :
    r = some z ∧ ∀ i ∈ items, ¬ Holds slot i := by
  induction items generalizing y with
  | nil =>
      simp only [findEquippedItemFrom, pure_eq_ok, Except.ok.injEq] at h
      exact ⟨h.symm, fun i hi => absurd hi List.not_mem_nil⟩
  | cons i items ih =>
      unfold findEquippedItemFrom at h
      rcases hholds : i.holds slot with e | b
      · simp only [hholds, error_bind, reduceCtorEq] at h
      · cases b with
        | true => simp [hholds] at h
        | false =>
            simp only [hholds, ok_bind, Bool.false_eq_true, if_false] at h
            obtain ⟨hr, hnone⟩ := ih h
            refine ⟨hr, List.forall_mem_cons.mpr ⟨?_, hnone⟩⟩
            intro htrue
            rw [Holds, hholds] at htrue
            cases htrue

/-- What is found is the only holder. -/
theorem findEquippedItemFrom_of_none {y : Nat} {r : Option Nat}
    (h : findEquippedItemFrom slot y none items = .ok r) {x : Nat}
    (hi : items[x]? = some i) (hholds : Holds slot i) : r = some (y + x) := by
  induction items generalizing y x with
  | nil => cases hi
  | cons j items ih =>
      unfold findEquippedItemFrom at h
      rcases hj : j.holds slot with e | b
      · simp only [hj, error_bind, reduceCtorEq] at h
      · cases b with
        | true =>
            simp only [hj, ok_bind, if_true] at h
            obtain ⟨hr, hnone⟩ := findEquippedItemFrom_of_some h
            cases x with
            | zero => exact hr
            | succ x => exact absurd hholds (hnone i (List.mem_of_getElem? hi))
        | false =>
            simp only [hj, ok_bind, Bool.false_eq_true, if_false] at h
            cases x with
            | zero =>
                obtain rfl : j = i := Option.some.inj hi
                rw [Holds, hj] at hholds
                cases hholds
            | succ x =>
                have hrest := ih h hi
                rw [hrest]
                congr 1
                omega

/-- The search fails for a slot that does not exist, and otherwise only if two
entries hold the slot. -/
theorem findEquippedItemFrom_error {y : Nat} {ret : Option Nat} {e : Exception}
    (hitems : Exclusive items) (hret : ret ≠ none → ∀ i ∈ items, ¬ Holds slot i)
    (h : findEquippedItemFrom slot y ret items = .error e) :
    e = .runtimeError "invalid equip slot" := by
  induction items generalizing y ret with
  | nil => cases h
  | cons i items ih =>
      obtain ⟨hhead, htail⟩ := List.pairwise_cons.mp hitems
      unfold findEquippedItemFrom at h
      rcases hi : i.holds slot with e' | b
      · simp only [hi, error_bind, Except.error.injEq] at h
        exact h ▸ holds_error hi
      · cases b with
        | true =>
            cases ret with
            | some z => exact absurd hi (hret (by simp) i List.mem_cons_self)
            | none =>
                simp only [hi, ok_bind, if_true] at h
                exact ih htail (fun _ j hj => hhead j hj slot hi) h
        | false =>
            simp only [hi, ok_bind, Bool.false_eq_true, if_false] at h
            exact ih htail (fun hne j hj => hret hne j (List.mem_cons_of_mem i hj)) h

theorem findEquippedItem_error {self : PlayerInventory} {e : Exception}
    (hself : Exclusive self.items) (h : self.findEquippedItem slot = .error e) :
    e = .runtimeError "invalid equip slot" ∨
      e = .outOfRange "no item is equipped in this slot" ∧
        ∀ i ∈ self.items, ¬ Holds slot i := by
  unfold PlayerInventory.findEquippedItem at h
  rcases hfind : findEquippedItemFrom slot 0 none self.items with e' | r
  · simp only [hfind, error_bind, Except.error.injEq] at h
    exact .inl (h ▸ findEquippedItemFrom_error hself (fun hne => absurd rfl hne) hfind)
  · cases r with
    | some y => simp [hfind] at h
    | none =>
        simp only [hfind, ok_bind, throw_eq_error, Except.error.injEq] at h
        refine .inr ⟨h.symm, fun i hi hholds => ?_⟩
        obtain ⟨x, hx⟩ := List.mem_iff_getElem?.mp hi
        cases findEquippedItemFrom_of_none hfind hx hholds

theorem findEquippedItem_unique {self : PlayerInventory} {y : Nat}
    (h : self.findEquippedItem slot = .ok y) {x : Nat} (hi : self.items[x]? = some i)
    (hholds : Holds slot i) : y = x := by
  unfold PlayerInventory.findEquippedItem at h
  obtain ⟨r, hfind, hr⟩ := bind_eq_ok.mp h
  rw [findEquippedItemFrom_of_none hfind hi hholds] at hr
  simpa [eq_comm] using hr

/-! What each call does to the holders. -/

theorem canBeEquippedInSlot_takenOff :
    i.takenOff.data.canBeEquippedInSlot slot = i.data.canBeEquippedInSlot slot := by
  unfold PlayerInventoryItem.takenOff
  split
  · cases slot <;> simp [ItemData.canBeEquippedInSlot, ItemData.isArmor, ItemData.isShield,
      ItemData.isUnit]
  · rfl

/-- Taking an entry off leaves the slots that the entries fit, and every entry
that still holds a slot. -/
theorem of_getElem?_unequipItemIndex {self : PlayerInventory} {index x : Nat}
    {i' : PlayerInventoryItem} (h : (self.unequipItemIndex index).items[x]? = some i') :
    ∃ i, self.items[x]? = some i ∧
      (∀ slot, i'.data.canBeEquippedInSlot slot = i.data.canBeEquippedInSlot slot) ∧
      ∀ slot, Holds slot i' → i' = i ∧ x ≠ index := by
  rcases hitem : self.items[index]? with - | item
  · rw [PlayerInventory.unequipItemIndex, hitem] at h
    refine ⟨i', h, fun _ => rfl, fun _ _ => ⟨rfl, ?_⟩⟩
    rintro rfl
    rw [hitem] at h
    cases h
  · rw [getElem?_unequipItemIndex hitem, Option.map_eq_some_iff] at h
    obtain ⟨i, hi, hi'⟩ := h
    refine ⟨i, hi, ?_⟩
    split at hi'
    · obtain rfl := hi'
      exact ⟨fun _ => canBeEquippedInSlot_takenOff,
        fun _ hholds => absurd hholds not_holds_takenOff⟩
    · rename_i hkept
      obtain rfl := hi'
      exact ⟨fun _ => rfl, fun _ _ => ⟨rfl, fun hx => hkept (.inl hx)⟩⟩

theorem Exclusive.unequipItemIndex {self : PlayerInventory} (h : Exclusive self.items)
    (index : Nat) : Exclusive (self.unequipItemIndex index).items := by
  rw [Exclusive, List.pairwise_iff_getElem] at h ⊢
  intro x y hx hy hlt slot hholds hholds'
  obtain ⟨i, hi, -, hsame⟩ := of_getElem?_unequipItemIndex (List.getElem?_eq_getElem hx)
  obtain ⟨j, hj, -, hsame'⟩ := of_getElem?_unequipItemIndex (List.getElem?_eq_getElem hy)
  obtain ⟨hx', rfl⟩ := List.getElem?_eq_some_iff.mp hi
  obtain ⟨hy', rfl⟩ := List.getElem?_eq_some_iff.mp hj
  rw [(hsame slot hholds).1] at hholds
  rw [(hsame' slot hholds').1] at hholds'
  exact h x y hx' hy' hlt slot hholds hholds'

/-- Putting an entry on in a slot that is free. -/
theorem Exclusive.putOn {index : Nat} (h : Exclusive items)
    (hfits : ∀ i, items[index]? = some i → i.data.canBeEquippedInSlot slot = .ok true)
    (hfree : ∀ i ∈ items, ¬ Holds slot i) : Exclusive (items.modify index (·.putOn slot)) := by
  have hcases : ∀ x (hx : x < (items.modify index (·.putOn slot)).length) slot',
      Holds slot' (items.modify index (·.putOn slot))[x] →
        x = index ∧ slot' = slot ∨ ∃ hx' : x < items.length, Holds slot' items[x] := by
    intro x hx slot' hholds
    rw [List.length_modify] at hx
    rw [List.getElem_modify] at hholds
    split at hholds
    · rename_i heq
      subst heq
      exact .inl ⟨rfl, eq_of_holds_putOn (hfits _ (List.getElem?_eq_getElem hx)) hholds⟩
    · exact .inr ⟨hx, hholds⟩
  rw [Exclusive, List.pairwise_iff_getElem] at h ⊢
  intro x y hx hy hlt slot' hholds hholds'
  obtain ⟨rfl, rfl⟩ | ⟨hx', hold⟩ := hcases x hx slot' hholds
  · obtain ⟨rfl, -⟩ | ⟨hy', hold'⟩ := hcases y hy slot' hholds'
    · exact absurd hlt (Nat.lt_irrefl y)
    · exact hfree _ (List.getElem_mem hy') hold'
  · obtain ⟨rfl, rfl⟩ | ⟨hy', hold'⟩ := hcases y hy slot' hholds'
    · exact hfree _ (List.getElem_mem hx') hold
    · exact h x y hx' hy' hlt slot' hold hold'

theorem equipSlotFor_fits {data : ItemData} {slot' : EquipSlot}
    (h : equipSlotFor slot data = .ok slot') : data.canBeEquippedInSlot slot' = .ok true := by
  have hdefault : ∀ s, data.defaultEquipSlot = .ok s → data.canBeEquippedInSlot s = .ok true := by
    intro s hs
    unfold ItemData.defaultEquipSlot at hs
    split at hs
    · obtain rfl := Except.ok.inj hs
      simp [ItemData.canBeEquippedInSlot, *]
    · split at hs
      · obtain rfl := Except.ok.inj hs
        simp [ItemData.canBeEquippedInSlot, *]
      · split at hs
        · obtain rfl := Except.ok.inj hs
          simp [ItemData.canBeEquippedInSlot, *]
        · split at hs
          · obtain rfl := Except.ok.inj hs
            simp [ItemData.canBeEquippedInSlot, *]
          · split at hs
            · obtain rfl := Except.ok.inj hs
              simp [ItemData.canBeEquippedInSlot, *]
            · cases hs
  unfold equipSlotFor at h
  split at h
  · exact hdefault slot' h
  · obtain ⟨fits, hfits, hrest⟩ := bind_eq_ok.mp h
    cases fits with
    | false => exact hdefault slot' hrest
    | true =>
        obtain rfl := Except.ok.inj hrest
        exact hfits

/-! Runs. -/

inductive Op where
  | equipItemId (itemId : UInt32) (slot : EquipSlot)
  | unequipItemId (itemId : UInt32)
  | unequipItemSlot (slot : EquipSlot)
  | removeAllItemsOfType (data1_0 : UInt8) (data1_1 : Int16)

def program : Op → EStateM Exception PlayerInventory Unit
  | .equipItemId itemId slot => equipItemId itemId slot
  | .unequipItemId itemId => unequipItemId itemId
  | .unequipItemSlot slot => unequipItemSlot slot
  | .removeAllItemsOfType data1_0 data1_1 => do
      let _ ← removeAllItemsOfType data1_0 data1_1

/-- A run goes on after an exception. -/
def call (op : Op) (self : PlayerInventory) :
    Except Exception (Except Exception Unit × PlayerInventory) :=
  attempt (program op) self

theorem atomic_unequipItemSlot (slot : EquipSlot) : Atomic (unequipItemSlot slot) :=
  readOnly_get.bind_atomic fun _ =>
    (readOnly_fromExcept _).bind_atomic fun _ => (throwless_modify _).atomic

theorem atomic_unequipItemId (itemId : UInt32) : Atomic (unequipItemId itemId) :=
  readOnly_get.bind_atomic fun _ =>
    (readOnly_fromExcept _).bind_atomic fun _ => (throwless_modify _).atomic

theorem atomic_equipItemIndex (index : Nat) (slot : EquipSlot) :
    Atomic (equipItemIndex index slot) := by
  refine readOnly_get.bind_atomic fun self => ?_
  cases self.items[index]? with
  | none => exact (readOnly_throw _).atomic
  | some item =>
      refine (readOnly_fromExcept _).bind_atomic fun slot => ?_
      refine (readOnly_fromExcept _).bind_atomic fun occupied => ?_
      cases occupied with
      | false => exact (throwless_modify _).atomic
      | true => exact (atomic_unequipItemSlot slot).bind_throwless fun _ => throwless_modify _

theorem atomic_program (op : Op) : Atomic (program op) := by
  cases op with
  | equipItemId itemId slot =>
      exact readOnly_get.bind_atomic fun _ =>
        (readOnly_fromExcept _).bind_atomic fun index => atomic_equipItemIndex index slot
  | unequipItemId itemId => exact atomic_unequipItemId itemId
  | unequipItemSlot slot => exact atomic_unequipItemSlot slot
  | removeAllItemsOfType data1_0 data1_1 => exact Throwless.atomic fun self => ⟨_, _, rfl⟩

theorem run_unequipItemSlot {self self' : PlayerInventory}
    (h : (unequipItemSlot slot).run self = .ok ⟨⟩ self') :
    ∃ index, self.findEquippedItem slot = .ok index ∧ self' = self.unequipItemIndex index := by
  unfold unequipItemSlot at h
  rw [run_get_bind] at h
  rcases hfind : self.findEquippedItem slot with e | index
  · rw [hfind, run_error_bind] at h
    cases h
  · rw [hfind, run_ok_bind] at h
    cases h
    exact ⟨index, rfl, rfl⟩

theorem Exclusive.equipItemIndex {self self' : PlayerInventory} {index : Nat}
    (hself : Exclusive self.items)
    (h : (equipItemIndex index slot).run self = .ok ⟨⟩ self') : Exclusive self'.items := by
  unfold InventoryOperations.equipItemIndex at h
  rw [run_get_bind] at h
  rcases hitem : self.items[index]? with - | item
  · rw [hitem] at h
    cases h
  rw [hitem] at h
  rcases hslot : equipSlotFor slot item.data with e | slot'
  · simp only [hslot] at h
    cases h
  have hfits := equipSlotFor_fits hslot
  simp only [hslot] at h
  rw [run_ok_bind] at h
  rcases hfind : self.findEquippedItem slot' with e | y
  · obtain rfl | ⟨rfl, hfree⟩ := findEquippedItem_error hself hfind
    · simp only [PlayerInventory.hasEquippedItem, hfind] at h
      cases h
    · simp only [PlayerInventory.hasEquippedItem, hfind] at h
      cases h
      refine hself.putOn (fun i hi => ?_) hfree
      rw [hitem] at hi
      exact Option.some.inj hi ▸ hfits
  · simp only [PlayerInventory.hasEquippedItem, hfind] at h
    rw [run_ok_bind] at h
    obtain ⟨⟨⟩, mid, hunequip, hrest⟩ : ∃ a mid,
        (unequipItemSlot slot').run self = .ok a mid ∧
          self' = ⟨mid.items.modify index (·.putOn slot')⟩ := by
      rcases hcall : (unequipItemSlot slot').run self with ⟨a, mid⟩ | ⟨e, mid⟩
      · simp only [if_true] at h
        rw [run_bind_of_ok hcall] at h
        cases h
        exact ⟨a, mid, rfl, rfl⟩
      · simp only [if_true] at h
        rw [run_bind_of_error hcall] at h
        cases h
    obtain ⟨y', hy', rfl⟩ := run_unequipItemSlot hunequip
    subst hrest
    refine (hself.unequipItemIndex y').putOn (fun i hi => ?_) fun i hi hholds => ?_
    · obtain ⟨j, hj, hsame, -⟩ := of_getElem?_unequipItemIndex hi
      rw [hitem] at hj
      obtain rfl := Option.some.inj hj
      exact (hsame slot').trans hfits
    · -- whatever held the slot is the entry that has been taken off
      obtain ⟨x, hx⟩ := List.mem_iff_getElem?.mp hi
      obtain ⟨j, hj, -, hsame⟩ := of_getElem?_unequipItemIndex hx
      obtain ⟨rfl, hne⟩ := hsame slot' hholds
      exact hne (findEquippedItem_unique hy' hj hholds).symm

theorem Exclusive.program {self self' : PlayerInventory} {op : Op}
    (hself : Exclusive self.items) (h : (program op).run self = .ok ⟨⟩ self') :
    Exclusive self'.items := by
  cases op with
  | equipItemId itemId slot =>
      change (equipItemId itemId slot).run self = _ at h
      unfold InventoryOperations.equipItemId at h
      rw [run_get_bind] at h
      rcases hfind : self.findItem itemId with e | index
      · rw [hfind, run_error_bind] at h
        cases h
      · rw [hfind, run_ok_bind] at h
        exact hself.equipItemIndex h
  | unequipItemId itemId =>
      change (unequipItemId itemId).run self = _ at h
      unfold InventoryOperations.unequipItemId at h
      rw [run_get_bind] at h
      rcases hfind : self.findItem itemId with e | index
      · rw [hfind, run_error_bind] at h
        cases h
      · rw [hfind, run_ok_bind] at h
        cases h
        exact hself.unequipItemIndex index
  | unequipItemSlot slot =>
      obtain ⟨index, -, rfl⟩ := run_unequipItemSlot h
      exact hself.unequipItemIndex index
  | removeAllItemsOfType data1_0 data1_1 =>
      cases h
      exact hself.filter _

/-- From an inventory in which no slot is held twice, whatever is equipped,
unequipped or removed: no slot is held twice, the search for the holder of a
slot never finds two, and a call that throws changes nothing. -/
theorem exclusive_run (self : PlayerInventory) (ops : List Op) (hself : Exclusive self.items) :
    ∀ c ∈ trace call self ops,
      Exclusive c.1.items ∧
      (∀ slot, c.1.findEquippedItem slot ≠
        .error (.runtimeError "multiple items are equipped in the same slot")) ∧
      (∀ e self', (program c.2).run c.1 = .error e self' → self' = c.1) ∧
      Exclusive (finalState ((program c.2).run c.1)).items := by
  have hfinal : ∀ (s : PlayerInventory) (op : Op), Exclusive s.items →
      Exclusive (finalState ((program op).run s)).items := by
    intro s op hs
    rcases hcall : (program op).run s with ⟨⟨⟩, s'⟩ | ⟨e, s'⟩
    · exact hs.program hcall
    · exact atomic_program op s e s' hcall ▸ hs
  have hstep : ∀ s : PlayerInventory, Exclusive s.items → ∀ op ∈ ops,
      ∀ r s', call op s = .ok (r, s') → Exclusive s'.items := by
    intro s hs op _ r s' hcall
    obtain ⟨-, rfl⟩ := attempt_eq_ok.mp hcall
    exact hfinal s op hs
  have hgood : ∀ c ∈ trace call self ops, Exclusive c.1.items :=
    invariant_of_mem_trace (fun s : PlayerInventory => Exclusive s.items) hstep hself
  intro c hc
  have hexclusive := hgood c hc
  refine ⟨hexclusive, fun slot hmultiple => ?_, atomic_program c.2 c.1,
    hfinal c.1 c.2 hexclusive⟩
  obtain h | ⟨h, -⟩ := findEquippedItem_error hexclusive hmultiple
  · exact absurd h (by decide)
  · cases h

/-- An armor that is worn, two units and a weapon that are not. -/
def dressed : PlayerInventory :=
  ⟨[⟨1, 0, 8, .ofClass 1 1 1⟩, ⟨1, 0, 0, .ofClass 1 3 2⟩, ⟨1, 0, 0, .ofClass 1 3 3⟩,
    ⟨1, 0, 0, .ofClass 0 1 4⟩]⟩

/-- A unit changes its slot, and the armor is taken off. -/
def dressingOps : List Op :=
  [.equipItemId 2 .unknown, .equipItemId 3 .unit1, .equipItemId 2 .unit2, .equipItemId 4 .unit3,
    .equipItemId 2 .unit4, .unequipItemSlot .armor, .equipItemId 9 .mag,
    .removeAllItemsOfType 1 3]

theorem exclusive_run_dressed :
    (trace call dressed dressingOps).length = 8 ∧
      ∀ c ∈ trace call dressed dressingOps,
        Exclusive c.1.items ∧
        (∀ slot, c.1.findEquippedItem slot ≠
          .error (.runtimeError "multiple items are equipped in the same slot")) ∧
        (∀ e self', (program c.2).run c.1 = .error e self' → self' = c.1) ∧
        Exclusive (finalState ((program c.2).run c.1)).items := by
  have hexclusive : Exclusive dressed.items := by
    have hnone : ∀ i : PlayerInventoryItem, i.isEquipped = false → ∀ slot, ¬ Holds slot i := by
      intro i hi slot hholds
      rw [(holds_iff.mp hholds).1] at hi
      cases hi
    have htail : ∀ i ∈ dressed.items.tail, i.isEquipped = false := by decide
    refine List.pairwise_cons.mpr ⟨fun i hi slot _ => hnone i (htail i hi) slot, ?_⟩
    exact List.pairwise_of_forall_mem_list fun i _ j hj slot _ => hnone j (htail j hj) slot
  exact ⟨by decide +kernel, exclusive_run dressed dressingOps hexclusive⟩

end HuntersGuild.EquipInvariant
