import HuntersGuild.ExchangePayments

/-!
The exchange of photon drops for the special of an S-rank weapon, which is
removed and added again.
-/

namespace HuntersGuild.SpecialExchange

open HuntersGuild.CharacterFile
open HuntersGuild.ExchangeCommands
open HuntersGuild.ExchangePayments
open HuntersGuild.ExchangeSteps
open HuntersGuild.InventoryConservation
open HuntersGuild.InventoryOperations
open HuntersGuild.Items
open HuntersGuild.ItemStocks
open HuntersGuild.StatefulPrograms

/-! Where an entry is after the removal of another one. -/

section Find

variable {α : Type} {p : α → Bool}

theorem find?_set_of_not {l : List α} {y : Nat} {a : α} (hlt : y < l.length)
    (hold : p l[y] = false) (hnew : p a = false) : (l.set y a).find? p = l.find? p := by
  induction l generalizing y with
  | nil => rfl
  | cons b l ih =>
      cases y with
      | zero => simp_all
      | succ y =>
          simp only [List.set_cons_succ, List.find?_cons]
          rw [ih (Nat.lt_of_succ_lt_succ hlt) hold]

theorem find?_eraseIdx_of_not {l : List α} {y : Nat} (hlt : y < l.length)
    (hold : p l[y] = false) : (l.eraseIdx y).find? p = l.find? p := by
  induction l generalizing y with
  | nil => rfl
  | cons b l ih =>
      cases y with
      | zero => simp_all
      | succ y =>
          simp only [List.eraseIdx_cons_succ, List.find?_cons]
          rw [ih (Nat.lt_of_succ_lt_succ hlt) hold]

end Find

theorem findItem_eq_ok_iff {inventory : PlayerInventory} {itemId : UInt32}
    {i : PlayerInventoryItem} :
    (∃ x, inventory.findItem itemId = .ok x ∧ (inventory.items.get x) = i) ↔
      inventory.items.find? (fun j => j.data.id = itemId) = some i := by
  rw [List.find?_eq_map_findFinIdx?_getElem, PlayerInventory.findItem]
  rcases hfind : inventory.items.findFinIdx? fun j => decide (j.data.id = itemId) with - | x
  · simp [hfind]
  · simp [hfind]

theorem id_takenOff (i : PlayerInventoryItem) : i.takenOff.data.id = i.data.id := by
  unfold PlayerInventoryItem.takenOff
  split <;> rfl

/-- Taking an entry off leaves what is neither that entry nor a unit. -/
theorem find?_unequipItemIndex {inventory : PlayerInventory} {itemId : UInt32}
    {y : Fin inventory.items.length} {i : PlayerInventoryItem}
    (hfind : inventory.items.find? (fun j => j.data.id = itemId) = some i)
    (hunit : i.data.isUnit = false) (hne : (inventory.items.get y).data.id ≠ itemId) :
    ((inventory.unequipItemIndex y).items.eraseIdx y).find? (fun j => j.data.id = itemId) =
      some i := by
  have hitem : inventory.items[y.val]? = some (inventory.items.get y) :=
    List.getElem?_eq_getElem y.isLt
  have hskip : decide ((inventory.items.get y).takenOff.data.id = itemId) = false := by
    rw [id_takenOff]
    exact decide_eq_false hne
  have hset : (inventory.items.set y (inventory.items.get y).takenOff).find?
      (fun j => j.data.id = itemId) = some i := by
    rw [← hfind]
    exact find?_set_of_not y.isLt (decide_eq_false hne) hskip
  have hlt : y.val < (inventory.unequipItemIndex y).items.length := by
    rw [length_unequipItemIndex]
    exact y.isLt
  have hat : (inventory.unequipItemIndex y).items[y.val] = (inventory.items.get y).takenOff := by
    refine Option.some.inj ((List.getElem?_eq_getElem hlt).symm.trans ?_)
    rw [getElem?_unequipItemIndex hitem, hitem]
    simp only [true_or, if_true, Option.map_some]
  rw [find?_eraseIdx_of_not hlt (by rw [hat]; exact hskip)]
  unfold PlayerInventory.unequipItemIndex
  simp only [hitem]
  split
  · rw [List.find?_map]
    have hsame : (fun j : PlayerInventoryItem => decide (j.data.id = itemId)) ∘
        (fun unit : PlayerInventoryItem => if unit.data.isUnit then unit.takenOff else unit) =
          fun j => decide (j.data.id = itemId) := by
      funext j
      simp only [Function.comp_apply]
      split
      · rw [id_takenOff]
      · rfl
    rw [hsame, hset, Option.map_some, hunit, if_neg Bool.false_ne_true]
  · exact hset

variable {limits : StackLimits} {self : PSOBBCharacterFile} {amount : UInt32} {part : Bool}
  {y : Fin self.inventory.items.length}

/-- An entry that is not a unit is found again, as it is. -/
theorem findItem_takenFrom {itemId : UInt32} {z : Fin self.inventory.items.length}
    (hfind : self.inventory.findItem itemId = .ok z)
    (hunit : (self.inventory.items.get z).data.isUnit = false)
    (hne : (self.inventory.items.get y).data.id ≠ itemId) :
    ∃ w, (takenFrom amount part self y).inventory.findItem itemId = .ok w ∧
      (takenFrom amount part self y).inventory.items.get w = self.inventory.items.get z := by
  rw [findItem_eq_ok_iff]
  have hold := findItem_eq_ok_iff.mp ⟨z, hfind, rfl⟩
  have hskip : decide ((self.inventory.items.get y).data.id = itemId) = false := decide_eq_false hne
  unfold takenFrom
  split
  · rw [← hold]
    exact find?_set_of_not y.isLt hskip hskip
  · split
    · exact find?_unequipItemIndex hold hunit hne
    · rw [← hold]
      exact find?_eraseIdx_of_not y.isLt hskip

/-! The weapon is made into another one. -/

/-- The second half of the exchange, after the cost has been removed. -/
def reforge (limits : StackLimits) (cmd : AddSRankWeaponSpecial) :
    EStateM Exception PSOBBCharacterFile Unit := do
  let item ← removeItem cmd.itemId 1 limits
  addItem (item.withByte 2 cmd.specialType.toUInt8) limits

variable {cmd : AddSRankWeaponSpecial}

theorem class_of_isSRankWeapon {d : ItemData} (h : d.isSRankWeapon = true) : d.data1[0] = 0 := by
  unfold ItemData.isSRankWeapon at h
  exact (of_decide_eq_true h).1

theorem not_stacks_of_class {d : ItemData} (h : d.data1[0] = 0) : ¬ d.Stacks limits := by
  rw [stacks_iff, maxStackSize_eq_one (by rw [h]; decide) (by rw [h]; decide)]
  rintro ⟨n, hn, hlt⟩
  obtain rfl := Except.ok.inj hn
  exact Nat.lt_irrefl 1 hlt

theorem isUnit_of_class {d : ItemData} (h : d.data1[0] ≠ 1) : d.isUnit = false :=
  decide_eq_false fun hunit => h hunit.1

theorem kind_ne_of_class {d d' : ItemData} (h : d.data1[0] ≠ d'.data1[0]) :
    kind limits d ≠ kind limits d' := fun hkind =>
  h (class_of_primaryIdentifier_eq (primaryIdentifier_of_kind hkind)).1

theorem portion_of_class_ne {d d' : ItemData} (h : d.data1[0] ≠ d'.data1[0]) (n : Nat) :
    portion limits (kind limits d) d' n = 0 := if_neg (kind_ne_of_class h.symm)

/-- A weapon that is not worn any more is the weapon. -/
theorem settled_of_class {i : PlayerInventoryItem} (h : i.data.data1[0] = 0) :
    (settled i).data = i.data :=
  settled_data_of_not_unit (isUnit_of_class (by rw [h]; decide))

theorem length_takenFrom_le (w : Fin self.inventory.items.length) :
    (takenFrom amount part self w).inventory.items.length ≤ self.inventory.items.length := by
  unfold takenFrom
  split
  · exact Nat.le_of_eq List.length_set
  · split
    · refine Nat.le_trans (List.length_eraseIdx_le _ _) (Nat.le_of_eq ?_)
      exact length_unequipItemIndex _ _
    · exact List.length_eraseIdx_le _ _

theorem length_takenFrom_lt (w : Fin self.inventory.items.length) :
    (takenFrom amount false self w).inventory.items.length < self.inventory.items.length := by
  have hlt := w.isLt
  unfold takenFrom
  rw [if_neg Bool.false_ne_true]
  split
  · simp only [withItems, List.length_eraseIdx, length_unequipItemIndex, if_pos hlt]
    omega
  · simp only [withItems, List.length_eraseIdx, if_pos hlt]
    omega

/-- A weapon that is there is exchanged for the one with the special. -/
theorem reforge_eq_ok {w : Fin self.inventory.items.length}
    (hid : cmd.itemId ≠ 0xFFFFFFFF) (hsize : self.inventory.items.length ≤ 30)
    (hfind : self.inventory.findItem cmd.itemId = .ok w)
    (hweapon : (self.inventory.items.get w).data.data1[0] = 0) :
    ∃ self', (reforge limits cmd).run self = .ok ⟨⟩ self' ∧ self'.meseta = self.meseta ∧
      ∀ k, stock limits k self'.inventory.items + portion limits k (self.inventory.items.get w).data 1 =
        stock limits k self.inventory.items + portion limits k
          ((self.inventory.items.get w).data.withByte 2 cmd.specialType.toUInt8) 1 := by
  have hspecial : ((self.inventory.items.get w).data.withByte 2 cmd.specialType.toUInt8).data1[0] = 0 := by
    simpa using hweapon
  have hmax : ∀ d : ItemData, d.data1[0] = 0 → d.maxStackSize limits = .ok 1 := fun d hd =>
    maxStackSize_eq_one (by rw [hd]; decide) (by rw [hd]; decide)
  have hsplit : splits 1 limits (self.inventory.items.get w).data = .ok false :=
    splits_of_not_stacks (hmax _ hweapon) (Nat.lt_irrefl 1)
  have hret : handedOver 1 false (self.inventory.items.get w) = (self.inventory.items.get w).data := by
    rw [handedOver, if_neg Bool.false_ne_true, ← settled_data, settled_of_class hweapon]
  have hremove : (removeItem cmd.itemId 1 limits).run self =
      .ok (self.inventory.items.get w).data (takenFrom 1 false self w) :=
    (removeItem_eq_ok hid).mpr (removes_iff.mpr ⟨w, false, hfind, hsplit, fun h => absurd h Bool.false_ne_true, hret.symm, rfl⟩)
  have hkept : ¬ Unwraps self w := by
    rintro ⟨-, harmor, -⟩
    rw [ItemData.isArmor, hweapon] at harmor
    cases harmor
  have hroom : Room limits ((self.inventory.items.get w).data.withByte 2 cmd.specialType.toUInt8)
      (takenFrom 1 false self w) := by
    refine ⟨1, hmax _ hspecial, ?_⟩
    rw [findStack, if_neg (Nat.lt_irrefl 1)]
    exact Nat.lt_of_lt_of_le (length_takenFrom_lt w) hsize
  have hrequested : requested limits 1 (self.inventory.items.get w).data = 1 := by
    rw [requested_eq hsplit, if_neg Bool.false_ne_true,
      quantity_of_not_stacks (not_stacks_of_class hweapon)]
  rw [reforge, run_bind_of_ok hremove]
  rcases addItem_cases limits
      ((self.inventory.items.get w).data.withByte 2 cmd.specialType.toUInt8) (takenFrom 1 false self w)
    with ⟨hclass, -⟩ | ⟨-, -, self', hadds, hadd⟩ | ⟨-, hfull, -⟩
  · have hmeseta := (class_of_primaryIdentifier_eq (y := mesetaItem 0) hclass).1
    rw [hspecial] at hmeseta
    cases hmeseta
  · refine ⟨self', hadd, hadds.meseta_eq.trans (meseta_takenFrom 1 false self w), fun k => ?_⟩
    have htaken := stock_takenFrom (k := k) w hsplit (fun h => absurd h Bool.false_ne_true) (.inl hkept)
    rw [hrequested, settled_of_class hweapon] at htaken
    rw [stock_adds hadds, quantity_of_not_stacks (not_stacks_of_class hspecial), ← htaken]
    omega
  · exact absurd hroom hfull

/-! What the exchange has to do. -/

/-- The cost has been paid, and the weapon has got its special. -/
def AddsSpecial (limits : StackLimits) (cmd : AddSRankWeaponSpecial)
    (self self' : PSOBBCharacterFile) : Prop :=
  ∃ cost z, specialCost cmd.specialType = .ok cost ∧ self.inventory.findItem cmd.itemId = .ok z ∧
    (∃ paid ∈ self.inventory.items, paid.data.primaryIdentifier = 0x03100000 ∧
      ∀ k, stock limits k self'.inventory.items +
          portion limits k (settled paid).data cost.toNat +
          portion limits k (self.inventory.items.get z).data 1 =
        stock limits k self.inventory.items +
          portion limits k ((self.inventory.items.get z).data.withByte 2 cmd.specialType.toUInt8) 1) ∧
    self'.meseta = self.meseta

variable {cost : UInt8} {z : Fin self.inventory.items.length} {self' : PSOBBCharacterFile}

theorem addsSpecial_iff (hcost : specialCost cmd.specialType = .ok cost)
    (hfind : self.inventory.findItem cmd.itemId = .ok z) :
    AddsSpecial limits cmd self self' ↔
      (∃ paid ∈ self.inventory.items, paid.data.primaryIdentifier = 0x03100000 ∧
        ∀ k, stock limits k self'.inventory.items +
            portion limits k (settled paid).data cost.toNat +
            portion limits k (self.inventory.items.get z).data 1 =
          stock limits k self.inventory.items +
            portion limits k ((self.inventory.items.get z).data.withByte 2 cmd.specialType.toUInt8) 1) ∧
      self'.meseta = self.meseta := by
  constructor
  · rintro ⟨cost', z', hcost', hfind', hexchange⟩
    obtain rfl := Except.ok.inj (hcost.symm.trans hcost')
    obtain rfl : z = z' := Except.ok.inj (hfind.symm.trans hfind')
    exact hexchange
  · intro hexchange
    exact ⟨cost, z, hcost, hfind, hexchange⟩

theorem le_of_specialCost (h : specialCost cmd.specialType = .ok cost) : 20 ≤ cost.toNat := by
  unfold specialCost at h
  split at h
  · rename_i cost' hcost
    obtain rfl := Except.ok.inj h
    have hall : costs.all fun c => 20 ≤ c.toNat := by decide
    exact of_decide_eq_true (List.all_eq_true.mp hall _ (List.mem_of_getElem? hcost))
  · cases h

theorem class_of_drop {d : ItemData} (h : d.primaryIdentifier = 0x03100000) : d.data1[0] = 3 :=
  (class_of_primaryIdentifier_eq (y := .ofClass 3 0x10 0) h).1

theorem class_of_paid {paid : PlayerInventoryItem}
    (h : paid.data.primaryIdentifier = 0x03100000) : (settled paid).data.data1[0] = 3 :=
  class_of_drop ((primaryIdentifier_settled paid).trans h)

/-- Drops are charged in full if there are enough of them. -/
theorem charges_cost_iff (hcost : specialCost cmd.specialType = .ok cost) :
    Charges limits 0x03100000 cost.toUInt32 (fun _ => cost.toNat) self y ↔
      (self.inventory.items.get y).data.primaryIdentifier = 0x03100000 ∧
        cost.toNat ≤ (self.inventory.items.get y).data.quantity limits := by
  have hpos := le_of_specialCost hcost
  have hnat : cost.toUInt32.toNat = cost.toNat := UInt8.toNat_toUInt32 cost
  have hzero : cost.toUInt32 ≠ 0 := by
    rw [Ne, ← UInt32.toNat_inj, hnat, UInt32.toNat_zero]
    omega
  have hprice : cost.toNat = requested limits cost.toUInt32 (self.inventory.items.get y).data ↔
      cost.toNat ≤ (self.inventory.items.get y).data.quantity limits := by
    rw [requested, hnat]
    simp only [hzero, false_or]
    split <;> omega
  constructor
  · rintro ⟨hkind, hexact, -⟩
    exact ⟨hkind, hprice.mp hexact⟩
  · rintro ⟨hkind, henough⟩
    refine ⟨hkind, hprice.mpr henough, ?_⟩
    rintro ⟨-, harmor, -⟩
    rw [ItemData.isArmor, class_of_drop hkind] at harmor
    cases harmor

/-! The cost is paid with an entry. -/

/-- Whatever is removed, the stock of weapons and of tools changes by what was
requested only. -/
theorem stock_takenFrom_of_class
    (hsplit : splits amount limits (self.inventory.items.get y).data = .ok part)
    (hworn : part = true → (self.inventory.items.get y).isEquipped = false) {d : ItemData}
    (hclass : d.data1[0] ≠ 1) :
    stock limits (kind limits d) (takenFrom amount part self y).inventory.items +
        portion limits (kind limits d) (settled (self.inventory.items.get y)).data
          (requested limits amount (self.inventory.items.get y).data) =
      stock limits (kind limits d) self.inventory.items := by
  refine stock_takenFrom y hsplit hworn (.inr fun u hu => kind_ne_of_class ?_)
  have hunit : u.data1[0] = 1 ∧ u.data1[1] = 3 := by simpa [ItemData.isUnit] using hu
  rw [hunit.1]
  exact hclass.symm

theorem exists_cost_iff (hcost : specialCost cmd.specialType = .ok cost)
    (hsplit : splits cost.toUInt32 limits (self.inventory.items.get y).data = .ok part)
    (hworn : part = true → (self.inventory.items.get y).isEquipped = false)
    (hfilled : FilledWithinLimit limits (self.inventory.items.get y).data) :
    (∃ paid ∈ self.inventory.items, paid.data.primaryIdentifier = 0x03100000 ∧
      ∀ k, stock limits k (takenFrom cost.toUInt32 part self y).inventory.items +
          portion limits k (settled paid).data cost.toNat =
        stock limits k self.inventory.items) ↔
      (self.inventory.items.get y).data.primaryIdentifier = 0x03100000 ∧
        cost.toNat ≤ (self.inventory.items.get y).data.quantity limits := by
  refine Iff.trans ?_ (charges_cost_iff hcost)
  exact @exists_paid_iff limits _ _ (fun _ => cost.toNat) self part y hsplit hworn hfilled
    fun _ h => h

/-- The weapon is found again, under an ID of its own. -/
theorem reforged_iff (hcost : specialCost cmd.specialType = .ok cost)
    (hfind : self.inventory.findItem cmd.itemId = .ok z)
    (hweapon : (self.inventory.items.get z).data.data1[0] = 0)
    (hid : cmd.itemId ≠ 0xFFFFFFFF) (hsize : self.inventory.items.length ≤ 30)
    (hsplit : splits cost.toUInt32 limits (self.inventory.items.get y).data = .ok part)
    (hworn : part = true → (self.inventory.items.get y).isEquipped = false)
    (hfilled : FilledWithinLimit limits (self.inventory.items.get y).data)
    (hne : (self.inventory.items.get y).data.id ≠ cmd.itemId) :
    Ends (AddsSpecial limits cmd self) (Kept limits self)
        ((reforge limits cmd).run (takenFrom cost.toUInt32 part self y)) ↔
      (self.inventory.items.get y).data.primaryIdentifier = 0x03100000 ∧
        cost.toNat ≤ (self.inventory.items.get y).data.quantity limits := by
  have hunit : (self.inventory.items.get z).data.isUnit = false :=
    isUnit_of_class (by rw [hweapon]; decide)
  obtain ⟨w, hfound, hsame⟩ := @findItem_takenFrom self cost.toUInt32 part y _ _ hfind hunit hne
  have hsmall : (takenFrom cost.toUInt32 part self y).inventory.items.length ≤ 30 :=
    Nat.le_trans (length_takenFrom_le y) hsize
  obtain ⟨self', hrun, hmeseta, hstock⟩ := @reforge_eq_ok limits _ cmd w hid hsmall hfound
    (by rw [hsame]; exact hweapon)
  rw [hsame] at hstock
  rw [hrun, Ends, addsSpecial_iff hcost hfind, ← exists_cost_iff hcost hsplit hworn hfilled,
    and_iff_left (hmeseta.trans (meseta_takenFrom _ _ _ _))]
  refine exists_congr fun paid => and_congr_right fun _ => and_congr_right fun _ =>
    forall_congr' fun k => ?_
  have hat := hstock k
  constructor
  · intro hpaid
    omega
  · intro hpaid
    omega

theorem kind_withByte_two_iff {d : ItemData} (hweapon : d.data1[0] = 0) (special : UInt8) :
    kind limits (d.withByte 2 special) = kind limits d ↔ d.data1[2] = special := by
  constructor
  · intro hkind
    have hdata := data1_of_kind hkind (not_stacks_of_class hweapon)
    rw [← hdata]
    simp
  · rintro rfl
    have hset : d.data1.set 2 d.data1[2] = d.data1 := d.data1.set_getElem_self (by decide)
    rw [ItemData.withByte]
    exact congrArg (fun v => kind limits { d with data1 := v }) hset

theorem class_withByte_two (d : ItemData) (v : UInt8) : (d.withByte 2 v).data1[0] = d.data1[0] := by
  simp

/-- If the cost has been paid and the weapon is the same as before, then it has
to have the special. -/
theorem exists_cost_special_iff (hcost : specialCost cmd.specialType = .ok cost)
    (hweapon : (self.inventory.items.get z).data.data1[0] = 0)
    (hsplit : splits cost.toUInt32 limits (self.inventory.items.get y).data = .ok part)
    (hworn : part = true → (self.inventory.items.get y).isEquipped = false)
    (hfilled : FilledWithinLimit limits (self.inventory.items.get y).data) :
    (∃ paid ∈ self.inventory.items, paid.data.primaryIdentifier = 0x03100000 ∧
      ∀ k, stock limits k (takenFrom cost.toUInt32 part self y).inventory.items +
          portion limits k (settled paid).data cost.toNat +
          portion limits k (self.inventory.items.get z).data 1 =
        stock limits k self.inventory.items +
          portion limits k ((self.inventory.items.get z).data.withByte 2 cmd.specialType.toUInt8) 1) ↔
      ((self.inventory.items.get y).data.primaryIdentifier = 0x03100000 ∧
        cost.toNat ≤ (self.inventory.items.get y).data.quantity limits) ∧
      (self.inventory.items.get z).data.data1[2] = cmd.specialType.toUInt8 := by
  rw [← exists_cost_iff hcost hsplit hworn hfilled, ← @kind_withByte_two_iff limits _ hweapon]
  constructor
  · rintro ⟨paid, hmem, hpid, hstock⟩
    have hclass : (self.inventory.items.get z).data.data1[0] ≠ (settled paid).data.data1[0] := by
      rw [hweapon, class_of_paid hpid]
      decide
    -- the drops have been taken from an entry of drops, hence not from a weapon
    have hsource : kind limits (settled (self.inventory.items.get y)).data =
        kind limits (settled paid).data := by
      by_contra hne
      have hdrops := hstock (kind limits (settled paid).data)
      have htaken := stock_takenFrom_of_class hsplit hworn
        (show (settled paid).data.data1[0] ≠ 1 by rw [class_of_paid hpid]; decide)
      rw [portion_self, portion_of_class_ne hclass.symm, portion_of_class_ne
        (by rw [class_withByte_two]; exact hclass.symm)] at hdrops
      rw [portion, if_neg hne] at htaken
      have hpos := le_of_specialCost hcost
      omega
    have hkind : kind limits ((self.inventory.items.get z).data.withByte 2
        cmd.specialType.toUInt8) = kind limits (self.inventory.items.get z).data := by
      by_contra hne
      have hweapons := hstock (kind limits (self.inventory.items.get z).data)
      have htaken := stock_takenFrom_of_class hsplit hworn
        (show (self.inventory.items.get z).data.data1[0] ≠ 1 by rw [hweapon]; decide)
      rw [portion_of_class_ne hclass, portion_self, portion, if_neg hne] at hweapons
      rw [portion_congr hsource, portion_of_class_ne hclass] at htaken
      omega
    refine ⟨⟨paid, hmem, hpid, fun k => ?_⟩, hkind⟩
    have hat := hstock k
    rw [portion_congr hkind] at hat
    exact Nat.add_right_cancel hat
  · rintro ⟨⟨paid, hmem, hpid, hstock⟩, hspecial⟩
    refine ⟨paid, hmem, hpid, fun k => ?_⟩
    rw [portion_congr hspecial]
    exact congrArg (· + _) (hstock k)

theorem run_reforge_meseta (hid : cmd.itemId = 0xFFFFFFFF)
    (hallowed : 1 ≤ self.meseta ∨ isV4 limits.version = false) :
    (reforge limits cmd).run self = .ok ⟨⟩ (withMeseta 1 (withoutMeseta 1 self)) := by
  have hremove : (removeItem cmd.itemId 1 limits).run self =
      .ok (mesetaItem 1) (withoutMeseta 1 self) := by
    rw [hid]
    exact removeItem_meseta_eq_ok.mpr ⟨hallowed, rfl, rfl⟩
  have hclass : ((mesetaItem 1).withByte 2 cmd.specialType.toUInt8).primaryIdentifier =
      0x04000000 := if_pos (by simp [mesetaItem])
  rw [reforge, run_bind_of_ok hremove]
  exact run_addItem_meseta hclass

theorem run_reforge_poor (hid : cmd.itemId = 0xFFFFFFFF)
    (hrefused : ¬ (1 ≤ self.meseta ∨ isV4 limits.version = false)) :
    ∃ e, (reforge limits cmd).run self = .error e self := by
  rcases hremove : (removeItem cmd.itemId 1 limits).run self with ⟨ret, mid⟩ | ⟨e, mid⟩
  · rw [hid] at hremove
    exact absurd (removeItem_meseta_eq_ok.mp hremove).1 hrefused
  · obtain rfl := removeItem_atomic _ _ _ _ _ _ hremove
    exact ⟨e, run_bind_of_error hremove⟩

/-- A weapon under the ID of meseta stays, and is right if it has the special
already. -/
theorem reforged_meseta_iff (hcost : specialCost cmd.specialType = .ok cost)
    (hfind : self.inventory.findItem cmd.itemId = .ok z)
    (hweapon : (self.inventory.items.get z).data.data1[0] = 0) (hid : cmd.itemId = 0xFFFFFFFF)
    (hsplit : splits cost.toUInt32 limits (self.inventory.items.get y).data = .ok part)
    (hworn : part = true → (self.inventory.items.get y).isEquipped = false)
    (hfilled : FilledWithinLimit limits (self.inventory.items.get y).data) :
    Ends (AddsSpecial limits cmd self) (Kept limits self)
        ((reforge limits cmd).run (takenFrom cost.toUInt32 part self y)) ↔
      ((self.inventory.items.get y).data.primaryIdentifier = 0x03100000 ∧
        cost.toNat ≤ (self.inventory.items.get y).data.quantity limits) ∧
      (self.inventory.items.get z).data.data1[2] = cmd.specialType.toUInt8 ∧
      1 ≤ self.meseta ∧ self.meseta ≤ 999999 := by
  have hmeseta := meseta_takenFrom cost.toUInt32 part self y
  by_cases hallowed : 1 ≤ (takenFrom cost.toUInt32 part self y).meseta ∨
      isV4 limits.version = false
  · rw [run_reforge_meseta hid hallowed, Ends, addsSpecial_iff hcost hfind]
    refine (and_congr (exists_cost_special_iff hcost hweapon hsplit hworn hfilled) ?_).trans
      and_assoc
    rw [← hmeseta, withMeseta_withoutMeseta_iff, RefundsMeseta]
    split
    · rename_i hsome
      exact (and_iff_right hsome).symm
    · rename_i hnone
      refine iff_of_false (fun hfull => hnone ?_) fun h => hnone h.1
      rw [hfull]
      decide
  · obtain ⟨e, hrun⟩ := run_reforge_poor hid hallowed
    rw [hrun, Ends]
    refine iff_of_false (not_kept_takenFrom hsplit hworn hfilled) ?_
    rintro ⟨-, -, hsome, -⟩
    rw [hmeseta] at hallowed
    exact hallowed (.inl hsome)

theorem portion_le (limits : StackLimits) (k : UInt32 ⊕ ItemData) (d : ItemData) (n : Nat) :
    portion limits k d n ≤ n := by
  unfold portion
  split
  · exact Nat.le_refl n
  · exact Nat.zero_le n

theorem requested_one_le (limits : StackLimits) (d : ItemData) : requested limits 1 d ≤ 1 := by
  have hzero : (1 : UInt32) ≠ 0 := by decide
  have hone : (1 : UInt32).toNat = 1 := rfl
  rw [requested, hone]
  simp only [hzero, false_or]
  split <;> omega

/-- Whatever is reforged, at most one item is missing afterwards. -/
theorem ends_reforge (hid : cmd.itemId ≠ 0xFFFFFFFF) {returned thrown : PSOBBCharacterFile → Prop}
    (hrefused : thrown self)
    (hreturned : ∀ self', (∀ d : ItemData, d.data1[0] ≠ 1 →
      stock limits (kind limits d) self.inventory.items ≤
        stock limits (kind limits d) self'.inventory.items + 1) → returned self')
    (hthrown : ∀ self', (∀ d : ItemData, d.data1[0] ≠ 1 →
      stock limits (kind limits d) self'.inventory.items ≤
        stock limits (kind limits d) self.inventory.items) → thrown self') :
    Ends returned thrown ((reforge limits cmd).run self) := by
  rcases hremove : (removeItem cmd.itemId 1 limits).run self with ⟨ret, mid⟩ | ⟨e, mid⟩
  · obtain ⟨w, part, hfind, hsplit, hworn, rfl, rfl⟩ :=
      removes_iff.mp ((removeItem_eq_ok hid).mp hremove)
    have hless : ∀ d : ItemData, d.data1[0] ≠ 1 →
        stock limits (kind limits d) self.inventory.items ≤
          stock limits (kind limits d) (takenFrom 1 part self w).inventory.items + 1 := by
      intro d hd
      have htaken := stock_takenFrom_of_class hsplit hworn hd
      have hportion := portion_le limits (kind limits d) (settled (self.inventory.items.get w)).data
        (requested limits 1 (self.inventory.items.get w).data)
      have hone := requested_one_le limits (self.inventory.items.get w).data
      omega
    rw [reforge, run_bind_of_ok hremove]
    rcases addItem_cases limits ((handedOver 1 part (self.inventory.items.get w)).withByte 2
        cmd.specialType.toUInt8) (takenFrom 1 part self w) with
      ⟨-, hadd⟩ | ⟨-, -, self', hadds, hadd⟩ | ⟨-, -, what, hadd⟩
    · rw [hadd]
      exact hreturned _ hless
    · rw [hadd]
      refine hreturned _ fun d hd => ?_
      have hmore := hless d hd
      rw [stock_adds hadds]
      omega
    · rw [hadd]
      refine hthrown _ fun d hd => ?_
      have htaken := stock_takenFrom_of_class hsplit hworn hd
      omega
  · obtain rfl := removeItem_atomic _ _ _ _ _ _ hremove
    rw [reforge, run_bind_of_error hremove]
    exact hrefused

/-- With the ID of the weapon, the drops cannot be removed: the weapon is taken
for the cost, and the drops are reforged. -/
theorem not_reforged_of_same_id (hcost : specialCost cmd.specialType = .ok cost)
    (hfind : self.inventory.findItem cmd.itemId = .ok z)
    (hweapon : (self.inventory.items.get z).data.data1[0] = 0) (hid : cmd.itemId ≠ 0xFFFFFFFF)
    (hsplit : splits cost.toUInt32 limits (self.inventory.items.get z).data = .ok part)
    (hworn : part = true → (self.inventory.items.get z).isEquipped = false)
    (hfilled : FilledWithinLimit limits (self.inventory.items.get z).data) :
    ¬ Ends (AddsSpecial limits cmd self) (Kept limits self)
        ((reforge limits cmd).run (takenFrom cost.toUInt32 part self z)) := by
  have hown := stock_takenFrom_of_class hsplit hworn
    (show (self.inventory.items.get z).data.data1[0] ≠ 1 by rw [hweapon]; decide)
  have hpos := hfilled.quantity_pos
  have hrequested : 0 < requested limits cost.toUInt32 (self.inventory.items.get z).data := by
    rw [Nat.pos_iff_ne_zero, Ne, requested_eq_zero]
    exact Nat.ne_of_gt hpos
  rw [settled_of_class hweapon, portion_self] at hown
  rw [not_ends_iff]
  refine ends_reforge hid (not_kept_takenFrom hsplit hworn hfilled) ?_ ?_
  · intro self' hmore hadds
    obtain ⟨⟨paid, -, hpid, hstock⟩, -⟩ := (addsSpecial_iff hcost hfind).mp hadds
    have hclass : (settled paid).data.data1[0] ≠ (self.inventory.items.get z).data.data1[0] := by
      rw [hweapon, class_of_paid hpid]
      decide
    have hnot : (settled paid).data.data1[0] ≠ 1 := by
      rw [class_of_paid hpid]
      decide
    have hdrops := hstock (kind limits (settled paid).data)
    rw [portion_self, portion_of_class_ne hclass, portion_of_class_ne
      (by rw [class_withByte_two]; exact hclass)] at hdrops
    have htaken := stock_takenFrom_of_class hsplit hworn hnot
    rw [settled_of_class hweapon, portion_of_class_ne hclass] at htaken
    have hleft := hmore (settled paid).data hnot
    have hcost' := le_of_specialCost hcost
    omega
  · rintro self' hless ⟨hstock, -⟩
    have hsame := hstock (kind limits (self.inventory.items.get z).data)
    have hleft := hless (self.inventory.items.get z).data (by rw [hweapon]; decide)
    omega

/-! The cost is paid with meseta, under whose ID the drops are. -/

theorem not_reforged_of_meseta (hcost : specialCost cmd.specialType = .ok cost)
    (hfind : self.inventory.findItem cmd.itemId = .ok z)
    (hweapon : (self.inventory.items.get z).data.data1[0] = 0) (hsize : self.inventory.items.length ≤ 30)
    (hallowed : cost.toUInt32 ≤ self.meseta ∨ isV4 limits.version = false) :
    ¬ Ends (AddsSpecial limits cmd self) (Kept limits self)
        ((reforge limits cmd).run (withoutMeseta cost.toUInt32 self)) := by
  have hpos := le_of_specialCost hcost
  have hunpaid : ∀ paid : PlayerInventoryItem, paid.data.primaryIdentifier = 0x03100000 →
      ∀ self' : PSOBBCharacterFile, stock limits (kind limits (settled paid).data)
          self'.inventory.items =
        stock limits (kind limits (settled paid).data) self.inventory.items →
      ¬ stock limits (kind limits (settled paid).data) self'.inventory.items +
          portion limits (kind limits (settled paid).data) (settled paid).data cost.toNat +
          portion limits (kind limits (settled paid).data) (self.inventory.items.get z).data 1 =
        stock limits (kind limits (settled paid).data) self.inventory.items +
          portion limits (kind limits (settled paid).data)
            ((self.inventory.items.get z).data.withByte 2 cmd.specialType.toUInt8) 1 := by
    intro paid hpid self' hsame hdrops
    have hclass : (settled paid).data.data1[0] ≠ (self.inventory.items.get z).data.data1[0] := by
      rw [hweapon, class_of_paid hpid]
      decide
    rw [portion_self, portion_of_class_ne hclass, portion_of_class_ne
      (by rw [class_withByte_two]; exact hclass)] at hdrops
    omega
  by_cases hid : cmd.itemId = 0xFFFFFFFF
  · by_cases hleft : 1 ≤ (withoutMeseta cost.toUInt32 self).meseta ∨ isV4 limits.version = false
    · rw [run_reforge_meseta hid hleft, Ends, addsSpecial_iff hcost hfind]
      rintro ⟨⟨paid, -, hpid, hstock⟩, -⟩
      exact hunpaid paid hpid _ rfl (hstock _)
    · obtain ⟨e, hrun⟩ := run_reforge_poor hid hleft
      rw [hrun, Ends]
      rintro ⟨-, hmeseta⟩
      obtain ⟨-, hversion⟩ := not_or.mp hleft
      have henough := UInt32.le_iff_toNat_le.mp (hallowed.resolve_right hversion)
      have hnat : cost.toUInt32.toNat = cost.toNat := UInt8.toNat_toUInt32 cost
      obtain hnone | hnone := withoutMeseta_eq_iff.mp hmeseta
      · rw [hnone, UInt32.toNat_zero] at hnat
        omega
      · rw [hnone, UInt32.toNat_zero] at henough
        omega
  · obtain ⟨self', hrun, -, hstock⟩ := @reforge_eq_ok limits (withoutMeseta cost.toUInt32 self) cmd
      z hid hsize hfind hweapon
    rw [hrun, Ends, addsSpecial_iff hcost hfind]
    rintro ⟨⟨paid, -, hpid, hpaid⟩, -⟩
    refine hunpaid paid hpid self' ?_ (hpaid _)
    have hclass : (settled paid).data.data1[0] ≠ (self.inventory.items.get z).data.data1[0] := by
      rw [hweapon, class_of_paid hpid]
      decide
    have hsame : stock limits (kind limits (settled paid).data) self'.inventory.items +
        portion limits (kind limits (settled paid).data) (self.inventory.items.get z).data 1 =
      stock limits (kind limits (settled paid).data) self.inventory.items +
        portion limits (kind limits (settled paid).data)
          ((self.inventory.items.get z).data.withByte 2 cmd.specialType.toUInt8) 1 := hstock _
    rw [portion_of_class_ne hclass, portion_of_class_ne
      (by rw [class_withByte_two]; exact hclass)] at hsame
    exact hsame

end HuntersGuild.SpecialExchange
