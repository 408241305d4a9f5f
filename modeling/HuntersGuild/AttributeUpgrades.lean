import HuntersGuild.ExchangeSteps
import HuntersGuild.KeyedLists

/-!
What the upgrade of a weapon attribute changes in an inventory.
-/

namespace HuntersGuild.AttributeUpgrades

open HuntersGuild.BlueBurstSession
open HuntersGuild.CharacterFile
open HuntersGuild.ExceptionRules
open HuntersGuild.ExchangeCommands
open HuntersGuild.ExchangeSteps
open HuntersGuild.InventoryOperations
open HuntersGuild.Items
open HuntersGuild.KeyedLists
open HuntersGuild.StatefulPrograms

def entryId (i : PlayerInventoryItem) : UInt32 := i.data.id

/-- The entry with an ID. -/
def entryOf (inventory : PlayerInventory) (id : UInt32) : Option PlayerInventoryItem :=
  lookup entryId inventory.items id

def DistinctIds (inventory : PlayerInventory) : Prop := (inventory.items.map entryId).Nodup

instance (inventory : PlayerInventory) : Decidable (DistinctIds inventory) :=
  inferInstanceAs (Decidable (inventory.items.map entryId).Nodup)

def paymentIdentifier (cmd : UpgradeWeaponAttribute) : UInt32 :=
  if cmd.paymentType ≠ 0 then 0x03100100 else 0x03100000

/-- A stack with some of it gone. -/
def reduced (count : UInt32) (i : PlayerInventoryItem) : PlayerInventoryItem :=
  { i with data := i.data.withByte 5 (i.data.data1[5] - count.toUInt8) }

/-- What is left of a stack from which a number of units is taken. -/
def left (limits : StackLimits) (count : UInt32) (i : PlayerInventoryItem) :
    Option PlayerInventoryItem :=
  if i.data.quantity limits = count.toNat then none else some (reduced count i)

/-- The payment is gone from one stack, the item has received the attribute, and
every other entry is as it was. -/
def Upgrades (limits : StackLimits) (cmd : UpgradeWeaponAttribute)
    (before after : PlayerInventory) : Prop :=
  ∃ paid ∈ before.items, paid.data.primaryIdentifier = paymentIdentifier cmd ∧
    let paying := fun id =>
      if entryId paid = id then left limits cmd.paymentCount paid else entryOf before id
    (∃ amount i d, attributeAmount cmd = .ok amount ∧ paying cmd.itemId = some i ∧
      raiseAttribute cmd.attributeType amount i.data = .ok d ∧
      entryOf after cmd.itemId = some { i with data := d }) ∧
    ∀ id ≠ cmd.itemId, entryOf after id = paying id

/-- What is promised for each label. Without a label there is no promise. -/
def Keeps (limits : StackLimits) (cmd : UpgradeWeaponAttribute) (session : Session) :
    EStateM.Result Exception Session Bool → Prop
  | .ok true after => Upgrades limits cmd session.character.inventory after.character.inventory
  | .ok false after => after.character.inventory = session.character.inventory
  | .error _ _ => True

/-- The item has a place for the attribute, and the payment is one of the prices. -/
def Upgradable (cmd : UpgradeWeaponAttribute) (item : ItemData) : Prop :=
  (∃ amount, attributeAmount cmd = .ok amount) ∧
    ∃ z, attributeIndex cmd.attributeType item = .ok z

/-- What must be so before the payment is taken: the upgrade is possible, and a
stack that is used up lies behind the item. A stack whose ID is that of meseta
is not taken. -/
def Payable (limits : StackLimits) (l : Lobby) (cmd : UpgradeWeaponAttribute)
    (character : PSOBBCharacterFile) : Prop :=
  l.isGame = true → l.questInProgress = true →
    ∀ x, character.inventory.findItem cmd.itemId = .ok x →
      (character.inventory.items.get x).data.isSRankWeapon = false →
      ∀ y, character.inventory.findItemByPrimaryIdentifier (paymentIdentifier cmd) = .ok y →
        ∀ n, (character.inventory.items.get y).data.stackSize limits = .ok n →
          cmd.paymentCount.toNat ≤ n →
          AfterRemoval limits (character.inventory.items.get y).data.id cmd.paymentCount character
            (¬ Upgradable cmd (character.inventory.items.get x).data)
            fun y' part => Upgradable cmd (character.inventory.items.get x).data ∧
              (part = true ∨ x.val < y'.val)

variable {limits : StackLimits} {l : Lobby} {cmd : UpgradeWeaponAttribute} {session : Session}
  {item : ItemData} {attributeType : UInt32} {amount : UInt8}

/-! The attributes of an item. -/

theorem attributeAmount_eq_ok (h : attributeAmount cmd = .ok amount) :
    amount ≠ 0 ∧ 0 < cmd.paymentCount.toNat ∧ cmd.paymentCount.toNat < 256 := by
  unfold attributeAmount at h
  split at h
  · rename_i hprice
    obtain rfl := Except.ok.inj h
    rw [hprice.2]
    decide
  · split at h
    · rename_i hprice
      obtain rfl := Except.ok.inj h
      rw [hprice.2]
      decide
    · split at h
      · rename_i hprice
        obtain rfl := Except.ok.inj h
        rw [hprice.2]
        decide
      · cases h

theorem attributeIndex_cases {z : Fin 12} (h : attributeIndex attributeType item = .ok z) :
    z = 6 ∨ z = 8 ∨ z = 10 := by
  unfold attributeIndex at h
  dsimp only at h
  split at h
  · rename_i z' hfind
    obtain rfl := Except.ok.inj h
    have hmem := List.mem_of_find?_eq_some hfind
    cases hkills : hasKillCount item <;> simp [hkills] at hmem <;> tauto
  · cases h

/-- The count of a stack is not about attributes. -/
theorem attributeIndex_withByte_five (v : UInt8) :
    attributeIndex attributeType (item.withByte 5 v) = attributeIndex attributeType item := by
  have hkills : hasKillCount (item.withByte 5 v) = hasKillCount item := by
    simp [hasKillCount, ItemData.isSRankWeapon]
  unfold attributeIndex
  simp only [hkills]
  congr 1
  cases hasKillCount item <;> simp [List.find?_cons]

theorem raiseAttribute_of_index {z : Fin 12} (h : attributeIndex attributeType item = .ok z) :
    raiseAttribute attributeType amount item =
      .ok ((item.withByte z attributeType.toUInt8).withByte (z + 1) (item.data1[z + 1] + amount)) := by
  unfold raiseAttribute
  rw [h]
  rfl

theorem raiseAttribute_eq_ok {d : ItemData} (h : raiseAttribute attributeType amount item = .ok d) :
    ∃ z, attributeIndex attributeType item = .ok z ∧
      d = (item.withByte z attributeType.toUInt8).withByte (z + 1) (item.data1[z + 1] + amount) := by
  unfold raiseAttribute at h
  obtain ⟨z, hz, h⟩ := bind_eq_ok.mp h
  exact ⟨z, hz, (Except.ok.inj h).symm⟩

theorem of_raiseAttribute {d : ItemData} (h : raiseAttribute attributeType amount item = .ok d) :
    d.id = item.id ∧ d.data1[5] = item.data1[5] := by
  obtain ⟨z, hz, rfl⟩ := raiseAttribute_eq_ok h
  obtain rfl | rfl | rfl := attributeIndex_cases hz <;> simp

/-- A bonus that is not zero is seen, even if the count differs as well. -/
theorem raiseAttribute_ne {d item' : ItemData} (hamount : amount ≠ 0)
    (hsame : ∀ w : Fin 12, w ≠ 5 → item'.data1[w] = item.data1[w])
    (h : raiseAttribute attributeType amount item' = .ok d) : d ≠ item := by
  obtain ⟨z, hz, rfl⟩ := raiseAttribute_eq_ok h
  rintro rfl
  have hself := hsame (z + 1)
  obtain rfl | rfl | rfl := attributeIndex_cases hz <;>
    · simp at hself
      exact hamount hself

/-! The entries of an inventory. -/

variable {inventory after : PlayerInventory} {x y : Fin inventory.items.length}
  {i paid : PlayerInventoryItem} {d : ItemData}

theorem entryOf_getElem (hids : DistinctIds inventory) (x : Fin inventory.items.length) :
    entryOf inventory (inventory.items.get x).data.id = some (inventory.items.get x) :=
  lookup_key hids (List.get_mem _ x)

theorem eq_of_id (hids : DistinctIds inventory)
    (h : (inventory.items.get x).data.id = (inventory.items.get y).data.id) : x = y := by
  have hx : x.val < (inventory.items.map entryId).length := by simp
  have hy : y.val < (inventory.items.map entryId).length := by simp
  refine Fin.ext ((@List.Nodup.getElem_inj_iff _ _ hids _ hx _ hy).mp ?_)
  simpa [entryId] using h

theorem modify_eq_set {items : List PlayerInventoryItem} {n : Nat} (hi : items[n]? = some i)
    (d : ItemData) : (items.modify n fun j => { j with data := d }) = items.set n { i with data := d } := by
  obtain ⟨hlt, rfl⟩ := List.getElem?_eq_some_iff.mp hi
  exact List.modify_eq_set_get _ hlt

theorem reduced_byte_ne {count : UInt32} (hpos : 0 < count.toNat) (hlt : count.toNat < 256) :
    (reduced count i).data.data1[5] ≠ i.data.data1[5] := by
  have hcount : count.toUInt8.toNat = count.toNat := by
    rw [UInt32.toNat_toUInt8]
    exact Nat.mod_eq_of_lt hlt
  intro h
  have hself : i.data.data1[5] - count.toUInt8 = i.data.data1[5] := by
    simpa [reduced] using h
  have hzero : count.toUInt8 = 0 :=
    (UInt8.sub_right_inj _).mp (hself.trans (UInt8.sub_zero _).symm)
  rw [hzero] at hcount
  simp at hcount
  omega

/-- Whatever way the payment is taken, the upgrade of the entry that has the ID
is what is promised. -/
theorem upgrades_of_paid {items : List PlayerInventoryItem} {n : Nat}
    (hids : (items.map entryId).Nodup) (hpaid : paid ∈ inventory.items)
    (hkind : paid.data.primaryIdentifier = paymentIdentifier cmd)
    (hpaying : ∀ id, lookup entryId items id =
      if entryId paid = id then left limits cmd.paymentCount paid else entryOf inventory id)
    (hi : items[n]? = some i) (hid : entryId i = cmd.itemId)
    (hamount : attributeAmount cmd = .ok amount)
    (hraise : raiseAttribute cmd.attributeType amount i.data = .ok d) :
    Upgrades limits cmd inventory ⟨items.modify n fun j => { j with data := d }⟩ := by
  have hkey : entryId { i with data := d } = entryId i := (of_raiseAttribute hraise).1
  have hset := lookup_set hids hi hkey
  refine ⟨paid, hpaid, hkind, ⟨amount, i, d, hamount, ?_, hraise, ?_⟩, fun id hne => ?_⟩
  · dsimp only
    rw [← hpaying, ← hid]
    exact lookup_key hids (List.mem_of_getElem? hi)
  · rw [entryOf, modify_eq_set hi, hset, if_pos hid]
  · dsimp only
    rw [entryOf, modify_eq_set hi, hset, if_neg fun h => hne (h.symm.trans hid), hpaying]

/-- An entry that is still there as it was has received nothing. -/
theorem not_upgrades_of_kept (hids : DistinctIds inventory)
    (hx : (inventory.items.get x).data.id = cmd.itemId)
    (hkept : ∀ i, entryOf after cmd.itemId = some i → i = inventory.items.get x) :
    ¬ Upgrades limits cmd inventory after := by
  rintro ⟨paid, hpaid, -, ⟨amount, i, d, hamount, hpaying, hraise, hafter⟩, -⟩
  obtain ⟨hnonzero, -⟩ := attributeAmount_eq_ok hamount
  have hdata : d = (inventory.items.get x).data :=
    congrArg PlayerInventoryItem.data (hkept _ hafter)
  have hentry : entryOf inventory cmd.itemId = some (inventory.items.get x) :=
    hx ▸ entryOf_getElem hids x
  refine raiseAttribute_ne hnonzero (fun w hw => ?_) hraise hdata
  dsimp only at hpaying
  split at hpaying
  · rename_i hpid
    have hsame : entryOf inventory (entryId paid) = some paid := lookup_key hids hpaid
    rw [hpid, hentry, Option.some.injEq] at hsame
    subst hsame
    unfold left at hpaying
    split at hpaying
    · cases hpaying
    · obtain rfl := Option.some.inj hpaying
      simp [reduced, Ne.symm hw]
  · rw [hentry, Option.some.injEq] at hpaying
    rw [hpaying]

/-- Nothing has been paid if only the item has changed. -/
theorem not_upgrades_of_unpaid (hids : DistinctIds inventory)
    (hx : (inventory.items.get x).data.id = cmd.itemId)
    (hraise : raiseAttribute cmd.attributeType amount (inventory.items.get x).data = .ok d) :
    ¬ Upgrades limits cmd inventory
      ⟨inventory.items.modify x fun j => { j with data := d }⟩ := by
  rintro ⟨paid, hpaid, -, ⟨amount', i, d', hamount, hpaying, hraise', hafter⟩, hothers⟩
  obtain ⟨-, hpos, hlt⟩ := attributeAmount_eq_ok hamount
  obtain ⟨hid, hcount⟩ := of_raiseAttribute hraise
  obtain ⟨-, hcount'⟩ := of_raiseAttribute hraise'
  have hitem : inventory.items[x.val]? = some (inventory.items.get x) :=
    List.getElem?_eq_getElem x.isLt
  have hset := @lookup_set _ _ _ entryId _ _ { (inventory.items.get x) with data := d } _ hids hitem hid
  have hsame : entryOf inventory (entryId paid) = some paid := lookup_key hids hpaid
  have hleft : ∀ j, left limits cmd.paymentCount paid = some j →
      j.data.data1[5] ≠ paid.data.data1[5] := by
    intro j hj
    unfold left at hj
    split at hj
    · cases hj
    · obtain rfl := Option.some.inj hj
      exact reduced_byte_ne hpos hlt
  by_cases hpid : entryId paid = cmd.itemId
  · dsimp only at hpaying
    rw [if_pos hpid] at hpaying
    have hpaidx : paid = inventory.items.get x := by
      have hentry := entryOf_getElem hids x
      rw [hx, ← hpid, hsame, Option.some.injEq] at hentry
      exact hentry
    have hkey : entryId (inventory.items.get x) = cmd.itemId := hx
    rw [entryOf, modify_eq_set hitem, hset, if_pos hkey, Option.some.injEq] at hafter
    have hdata : d = d' := congrArg PlayerInventoryItem.data hafter
    refine hleft i hpaying ?_
    rw [← hcount', ← hdata, hcount, hpaidx]
  · have hother := hothers _ hpid
    dsimp only at hother
    have hxne : ¬ entryId (inventory.items.get x) = entryId paid := fun h => hpid (h.symm.trans hx)
    rw [if_pos rfl, entryOf, modify_eq_set hitem, hset, if_neg hxne] at hother
    exact hleft paid (hother.symm.trans hsame) rfl

/-- When the stack is used up and lies before the item, or is the item, the entry
that has the ID is not the one at the old index any more. -/
theorem not_upgrades_of_shifted (hids : DistinctIds inventory)
    (hx : (inventory.items.get x).data.id = cmd.itemId) (hle : y ≤ x)
    (hraise : ∀ i, (inventory.items.eraseIdx y)[x.val]? = some i →
      raiseAttribute cmd.attributeType amount i.data = .ok d) :
    ¬ Upgrades limits cmd inventory
      ⟨(inventory.items.eraseIdx y).modify x fun j => { j with data := d }⟩ := by
  have hy : inventory.items[y.val]? = some (inventory.items.get y) := List.getElem?_eq_getElem y.isLt
  have herase := fun id => @lookup_eraseIdx _ _ _ entryId _ _ _ hids hy id
  refine not_upgrades_of_kept hids hx fun i hi => ?_
  have hlookup : lookup entryId (inventory.items.eraseIdx y) cmd.itemId = some i := by
    rcases hnext : (inventory.items.eraseIdx y)[x.val]? with - | j
    · rwa [entryOf, List.modify_eq_self (List.getElem?_eq_none_iff.mp hnext)] at hi
    · -- what is there now was behind the item
      have hne : entryId j ≠ cmd.itemId := by
        intro heq
        rw [List.getElem?_eraseIdx_of_ge (by exact hle)] at hnext
        obtain ⟨hlt, rfl⟩ := List.getElem?_eq_some_iff.mp hnext
        have hsucc := @eq_of_id inventory ⟨x.val + 1, hlt⟩ x hids (heq.trans hx.symm)
        exact absurd (congrArg Fin.val hsucc) (by simp)
      have hkey : entryId { j with data := d } = entryId j := (of_raiseAttribute (hraise j hnext)).1
      rwa [entryOf, modify_eq_set hnext, lookup_set (nodup_eraseIdx hids y) hnext hkey,
        if_neg hne] at hi
  rw [herase] at hlookup
  split at hlookup
  · cases hlookup
  · have hentry := entryOf_getElem hids x
    rw [hx] at hentry
    exact Option.some.inj (hlookup.symm.trans hentry)

/-! The payment. -/

theorem not_isArmor_of_payment {data : ItemData}
    (h : data.primaryIdentifier = paymentIdentifier cmd) : data.isArmor = false := by
  have hclass : data.data1[0] = 3 := by
    by_cases htype : cmd.paymentType = 0
    · have hdrop : (ItemData.ofClass 3 0x10 0).primaryIdentifier = paymentIdentifier cmd := by
        rw [paymentIdentifier, if_neg (not_not.mpr htype)]
        decide
      exact (class_of_primaryIdentifier_eq (h.trans hdrop.symm)).1
    · have hsphere : ((ItemData.ofClass 3 0x10 0).withByte 2 1).primaryIdentifier =
          paymentIdentifier cmd := by
        rw [paymentIdentifier, if_pos htype]
        decide
      exact (class_of_primaryIdentifier_eq (h.trans hsphere.symm)).1
  simp [ItemData.isArmor, hclass]

variable {character : PSOBBCharacterFile} {z : Fin character.inventory.items.length} {n : Nat}

/-- A stack that is used up leaves the entries behind it one place further on. -/
theorem items_takenFrom_whole (hdata : (character.inventory.items.get z).data.isArmor = false)
    (count : UInt32) :
    (takenFrom count false character z).inventory.items =
      character.inventory.items.eraseIdx z := by
  have hz : character.inventory.items[z.val]? = some (character.inventory.items.get z) :=
    List.getElem?_eq_getElem z.isLt
  unfold takenFrom
  rw [if_neg Bool.false_ne_true]
  split
  · change (character.inventory.unequipItemIndex z).items.eraseIdx z = _
    unfold PlayerInventory.unequipItemIndex
    simp only [hz, hdata, Bool.false_eq_true, if_false]
    exact List.eraseIdx_set_eq
  · rfl

theorem items_takenFrom_part (count : UInt32) :
    (takenFrom count true character z).inventory.items =
      character.inventory.items.set z (reduced count (character.inventory.items.get z)) := by
  unfold takenFrom
  rw [if_pos rfl]
  rfl

theorem quantity_of_stackSize (h : item.stackSize limits = .ok n) : item.quantity limits = n := by
  unfold ItemData.quantity
  rw [h]

theorem left_of_part {count : UInt32} (h : splits count limits i.data = .ok true) :
    left limits count i = some (reduced count i) := by
  obtain ⟨hstacks, -, hlt⟩ := splits_eq_true.mp h
  rw [left, if_neg]
  rw [quantity_of_stacks hstacks]
  omega

theorem left_of_whole {count : UInt32} (h : splits count limits i.data = .ok false)
    (hpos : 0 < count.toNat) (hle : count.toNat ≤ i.data.quantity limits) :
    left limits count i = none := by
  have hwhole : ¬ splits count limits i.data = .ok true := by simp [h]
  rw [splits_eq_true] at hwhole
  rw [left, if_pos]
  by_cases hstacks : i.data.Stacks limits
  · rw [quantity_of_stacks hstacks] at hle ⊢
    by_contra hne
    exact hwhole ⟨hstacks, hpos, by omega⟩
  · rw [quantity_of_not_stacks hstacks] at hle ⊢
    omega

/-! The command. -/

/-- What the command does once the payment is taken. -/
def upgrade (cmd : UpgradeWeaponAttribute) (itemIndex paymentIndex : Nat) : Command Unit := do
  let self ← get
  sendDestroyItemToLobby (slot self.character.inventory paymentIndex).id cmd.paymentCount false
  let attributeAmount ← fromExcept (attributeAmount cmd)
  let item ← fromExcept (raiseAttribute cmd.attributeType attributeAmount
    (slot self.character.inventory itemIndex))
  inCharacter (modify fun p => withItems
    (p.inventory.items.modify itemIndex fun i => { i with data := item }) p)
  sendDestroyItemToLobby item.id 1 false
  sendCreateInventoryItemToLobby item false

/-- The result of the command for its labels. -/
def Labelled (limits : StackLimits) (cmd : UpgradeWeaponAttribute) (session : Session)
    (r : EStateM.Result Exception Session Unit) : Prop :=
  Keeps limits cmd session (label cmd.successLabel cmd.failureLabel r)

variable {itemIndex paymentIndex : Nat}

theorem upgradable_iff : Upgradable cmd item ↔
    ∃ amount d, attributeAmount cmd = .ok amount ∧
      raiseAttribute cmd.attributeType amount item = .ok d := by
  constructor
  · rintro ⟨⟨amount, hamount⟩, z, hz⟩
    exact ⟨amount, _, hamount, raiseAttribute_of_index hz⟩
  · rintro ⟨amount, d, hamount, hraise⟩
    obtain ⟨z, hz, -⟩ := raiseAttribute_eq_ok hraise
    exact ⟨⟨amount, hamount⟩, z, hz⟩

/-- The payment is not given back. -/
theorem labelled_upgrade_of_not
    (h : ¬ Upgradable cmd (slot character.inventory itemIndex)) :
    Labelled limits cmd session ((upgrade cmd itemIndex paymentIndex).run { session with
        character := character }) ↔
      character.inventory = session.character.inventory := by
  rw [upgradable_iff] at h
  unfold upgrade
  rw [run_get_bind, sendDestroyItemToLobby, run_send_bind]
  rcases hamount : attributeAmount cmd with e | amount
  · exact Iff.rfl
  rw [run_ok_bind]
  rcases hraise : raiseAttribute cmd.attributeType amount
      (slot character.inventory itemIndex) with e | d
  · exact Iff.rfl
  · exact absurd ⟨amount, d, hamount, hraise⟩ h

theorem labelled_upgrade_of_ok (hamount : attributeAmount cmd = .ok amount)
    (hraise : raiseAttribute cmd.attributeType amount
      (slot character.inventory itemIndex) = .ok d) :
    Labelled limits cmd session ((upgrade cmd itemIndex paymentIndex).run { session with
        character := character }) ↔
      Upgrades limits cmd session.character.inventory
        ⟨character.inventory.items.modify itemIndex fun i => { i with data := d }⟩ := by
  unfold upgrade
  rw [run_get_bind, sendDestroyItemToLobby, run_send_bind, hamount, run_ok_bind, hraise,
    run_ok_bind]
  exact Iff.rfl

theorem slot_of_getElem? {inventory : PlayerInventory} {n : Nat}
    (hi : inventory.items[n]? = some i) : slot inventory n = i.data := by
  rw [slot, hi]

section Payments

variable {x z : Fin session.character.inventory.items.length}

theorem taken_mem (z : Fin session.character.inventory.items.length) :
    (session.character.inventory.items.get z) ∈ session.character.inventory.items :=
  List.get_mem _ z

theorem getElem?_taken (z : Fin session.character.inventory.items.length) :
    session.character.inventory.items[z.val]? = some (session.character.inventory.items.get z) :=
  List.getElem?_eq_getElem z.isLt

/-- A part of a stack pays whatever can be upgraded. -/
theorem labelled_of_part (hids : DistinctIds session.character.inventory)
    (hx : (session.character.inventory.items.get x).data.id = cmd.itemId)
    (hkind : (session.character.inventory.items.get z).data.primaryIdentifier = paymentIdentifier cmd)
    (hsplit : splits cmd.paymentCount limits (session.character.inventory.items.get z).data = .ok true) :
    Labelled limits cmd session ((upgrade cmd x paymentIndex).run { session with
        character := takenFrom cmd.paymentCount true session.character z }) ↔
      Upgradable cmd (session.character.inventory.items.get x).data := by
  have hitems := @items_takenFrom_part session.character z cmd.paymentCount
  generalize hafter : takenFrom cmd.paymentCount true session.character z = character at hitems ⊢
  obtain ⟨-, hpos, hlt⟩ := splits_eq_true.mp hsplit
  have hlt' : cmd.paymentCount.toNat < 256 := Nat.lt_trans hlt (UInt8.toNat_lt _)
  obtain ⟨i, hi, hid, hsame⟩ : ∃ i, character.inventory.items[x.val]? = some i ∧
      entryId i = cmd.itemId ∧
      (Upgradable cmd i.data ↔ Upgradable cmd (session.character.inventory.items.get x).data) := by
    rw [hitems]
    by_cases hxz : z = x
    · subst hxz
      refine ⟨_, List.getElem?_set_self z.isLt, hx, and_congr_right fun _ => ?_⟩
      rw [reduced, attributeIndex_withByte_five]
    · refine ⟨_, ?_, hx, Iff.rfl⟩
      rw [List.getElem?_set_ne fun h => hxz (Fin.ext h)]
      exact getElem?_taken x
  have hslot := slot_of_getElem? hi
  rw [← hsame, ← hslot]
  by_cases hup : Upgradable cmd (slot character.inventory x)
  · obtain ⟨amount, d, hamount, hraise⟩ := upgradable_iff.mp hup
    have hkey : entryId (reduced cmd.paymentCount (session.character.inventory.items.get z)) =
        entryId (session.character.inventory.items.get z) := rfl
    refine iff_of_true ((labelled_upgrade_of_ok hamount hraise).mpr ?_) hup
    refine upgrades_of_paid ?_ (taken_mem z) hkind (fun id => ?_) hi hid hamount
      (hslot ▸ hraise)
    · rw [hitems, map_set_of_key (getElem?_taken z) hkey]
      exact hids
    · rw [hitems, lookup_set hids (getElem?_taken z) hkey]
      rw [left_of_part hsplit]
      rfl
  · refine iff_of_false (mt (labelled_upgrade_of_not hup).mp fun hinventory => ?_) hup
    have hentry := congrArg (fun v : PlayerInventory => v.items[z.val]?) hinventory
    rw [hitems, List.getElem?_set_self z.isLt, getElem?_taken z, Option.some.injEq] at hentry
    exact reduced_byte_ne hpos hlt' (congrArg (fun j : PlayerInventoryItem => j.data.data1[5]) hentry)

/-- A stack that is used up has to lie behind the item. -/
theorem labelled_of_whole (hids : DistinctIds session.character.inventory)
    (hx : (session.character.inventory.items.get x).data.id = cmd.itemId)
    (hkind : (session.character.inventory.items.get z).data.primaryIdentifier = paymentIdentifier cmd)
    (hsplit : splits cmd.paymentCount limits (session.character.inventory.items.get z).data = .ok false)
    (hle : cmd.paymentCount.toNat ≤
      (session.character.inventory.items.get z).data.quantity limits) :
    Labelled limits cmd session ((upgrade cmd x paymentIndex).run { session with
        character := takenFrom cmd.paymentCount false session.character z }) ↔
      Upgradable cmd (session.character.inventory.items.get x).data ∧ x.val < z.val := by
  have hitems := items_takenFrom_whole (not_isArmor_of_payment hkind) cmd.paymentCount
  generalize hafter : takenFrom cmd.paymentCount false session.character z = character at hitems ⊢
  have hlost : character.inventory ≠ session.character.inventory := by
    intro hinventory
    have hlength := congrArg (fun v : PlayerInventory => v.items.length) hinventory
    rw [hitems, List.length_eraseIdx_of_lt z.isLt] at hlength
    have hz := z.isLt
    omega
  by_cases hup : Upgradable cmd (slot character.inventory x)
  · obtain ⟨amount, d, hamount, hraise⟩ := upgradable_iff.mp hup
    rw [labelled_upgrade_of_ok hamount hraise]
    by_cases hlt : x.val < z.val
    · have hi : character.inventory.items[x.val]? = some (session.character.inventory.items.get x) := by
        rw [hitems, List.getElem?_eraseIdx_of_lt hlt]
        exact getElem?_taken x
      have hslot := slot_of_getElem? hi
      refine iff_of_true ?_ ⟨hslot ▸ hup, hlt⟩
      refine upgrades_of_paid ?_ (taken_mem z) hkind (fun id => ?_) hi hx hamount
        (hslot ▸ hraise)
      · rw [hitems]
        exact nodup_eraseIdx hids z
      · obtain ⟨-, hpos, -⟩ := attributeAmount_eq_ok hamount
        rw [hitems, lookup_eraseIdx hids (getElem?_taken z)]
        rw [left_of_whole hsplit hpos hle]
        rfl
    · refine iff_of_false ?_ fun h => hlt h.2
      rw [hitems]
      refine @not_upgrades_of_shifted _ _ amount _ _ _ _ hids hx (Nat.le_of_not_lt hlt) fun i hi => ?_
      rw [← hitems] at hi
      rw [← slot_of_getElem? hi]
      exact hraise
  · refine iff_of_false (mt (labelled_upgrade_of_not hup).mp hlost) fun h => hup ?_
    rw [slot_of_getElem? (i := session.character.inventory.items.get x)]
    · exact h.1
    · rw [hitems, List.getElem?_eraseIdx_of_lt h.2]
      exact getElem?_taken x

/-- A stack under the ID of meseta is not taken, whatever is upgraded. -/
theorem labelled_of_meseta (hids : DistinctIds session.character.inventory)
    (hx : (session.character.inventory.items.get x).data.id = cmd.itemId) :
    Labelled limits cmd session ((upgrade cmd x paymentIndex).run { session with
        character := withoutMeseta cmd.paymentCount session.character }) ↔
      ¬ Upgradable cmd (session.character.inventory.items.get x).data := by
  have hslot : slot (withoutMeseta cmd.paymentCount session.character).inventory x =
      (session.character.inventory.items.get x).data := slot_of_getElem? (getElem?_taken x)
  rw [← hslot]
  by_cases hup : Upgradable cmd (slot (withoutMeseta cmd.paymentCount session.character).inventory x)
  · obtain ⟨amount, d, hamount, hraise⟩ := upgradable_iff.mp hup
    rw [labelled_upgrade_of_ok hamount hraise]
    exact iff_of_false (not_upgrades_of_unpaid hids hx (hslot ▸ hraise)) (not_not.mpr hup)
  · exact iff_of_true ((labelled_upgrade_of_not hup).mpr rfl) hup

end Payments

/-- When an upgrade changes nothing but the item and its payment, and nothing at
all if it fails. -/
theorem keeps_iff (limits : StackLimits) (l : Lobby) (cmd : UpgradeWeaponAttribute)
    (session : Session) (hids : DistinctIds session.character.inventory) :
    Keeps limits cmd session ((onUpgradeWeaponAttributeBb limits l cmd).run session) ↔
      Payable limits l cmd session.character := by
  have hrefused : ∀ e, Labelled limits cmd session (.error e session) := fun _ => rfl
  unfold onUpgradeWeaponAttributeBb Payable
  refine (inQuest_iff fun _ => trivial).trans (forall₂_congr fun _ _ => ?_)
  rw [run_withLabels]
  change Labelled limits cmd session _ ↔ _
  unfold upgradeWeaponAttribute
  rw [run_get_bind]
  refine (fromExcept_bind_iff hrefused).trans (forall₂_congr fun x hx => ?_)
  have hid := findItem_eq_ok hx
  cases hsrank : (session.character.inventory.items.get x).data.isSRankWeapon with
  | true =>
      rw [if_pos rfl]
      exact iff_of_true (hrefused _) nofun
  | false =>
      rw [if_neg Bool.false_ne_true]
      simp only [true_implies]
      refine (fromExcept_bind_iff hrefused).trans (forall₂_congr fun y hy => ?_)
      have hkind := findItemByPrimaryIdentifier_eq_ok hy
      refine (fromExcept_bind_iff hrefused).trans (forall₂_congr fun n hn => ?_)
      have hquantity := quantity_of_stackSize hn
      by_cases hfew : n < cmd.paymentCount.toNat
      · rw [if_pos hfew]
        exact iff_of_true (hrefused _) fun hle => absurd hle (Nat.not_le.mpr hfew)
      · rw [if_neg hfew]
        have hle := Nat.le_of_not_lt hfew
        simp only [hle, true_implies]
        refine (removeItem_bind_iff hrefused).trans (afterRemoval_congr (fun _ _ => ?_) ?_)
        · exact labelled_of_meseta hids hid
        · intro _ z part hz hsplit _
          obtain rfl := eq_of_id hids (findItem_eq_ok hz)
          cases part with
          | true =>
              simp only [true_or, and_true]
              exact labelled_of_part hids hid hkind hsplit
          | false =>
              simp only [Bool.false_eq_true, false_or]
              exact labelled_of_whole hids hid hkind hsplit (hquantity ▸ hle)

/-- Photon drops, a weapon behind them, and an armor behind that. -/
def armory (drops : UInt8) : PlayerInventory :=
  ⟨[⟨1, 0, 0, (ItemData.ofClass 3 0x10 1).withByte 5 drops⟩, ⟨1, 0, 0, .ofClass 0 1 2⟩,
    ⟨1, 0, 0, .ofClass 1 1 3⟩]⟩

def armorySession (drops : UInt8) : Session :=
  ⟨⟨0, armory drops⟩, ⟨0, 200, 0, []⟩, Vector.replicate 12 0x10000, .cleared, []⟩

def upgradeLobby : Lobby := ⟨true, false, 0, 0, true, none⟩

/-- Four drops for one percent. -/
def upgradeByOne : UpgradeWeaponAttribute := ⟨2, 1, 4, 0, 100, 200⟩

theorem keeps_iff_armorySession :
    Keeps defaultLimits upgradeByOne (armorySession 5)
        ((onUpgradeWeaponAttributeBb defaultLimits upgradeLobby upgradeByOne).run
          (armorySession 5)) ↔
      Payable defaultLimits upgradeLobby upgradeByOne (armorySession 5).character :=
  keeps_iff defaultLimits upgradeLobby upgradeByOne (armorySession 5) (by decide)

/-- When there are four drops, all of which are used up, the armor gets the
attribute. -/
theorem not_keeps_armorySession :
    ¬ ∀ (limits : StackLimits) (l : Lobby) (cmd : UpgradeWeaponAttribute) (session : Session),
      DistinctIds session.character.inventory →
        Keeps limits cmd session ((onUpgradeWeaponAttributeBb limits l cmd).run session) := by
  intro h
  have hkeeps := h defaultLimits upgradeLobby upgradeByOne (armorySession 4) (by decide)
  have hrun : ∃ s, (onUpgradeWeaponAttributeBb defaultLimits upgradeLobby upgradeByOne).run
      (armorySession 4) = .ok true s ∧
        entryOf s.character.inventory 2 = some ⟨1, 0, 0, .ofClass 0 1 2⟩ :=
    ⟨_, rfl, by decide +kernel⟩
  obtain ⟨s, hs, hkept⟩ := hrun
  rw [hs] at hkeeps
  refine @not_upgrades_of_kept defaultLimits upgradeByOne (armory 4) s.character.inventory
    ⟨1, by decide⟩ (by decide) (by decide) (fun i hi => ?_) hkeeps
  exact Option.some.inj (hi.symm.trans hkept)

end HuntersGuild.AttributeUpgrades
