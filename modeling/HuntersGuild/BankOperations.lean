import HuntersGuild.Items
import HuntersGuild.StatefulPrograms

/-!
The bank of a player.
-/

namespace HuntersGuild.BankOperations

open HuntersGuild.ExceptionRules
open HuntersGuild.Items
open HuntersGuild.StatefulPrograms

/-- The client reads `amount` where the server reads the count in the data. -/
structure PlayerBankItem where
  data : ItemData
  amount : UInt16
  present : UInt16
deriving DecidableEq

structure PlayerBank where
  maxMeseta : UInt32
  maxItems : UInt32
  meseta : UInt32
  items : List PlayerBankItem
deriving DecidableEq

def PlayerBank.itemData (self : PlayerBank) : List ItemData := self.items.map (·.data)

def PlayerBank.withItems (items : List PlayerBankItem) (self : PlayerBank) : PlayerBank :=
  { self with items := items }

def PlayerBank.findItem (self : PlayerBank) (itemId : UInt32) :
    Except Exception (Fin self.items.length) :=
  match self.items.findFinIdx? (fun i => i.data.id = itemId) with
  | some x => .ok x
  | none => .error (.outOfRange "item not present")

/-- The new count of a stack is a byte, and is compared with the limit as one. -/
def addItem (item : ItemData) (limits : StackLimits) : EStateM Exception PlayerBank Unit := do
  let primaryIdentifier := item.primaryIdentifier
  if primaryIdentifier = 0x04000000 then
    modify fun self =>
      let meseta := self.meseta + item.data2d
      { self with meseta := if self.maxMeseta < meseta then self.maxMeseta else meseta }
  else
    let combineMax ← fromExcept (item.maxStackSize limits)
    let self ← get
    match findStack PlayerBankItem.data primaryIdentifier combineMax self.items with
    | some y =>
        let stack := self.items.get y
        let newCount := stack.data.data1[5] + item.data1[5]
        if combineMax < newCount.toNat then
          throw (.runtimeError "stack size would exceed limit")
        else
          modify (·.withItems (self.items.set y { stack with
            data := stack.data.withByte 5 newCount
            amount := newCount.toUInt16 }))
    | none =>
        if self.maxItems.toNat ≤ self.items.length then
          throw (.runtimeError "no free space in bank")
        else
          let amount := if 1 < combineMax then item.data1[5].toUInt16 else 1
          modify (·.withItems (self.items ++ [⟨item, amount, 1⟩]))

def removeItem (itemId amount : UInt32) (limits : StackLimits) :
    EStateM Exception PlayerBank ItemData := do
  let self ← get
  let index ← fromExcept (self.findItem itemId)
  let bankItem := self.items.get index
  if ← fromExcept (splits amount limits bankItem.data) then
    modify (·.withItems (self.items.set index { bankItem with
      data := bankItem.data.withByte 5 (bankItem.data.data1[5] - amount.toUInt8)
      amount := bankItem.amount - amount.toUInt16 }))
    return bankItem.data.withByte 5 amount.toUInt8
  else
    modify (·.withItems (self.items.eraseIdx index))
    return bankItem.data

/-- The data of an item as four big-endian words, in the order in which they
are compared. -/
def sortWords (d : ItemData) : List Nat :=
  [(word d.data1[0] d.data1[1] d.data1[2] d.data1[3]).toNat,
    (word d.data1[4] d.data1[5] d.data1[6] d.data1[7]).toNat,
    (word d.data1[8] d.data1[9] d.data1[10] d.data1[11]).toNat,
    (word d.data2d.toUInt8 (d.data2d >>> 8).toUInt8 (d.data2d >>> 16).toUInt8
      (d.data2d >>> 24).toUInt8).toNat]

/-- One of the orders in which `std::sort` may leave the entries: it puts
smaller entries before larger ones and equal ones in any order. -/
structure SortOrder where
  sorted : List PlayerBankItem → List PlayerBankItem
  perm : ∀ items, (sorted items).Perm items
  ordered : ∀ items,
    (sorted items).Pairwise fun a b => ¬ sortWords b.data < sortWords a.data

def sort (order : SortOrder) : EStateM Exception PlayerBank Unit :=
  modify fun self => self.withItems (order.sorted self.items)

def assignIds (baseId : UInt32) : EStateM Exception PlayerBank Unit :=
  modify fun self => self.withItems (self.items.mapIdx fun z item =>
    { item with data := { item.data with id := baseId + z.toUInt32 } })

/-- The entries after the loop, and the exception that has ended it early. -/
def enforceItems (limits : StackLimits) :
    List PlayerBankItem → List PlayerBankItem × Except Exception Unit
  | [] => ([], .ok ())
  | item :: items =>
      match item.data.enforceStackSizeLimits limits with
      | .error e => (item :: items, .error e)
      | .ok data =>
          let (rest, result) := enforceItems limits items
          ({ item with data := data } :: rest, result)

def enforceStackLimits (limits : StackLimits) : EStateM Exception PlayerBank Unit := do
  let self ← get
  let (items, result) := enforceItems limits self.items
  modify (·.withItems items)
  fromExcept result

/-! What the two calls do when they return. -/

/-- An item that is not meseta is merged into a stack or takes a new entry. -/
inductive Adds (item : ItemData) (limits : StackLimits) (self : PlayerBank) :
    PlayerBank → Prop
  | merged (combineMax : Nat) (y : Fin self.items.length)
      (hmax : item.maxStackSize limits = .ok combineMax)
      (hfind : findStack PlayerBankItem.data item.primaryIdentifier combineMax self.items =
        some y)
      (hfits : ((self.items.get y).data.data1[5] + item.data1[5]).toNat ≤ combineMax) :
      Adds item limits self (self.withItems (self.items.set y { (self.items.get y) with
        data := (self.items.get y).data.withByte 5 ((self.items.get y).data.data1[5] + item.data1[5])
        amount := ((self.items.get y).data.data1[5] + item.data1[5]).toUInt16 }))
  | appended (combineMax : Nat) (hmax : item.maxStackSize limits = .ok combineMax)
      (hnew : findStack PlayerBankItem.data item.primaryIdentifier combineMax self.items = none)
      (hroom : self.items.length < self.maxItems.toNat) :
      Adds item limits self (self.withItems (self.items ++
        [⟨item, if 1 < combineMax then item.data1[5].toUInt16 else 1, 1⟩]))

/-- A part of a stack, or a whole entry. -/
inductive Removes (itemId amount : UInt32) (limits : StackLimits) (self : PlayerBank) :
    ItemData → PlayerBank → Prop
  | part (index : Fin self.items.length) (hfind : self.findItem itemId = .ok index)
      (hpart : splits amount limits (self.items.get index).data = .ok true) :
      Removes itemId amount limits self ((self.items.get index).data.withByte 5 amount.toUInt8)
        (self.withItems (self.items.set index { (self.items.get index) with
          data := (self.items.get index).data.withByte 5
            ((self.items.get index).data.data1[5] - amount.toUInt8)
          amount := (self.items.get index).amount - amount.toUInt16 }))
  | entry (index : Fin self.items.length) (hfind : self.findItem itemId = .ok index)
      (hwhole : splits amount limits (self.items.get index).data = .ok false) :
      Removes itemId amount limits self (self.items.get index).data
        (self.withItems (self.items.eraseIdx index))

variable {item : ItemData} {limits : StackLimits} {self self' : PlayerBank}
  {itemId amount : UInt32}

theorem addItem_atomic (item : ItemData) (limits : StackLimits) :
    Atomic (addItem item limits) := by
  unfold addItem
  dsimp only
  split
  · exact (throwless_modify _).atomic
  · refine (readOnly_fromExcept _).bind_atomic fun combineMax => ?_
    refine readOnly_get.bind_atomic fun self => ?_
    split
    · split
      · exact (readOnly_throw _).atomic
      · exact (throwless_modify _).atomic
    · split
      · exact (readOnly_throw _).atomic
      · exact (throwless_modify _).atomic

theorem removeItem_atomic (itemId amount : UInt32) (limits : StackLimits) :
    Atomic (removeItem itemId amount limits) := by
  refine readOnly_get.bind_atomic fun self => ?_
  refine (readOnly_fromExcept _).bind_atomic fun index => ?_
  refine (readOnly_fromExcept _).bind_atomic fun part => ?_
  split
  · exact ((throwless_modify _).bind fun _ => throwless_pure _).atomic
  · exact ((throwless_modify _).bind fun _ => throwless_pure _).atomic

theorem addItem_eq_ok (hitem : item.primaryIdentifier ≠ 0x04000000) :
    (addItem item limits).run self = .ok ⟨⟩ self' ↔ Adds item limits self self' := by
  unfold addItem
  dsimp only
  rw [if_neg hitem]
  constructor
  · intro h
    rcases hmax : item.maxStackSize limits with e | combineMax
    · rw [hmax, run_error_bind] at h
      cases h
    rw [hmax, run_ok_bind, run_get_bind] at h
    rcases hfind : findStack PlayerBankItem.data item.primaryIdentifier combineMax self.items
      with - | y
    · simp only [hfind] at h
      by_cases hroom : self.maxItems.toNat ≤ self.items.length
      · rw [if_pos hroom] at h
        cases h
      · rw [if_neg hroom] at h
        cases h
        exact .appended combineMax hmax hfind (Nat.lt_of_not_le hroom)
    · simp only [hfind] at h
      by_cases hfits : combineMax < ((self.items.get y).data.data1[5] + item.data1[5]).toNat
      · rw [if_pos hfits] at h
        cases h
      · rw [if_neg hfits] at h
        cases h
        exact .merged combineMax y hmax hfind (Nat.le_of_not_lt hfits)
  · intro h
    cases h with
    | merged combineMax y hmax hfind hfits =>
        rw [hmax, run_ok_bind, run_get_bind]
        simp only [hfind, if_neg (Nat.not_lt.mpr hfits)]
        rfl
    | appended combineMax hmax hnew hroom =>
        rw [hmax, run_ok_bind, run_get_bind]
        simp only [hnew, if_neg (Nat.not_le.mpr hroom)]
        rfl

theorem removeItem_eq_ok {ret : ItemData} :
    (removeItem itemId amount limits).run self = .ok ret self' ↔
      Removes itemId amount limits self ret self' := by
  unfold removeItem
  rw [run_get_bind]
  constructor
  · intro h
    rcases hfind : self.findItem itemId with e | index
    · rw [hfind, run_error_bind] at h
      cases h
    rw [hfind, run_ok_bind] at h
    rcases hsplit : splits amount limits (self.items.get index).data with e | part
    · simp only [hsplit, run_error_bind] at h
      cases h
    simp only [hsplit, run_ok_bind] at h
    cases part with
    | true =>
        rw [if_pos rfl] at h
        cases h
        exact .part index hfind hsplit
    | false =>
        rw [if_neg Bool.false_ne_true] at h
        cases h
        exact .entry index hfind hsplit
  · intro h
    cases h with
    | part index hfind hpart =>
        rw [hfind, run_ok_bind]
        simp only [hpart, run_ok_bind]
        rfl
    | entry index hfind hwhole =>
        rw [hfind, run_ok_bind]
        simp only [hwhole, run_ok_bind]
        rfl

theorem run_addItem_meseta (hitem : item.primaryIdentifier = 0x04000000) :
    (addItem item limits).run self = .ok ⟨⟩ { self with
      meseta := if self.maxMeseta < self.meseta + item.data2d then self.maxMeseta
        else self.meseta + item.data2d } := by
  unfold addItem
  dsimp only
  rw [if_pos hitem]
  rfl

/-! Quantities. -/

theorem itemData_set (x : Nat) (i : PlayerBankItem) :
    (self.withItems (self.items.set x i)).itemData = self.itemData.set x i.data :=
  List.map_set

theorem itemData_append (i : PlayerBankItem) :
    (self.withItems (self.items ++ [i])).itemData = self.itemData ++ [i.data] :=
  List.map_append

theorem itemData_eraseIdx (x : Nat) :
    (self.withItems (self.items.eraseIdx x)).itemData = self.itemData.eraseIdx x :=
  (List.eraseIdx_map _ _ _).symm

theorem getElem?_itemData (self : PlayerBank) (x : Fin self.items.length) :
    self.itemData[x.val]? = some (self.items.get x).data := by
  simp only [PlayerBank.itemData, List.getElem?_map, List.get_eq_getElem,
    List.getElem?_eq_getElem x.isLt, Option.map_some]

/-- The stack that the item is merged into cannot count that far. -/
def Overflows (item : ItemData) (limits : StackLimits) (self : PlayerBank) : Prop :=
  ∃ combineMax y, item.maxStackSize limits = .ok combineMax ∧
    findStack PlayerBankItem.data item.primaryIdentifier combineMax self.items = some y ∧
    256 ≤ (self.items.get y).data.data1[5].toNat + item.data1[5].toNat

/-- Adding an item adds its quantity, unless a count overflows. -/
theorem Adds.held (h : Adds item limits self self') (hexact : ¬ Overflows item limits self)
    (k : UInt32) :
    held limits k self'.itemData = held limits k self.itemData + amountOf limits k item := by
  cases h with
  | merged combineMax y hmax hfind hfits =>
      obtain ⟨hlt, hkind⟩ := findStack_eq_some hfind
      have hsum : (self.items.get y).data.data1[5].toNat + item.data1[5].toNat < 256 := by
        by_contra hge
        exact hexact ⟨combineMax, y, hmax, hfind, Nat.le_of_not_lt hge⟩
      rw [itemData_set]
      refine held_merge (getElem?_itemData self y) hkind
        (stacks_iff.mpr ⟨combineMax, hmax, hlt⟩) ?_ k
      rw [UInt8.toNat_add, Nat.mod_eq_of_lt hsum]
  | appended combineMax hmax hnew hroom =>
      rw [itemData_append]
      exact held_append_singleton limits self.itemData item k

/-- What is removed is what is returned. -/
theorem Removes.held {ret : ItemData} (h : Removes itemId amount limits self ret self')
    (k : UInt32) :
    held limits k self'.itemData + amountOf limits k ret = held limits k self.itemData := by
  cases h with
  | part index hfind hpart =>
      rw [itemData_set]
      exact held_split (getElem?_itemData self index) hpart k
  | entry index hfind hwhole =>
      rw [itemData_eraseIdx]
      exact held_eraseIdx limits (getElem?_itemData self index) k

theorem Adds.meseta_eq (h : Adds item limits self self') : self'.meseta = self.meseta := by
  cases h <;> rfl

theorem Removes.meseta_eq {ret : ItemData} (h : Removes itemId amount limits self ret self') :
    self'.meseta = self.meseta := by
  cases h <;> rfl

/-! When the two calls return. -/

/-- An item that a bank can take is added, and its stack can count that far. -/
theorem exists_adds_iff :
    (∃ self', Adds item limits self self') ∧ ¬ Overflows item limits self ↔
      Accepts PlayerBankItem.data self.maxItems.toNat limits item item.data1[5].toNat
        self.items := by
  constructor
  · rintro ⟨⟨self', h⟩, hexact⟩
    cases h with
    | merged combineMax y hmax hfind hfits =>
        refine ⟨combineMax, hmax, ?_⟩
        have hsum : (self.items.get y).data.data1[5].toNat + item.data1[5].toNat < 256 := by
          by_contra hge
          exact hexact ⟨combineMax, y, hmax, hfind, Nat.le_of_not_lt hge⟩
        rw [UInt8.toNat_add, Nat.mod_eq_of_lt hsum] at hfits
        rw [hfind]
        exact hfits
    | appended combineMax hmax hnew hroom =>
        refine ⟨combineMax, hmax, ?_⟩
        rw [hnew]
        exact hroom
  · rintro ⟨combineMax, hmax, hplace⟩
    have hlimit := maxStackSize_lt hmax
    rcases hfind : findStack PlayerBankItem.data item.primaryIdentifier combineMax self.items
      with - | y
    · rw [hfind] at hplace
      refine ⟨⟨_, .appended combineMax hmax hfind hplace⟩, ?_⟩
      rintro ⟨combineMax', y, hmax', hfind', -⟩
      cases hmax.symm.trans hmax'
      cases hfind.symm.trans hfind'
    · rw [hfind] at hplace
      dsimp only at hplace
      refine ⟨⟨_, .merged combineMax y hmax hfind ?_⟩, ?_⟩
      · rw [UInt8.toNat_add, Nat.mod_eq_of_lt (by omega)]
        exact hplace
      · rintro ⟨combineMax', y', hmax', hfind', hge⟩
        cases hmax.symm.trans hmax'
        cases hfind.symm.trans hfind'
        omega

/-- A stack that cannot count that far loses 256 items. -/
theorem held_of_overflows (h : Adds item limits self self')
    (hover : Overflows item limits self) :
    held limits item.primaryIdentifier self'.itemData + 256 =
      held limits item.primaryIdentifier self.itemData +
        amountOf limits item.primaryIdentifier item := by
  obtain ⟨combineMax', y', hmax', hfind', hge⟩ := hover
  cases h with
  | appended combineMax hmax hnew hroom =>
      cases hmax.symm.trans hmax'
      cases hnew.symm.trans hfind'
  | merged combineMax y hmax hfind hfits =>
      obtain rfl : combineMax = combineMax' := Except.ok.inj (hmax.symm.trans hmax')
      obtain rfl : y = y' := Option.some.inj (hfind.symm.trans hfind')
      obtain ⟨hlt, hkind⟩ := findStack_eq_some hfind
      have hitem : item.Stacks limits := stacks_iff.mpr ⟨combineMax, hmax, hlt⟩
      have hstacks := (stacks_of_primaryIdentifier_eq hkind limits).mpr hitem
      have hset := held_set limits (getElem?_itemData self y)
        ((self.items.get y).data.withByte 5 ((self.items.get y).data.data1[5] + item.data1[5]))
        item.primaryIdentifier
      rw [amountOf_withByte_five hstacks, amountOf_of_stacks hstacks, if_pos hkind, if_pos hkind,
        UInt8.toNat_add] at hset
      rw [itemData_set, amountOf_of_stacks hitem, if_pos rfl]
      dsimp only
      have := UInt8.toNat_lt (self.items.get y).data.data1[5]
      have := UInt8.toNat_lt item.data1[5]
      omega

theorem Removes.taken {ret : ItemData} (h : Removes itemId amount limits self ret self') :
    ∃ index part, self.findItem itemId = .ok index ∧
      Taken amount limits (self.items.get index).data ret part := by
  cases h with
  | part index hfind hpart =>
      refine ⟨index, true, hfind, hpart, ?_, ?_, rfl⟩
      · rw [primaryIdentifier_withByte_five]
      · rw [if_pos rfl, ← toNat_part_taken hpart]
        exact congrArg UInt8.toNat (data1_withByte_five _ _)
  | entry index hfind hwhole => exact ⟨index, false, hfind, hwhole, rfl, rfl, rfl⟩

theorem exists_removes {index : Fin self.items.length} {part : Bool}
    (hfind : self.findItem itemId = .ok index)
    (hsplit : splits amount limits (self.items.get index).data = .ok part) :
    ∃ ret self', Removes itemId amount limits self ret self' := by
  cases part with
  | true => exact ⟨_, _, .part index hfind hsplit⟩
  | false => exact ⟨_, _, .entry index hfind hsplit⟩

theorem Removes.ne {ret : ItemData} (h : Removes itemId amount limits self ret self') :
    self' ≠ self := by
  intro heq
  have hitems := congrArg (·.items) heq
  cases h with
  | part index hfind hpart =>
      obtain ⟨-, hpos, hless⟩ := splits_eq_true.mp hpart
      have hleft := toNat_part_left hpart
      have hentry := congrArg (·[index.val]?) hitems
      simp only [PlayerBank.withItems, List.getElem?_set_self index.isLt,
        List.getElem?_eq_getElem index.isLt, Option.some.injEq] at hentry
      have hcount := congrArg (fun i => i.data.data1[5]) hentry
      simp only [data1_withByte_five] at hcount
      rw [hcount] at hleft
      simp only [List.get_eq_getElem] at hleft hpos hless
      omega
  | entry index hfind hwhole =>
      have hlength := congrArg List.length hitems
      simp only [PlayerBank.withItems, List.length_eraseIdx_of_lt index.isLt] at hlength
      have := index.isLt
      omega

/-! Bounds of the meseta in the bank. -/

theorem Adds.maxMeseta_eq (h : Adds item limits self self') :
    self'.maxMeseta = self.maxMeseta := by
  cases h <;> rfl

theorem Removes.maxMeseta_eq {ret : ItemData}
    (h : Removes itemId amount limits self ret self') : self'.maxMeseta = self.maxMeseta := by
  cases h <;> rfl

theorem keeps_addItem (item : ItemData) (limits : StackLimits) :
    Keeps (fun self : PlayerBank => self.meseta ≤ self.maxMeseta) (addItem item limits) := by
  intro self hself
  by_cases hmeseta : item.primaryIdentifier = 0x04000000
  · rw [run_addItem_meseta hmeseta, finalState_ok]
    dsimp only
    split
    · exact UInt32.le_refl _
    · rename_i hfits
      exact UInt32.not_lt.mp hfits
  · rcases hadd : (addItem item limits).run self with ⟨⟨⟩, self'⟩ | ⟨e, self'⟩
    · have hadds := (addItem_eq_ok hmeseta).mp hadd
      rw [finalState_ok, hadds.meseta_eq, hadds.maxMeseta_eq]
      exact hself
    · obtain rfl := addItem_atomic _ _ _ _ _ hadd
      exact hself

/-- Removing an item touches no meseta. -/
theorem removeItem_meseta (itemId amount : UInt32) (limits : StackLimits) (self : PlayerBank) :
    (finalState ((removeItem itemId amount limits).run self)).meseta = self.meseta ∧
      (finalState ((removeItem itemId amount limits).run self)).maxMeseta = self.maxMeseta := by
  rcases hremove : (removeItem itemId amount limits).run self with ⟨ret, self'⟩ | ⟨e, self'⟩
  · have hremoves := removeItem_eq_ok.mp hremove
    exact ⟨hremoves.meseta_eq, hremoves.maxMeseta_eq⟩
  · obtain rfl := removeItem_atomic _ _ _ _ _ _ hremove
    exact ⟨rfl, rfl⟩

end HuntersGuild.BankOperations
