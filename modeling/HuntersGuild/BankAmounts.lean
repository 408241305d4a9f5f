import HuntersGuild.BankOperations
import HuntersGuild.CallTrace

/-!
The two copies of the count of a bank entry.
-/

namespace HuntersGuild.BankAmounts

open HuntersGuild.BankOperations
open HuntersGuild.CallTrace
open HuntersGuild.ExceptionRules
open HuntersGuild.Items
open HuntersGuild.StatefulPrograms

inductive Op where
  | addItem (item : ItemData)
  | removeItem (itemId amount : UInt32)
  | sort (order : SortOrder)
  | assignIds (baseId : UInt32)
  | enforceStackLimits

def program (limits : StackLimits) : Op → EStateM Exception PlayerBank (Option ItemData)
  | .addItem item => do
      addItem item limits
      return none
  | .removeItem itemId amount => do
      return some (← removeItem itemId amount limits)
  | .sort order => do
      sort order
      return none
  | .assignIds baseId => do
      assignIds baseId
      return none
  | .enforceStackLimits => do
      enforceStackLimits limits
      return none

/-- A run goes on after an exception. -/
def call (limits : StackLimits) (op : Op) (self : PlayerBank) :
    Except Exception (Except Exception (Option ItemData) × PlayerBank) :=
  attempt (program limits op) self

/-- The amount of an entry is the count of its stack, and one for an item that
does not stack. -/
def Agrees (limits : StackLimits) (i : PlayerBankItem) : Prop :=
  i.amount.toNat = i.data.quantity limits

def AmountsAgree (limits : StackLimits) (self : PlayerBank) : Prop :=
  ∀ i ∈ self.items, Agrees limits i

/-- A stack of tools that is empty or too large. -/
def OutOfLimits (limits : StackLimits) (d : ItemData) : Prop :=
  d.data1[0] = 3 ∧ ∃ n, d.maxStackSize limits = .ok n ∧ 1 < n ∧
    (d.data1[5].toNat = 0 ∨ n < d.data1[5].toNat)

/-- Enforcing the limits changes the count of a stack. -/
def Clamps (limits : StackLimits) (self : PlayerBank) : Op → Prop
  | .enforceStackLimits => ∃ i ∈ self.items, OutOfLimits limits i.data
  | _ => False

variable {limits : StackLimits} {self self' : PlayerBank}

theorem AmountsAgree.adds {item : ItemData} (h : AmountsAgree limits self)
    (hadds : Adds item limits self self') : AmountsAgree limits self' := by
  cases hadds with
  | merged combineMax y hmax hfind hfits =>
      obtain ⟨hlt, hkind⟩ := findStack_eq_some hfind
      have hstacks : (self.items.get y).data.Stacks limits :=
        (stacks_of_primaryIdentifier_eq hkind limits).mpr (stacks_iff.mpr ⟨combineMax, hmax, hlt⟩)
      intro i hi
      obtain hmem | rfl := List.mem_or_eq_of_mem_set hi
      · exact h i hmem
      · have hnew := (stacks_of_primaryIdentifier_eq
          (primaryIdentifier_withByte_five (self.items.get y).data
            ((self.items.get y).data.data1[5] + item.data1[5])) limits).mpr hstacks
        rw [Agrees, quantity_of_stacks hnew, data1_withByte_five]
        exact UInt8.toNat_toUInt16 _
  | appended combineMax hmax hnew hroom =>
      intro i hi
      obtain hmem | hlast := List.mem_append.mp hi
      · exact h i hmem
      · obtain rfl := List.mem_singleton.mp hlast
        by_cases hlt : 1 < combineMax
        · rw [Agrees, if_pos hlt, quantity_of_stacks (stacks_iff.mpr ⟨combineMax, hmax, hlt⟩)]
          exact UInt8.toNat_toUInt16 _
        · rw [Agrees, if_neg hlt, quantity_of_not_stacks]
          · rfl
          · rintro hstacks
            obtain ⟨n, hn, hlt'⟩ := stacks_iff.mp hstacks
            obtain rfl : combineMax = n := Except.ok.inj (hmax.symm.trans hn)
            exact hlt hlt'

theorem AmountsAgree.removes {itemId amount : UInt32} {ret : ItemData}
    (h : AmountsAgree limits self) (hremoves : Removes itemId amount limits self ret self') :
    AmountsAgree limits self' := by
  cases hremoves with
  | part index hfind hpart =>
      obtain ⟨hstacks, hpos, hless⟩ := splits_eq_true.mp hpart
      intro i hi
      obtain hmem | rfl := List.mem_or_eq_of_mem_set hi
      · exact h i hmem
      · have hleft := toNat_part_left hpart
        have hold : (self.items.get index).amount.toNat = (self.items.get index).data.data1[5].toNat :=
          (h _ (List.get_mem _ index)).trans (quantity_of_stacks hstacks)
        have hnew := (stacks_of_primaryIdentifier_eq
          (primaryIdentifier_withByte_five (self.items.get index).data
            ((self.items.get index).data.data1[5] - amount.toUInt8)) limits).mpr hstacks
        have htaken : amount.toUInt16.toNat = amount.toNat := by
          rw [UInt32.toNat_toUInt16]
          exact Nat.mod_eq_of_lt (Nat.lt_trans hless (Nat.lt_trans (UInt8.toNat_lt _) (by decide)))
        rw [Agrees, quantity_of_stacks hnew, data1_withByte_five, hleft,
          UInt16.toNat_sub_of_le _ _ (UInt16.le_iff_toNat_le.mpr (by omega)), htaken, hold]
  | entry index hfind hwhole =>
      intro i hi
      exact h i (List.mem_of_mem_eraseIdx hi)

/-- Enforcing the limits of one entry leaves its copies equal unless its count
is changed. -/
theorem agrees_enforce_iff {i : PlayerBankItem} {data : ItemData} (h : Agrees limits i)
    (hdata : i.data.enforceStackSizeLimits limits = .ok data) :
    Agrees limits { i with data := data } ↔ ¬ OutOfLimits limits i.data := by
  unfold ItemData.enforceStackSizeLimits at hdata
  by_cases htool : i.data.data1[0] = 3
  · rw [if_pos htool] at hdata
    obtain ⟨n, hmax, hrest⟩ := bind_eq_ok.mp hdata
    have hstacks : ∀ v, (i.data.withByte 5 v).Stacks limits ↔ i.data.Stacks limits := fun v =>
      stacks_of_primaryIdentifier_eq (primaryIdentifier_withByte_five i.data v) limits
    by_cases hn : 1 < n
    · rw [if_pos hn] at hrest
      obtain rfl := Except.ok.inj hrest
      have hstack : i.data.Stacks limits := stacks_iff.mpr ⟨n, hmax, hn⟩
      have hold : i.amount.toNat = i.data.data1[5].toNat := h.trans (quantity_of_stacks hstack)
      have hout : OutOfLimits limits i.data ↔
          i.data.data1[5].toNat = 0 ∨ n < i.data.data1[5].toNat := by
        simp only [OutOfLimits, htool, true_and, hmax, Except.ok.injEq, exists_eq_left', hn]
      rw [Agrees, quantity_of_stacks ((hstacks _).mpr hstack), data1_withByte_five, hold, hout,
        ← clampCount_eq_self_iff (maxStackSize_lt hmax), ← UInt8.toNat_inj]
      exact eq_comm
    · rw [if_neg hn] at hrest
      obtain rfl := Except.ok.inj hrest
      have hsingle : ¬ i.data.Stacks limits := by
        rw [stacks_iff]
        rintro ⟨m, hm, hlt⟩
        obtain rfl : n = m := Except.ok.inj (hmax.symm.trans hm)
        exact hn hlt
      refine iff_of_true ?_ ?_
      · rw [Agrees, quantity_of_not_stacks (mt (hstacks 0).mp hsingle)]
        exact h.trans (quantity_of_not_stacks hsingle)
      · rintro ⟨-, m, hm, hlt, -⟩
        exact hsingle (stacks_iff.mpr ⟨m, hm, hlt⟩)
  · rw [if_neg htool] at hdata
    obtain rfl := Except.ok.inj hdata
    exact iff_of_true h fun hout => htool hout.1

/-- The limits of all tools are missing if those of one are. -/
theorem not_outOfLimits_of_error {d d' : ItemData} {e : Exception}
    (h : d.enforceStackSizeLimits limits = .error e) : ¬ OutOfLimits limits d' := by
  rintro ⟨htool', n, hn, -⟩
  unfold ItemData.enforceStackSizeLimits at h
  by_cases htool : d.data1[0] = 3
  · rw [if_pos htool] at h
    rcases hmax : d.maxStackSize limits with e' | m
    · rw [maxStackSize_of_nil (eq_nil_of_maxStackSize_error hmax) htool'] at hn
      cases hn
    · rw [hmax, ok_bind] at h
      split at h <;> cases h
  · rw [if_neg htool] at h
    cases h

/-- Enforcing the limits leaves all copies equal unless a count is changed. -/
theorem agree_enforceItems_iff {items : List PlayerBankItem}
    (h : ∀ i ∈ items, Agrees limits i) :
    (∀ i ∈ (enforceItems limits items).1, Agrees limits i) ↔
      ∀ i ∈ items, ¬ OutOfLimits limits i.data := by
  induction items with
  | nil => simp [enforceItems]
  | cons i items ih =>
      obtain ⟨hhead, htail⟩ := List.forall_mem_cons.mp h
      unfold enforceItems
      rcases hdata : i.data.enforceStackSizeLimits limits with e | data
      · exact iff_of_true h fun j _ => not_outOfLimits_of_error hdata
      · simp only [List.forall_mem_cons, agrees_enforce_iff hhead hdata, ih htail]

theorem AmountsAgree.sort (h : AmountsAgree limits self) (order : SortOrder) :
    AmountsAgree limits (self.withItems (order.sorted self.items)) :=
  fun i hi => h i ((order.perm self.items).mem_iff.mp hi)

theorem AmountsAgree.assignIds (h : AmountsAgree limits self) (baseId : UInt32) :
    AmountsAgree limits (self.withItems (self.items.mapIdx fun z item =>
      { item with data := { item.data with id := baseId + z.toUInt32 } })) := by
  intro i hi
  obtain ⟨z, hz, rfl⟩ := List.mem_mapIdx.mp hi
  have hold := h _ (List.getElem_mem hz)
  exact hold

theorem finalState_enforceStackLimits (limits : StackLimits) (self : PlayerBank) :
    finalState ((enforceStackLimits limits).run self) =
      self.withItems (enforceItems limits self.items).1 := by
  unfold enforceStackLimits
  rw [run_get_bind]
  rcases hitems : enforceItems limits self.items with ⟨items, result⟩
  dsimp only
  rw [run_modify_bind]
  cases result <;> rfl

/-- One call keeps the copies equal exactly when it changes no count in the
data alone. -/
theorem amountsAgree_program_iff (h : AmountsAgree limits self) (op : Op) :
    AmountsAgree limits (finalState ((program limits op).run self)) ↔ ¬ Clamps limits self op := by
  cases op with
  | addItem item =>
      refine iff_of_true ?_ id
      rw [program, finalState_bind_pure (f := fun _ => none)]
      by_cases hmeseta : item.primaryIdentifier = 0x04000000
      · rw [addItem, if_pos hmeseta]
        exact h
      · rcases hrun : (addItem item limits).run self with ⟨⟨⟩, self'⟩ | ⟨e, self'⟩
        · exact h.adds ((addItem_eq_ok hmeseta).mp hrun)
        · exact addItem_atomic item limits self e self' hrun ▸ h
  | removeItem itemId amount =>
      refine iff_of_true ?_ id
      rw [program, finalState_bind_pure (f := some)]
      rcases hrun : (removeItem itemId amount limits).run self with ⟨ret, self'⟩ | ⟨e, self'⟩
      · exact h.removes (removeItem_eq_ok.mp hrun)
      · exact removeItem_atomic itemId amount limits self e self' hrun ▸ h
  | sort order => exact iff_of_true (h.sort order) id
  | assignIds baseId => exact iff_of_true (h.assignIds baseId) id
  | enforceStackLimits =>
      rw [program, finalState_bind_pure (f := fun _ => none), finalState_enforceStackLimits]
      refine (agree_enforceItems_iff h).trans ?_
      simp only [Clamps, not_exists, not_and]

/-- The two copies of every count stay equal, through any calls, exactly when
the limits are never enforced on a stack that is empty or too large. -/
theorem amountsAgree_run_iff (limits : StackLimits) (self : PlayerBank) (ops : List Op)
    (hself : AmountsAgree limits self) :
    (∀ c ∈ trace (call limits) self ops,
        AmountsAgree limits (finalState ((program limits c.2).run c.1))) ↔
      ∀ c ∈ trace (call limits) self ops, ¬ Clamps limits c.1 c.2 := by
  have hiff : ∀ s : PlayerBank, AmountsAgree limits s → ∀ op ∈ ops,
      (AmountsAgree limits (finalState ((program limits op).run s)) ↔ ¬ Clamps limits s op) :=
    fun s hs op _ => amountsAgree_program_iff hs op
  have hstep : ∀ s : PlayerBank, AmountsAgree limits s → ∀ op ∈ ops,
      AmountsAgree limits (finalState ((program limits op).run s)) →
        ∀ r s', call limits op s = .ok (r, s') → AmountsAgree limits s' := by
    intro s _ op _ hgood r s' hcall
    obtain ⟨-, rfl⟩ := attempt_eq_ok.mp hcall
    exact hgood
  exact forall_trace_iff (AmountsAgree limits) hiff hstep hself

def sortsBefore (a b : PlayerBankItem) : Bool := ¬ sortWords b.data < sortWords a.data

theorem sortsBefore_iff (a b : PlayerBankItem) :
    sortsBefore a b = true ↔ ¬ sortWords b.data < sortWords a.data := by
  rw [sortsBefore, decide_eq_true_eq]

/-- `std::sort` as a stable sort. -/
def stableOrder : SortOrder where
  sorted items := items.mergeSort sortsBefore
  perm items := List.mergeSort_perm items sortsBefore
  ordered items := by
    have htrans : ∀ a b c, sortsBefore a b = true → sortsBefore b c = true →
        sortsBefore a c = true := by
      intro a b c
      simp only [sortsBefore_iff]
      intro hab hbc
      exact List.not_lt.mpr (List.le_trans (List.not_lt.mp hab) (List.not_lt.mp hbc))
    have htotal : ∀ a b, (sortsBefore a b || sortsBefore b a) = true := by
      intro a b
      simp only [Bool.or_eq_true, sortsBefore_iff, List.not_lt]
      exact List.le_total _ _
    have hsorted := List.pairwise_mergeSort htrans htotal items
    exact hsorted.imp fun h => of_decide_eq_true h

def tools (count : UInt8) (id : UInt32) : ItemData := (ItemData.ofClass 3 0 id).withByte 5 count

/-- A bank with one stack of tools and a mag. -/
def bankOf (count : UInt8) : PlayerBank :=
  ⟨999999, 200, 0, [⟨tools count 1, count.toUInt16, 1⟩, ⟨.ofClass 2 0 2, 1, 1⟩]⟩

def counterOps : List Op :=
  [.addItem (tools 2 3), .removeItem 1 4, .addItem (tools 9 4), .sort stableOrder,
    .enforceStackLimits, .assignIds 0x99000000, .removeItem 0x99000000 0, .removeItem 7 1]

theorem amountsAgree_run_iff_counter :
    (trace (call defaultLimits) (bankOf 5) counterOps).length = 8 ∧
      ((∀ c ∈ trace (call defaultLimits) (bankOf 5) counterOps,
          AmountsAgree defaultLimits (finalState ((program defaultLimits c.2).run c.1))) ↔
        ∀ c ∈ trace (call defaultLimits) (bankOf 5) counterOps,
          ¬ Clamps defaultLimits c.1 c.2) := by
  have hagree : AmountsAgree defaultLimits (bankOf 5) := by
    intro i hi
    have hcases : ∀ i ∈ (bankOf 5).items, i.amount.toNat = i.data.quantity defaultLimits := by
      decide
    exact hcases i hi
  exact ⟨by rfl, amountsAgree_run_iff defaultLimits (bankOf 5) counterOps hagree⟩

/-- A stack of twelve is cut to ten in the data, and its amount stays twelve. -/
theorem amount_not_clamped :
    AmountsAgree defaultLimits (bankOf 12) ∧
      (finalState ((program defaultLimits .enforceStackLimits).run (bankOf 12))).items =
        [⟨tools 10 1, 12, 1⟩, ⟨.ofClass 2 0 2, 1, 1⟩] ∧
      ¬ AmountsAgree defaultLimits
        (finalState ((program defaultLimits .enforceStackLimits).run (bankOf 12))) := by
  have hagree : AmountsAgree defaultLimits (bankOf 12) := by
    intro i hi
    have hcases : ∀ i ∈ (bankOf 12).items, i.amount.toNat = i.data.quantity defaultLimits := by
      decide
    exact hcases i hi
  refine ⟨hagree, by decide +kernel, ?_⟩
  rw [amountsAgree_program_iff hagree, not_not]
  exact ⟨_, List.mem_cons_self, by decide, 10, by rfl, by decide, .inr (by decide)⟩

end HuntersGuild.BankAmounts
