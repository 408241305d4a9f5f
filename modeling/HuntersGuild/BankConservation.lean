import HuntersGuild.BankOperations

/-!
Adding items to a bank and removing them from it moves exact quantities, as
long as no count overflows its byte.
-/

namespace HuntersGuild.BankConservation

open HuntersGuild.BankOperations
open HuntersGuild.Items
open HuntersGuild.StatefulPrograms

/-- What adding an item that is not meseta means: the exact quantity is
gained, stacks are merged exactly when they fit together, and a call that
throws changes nothing. -/
def AddLaw (item : ItemData) (limits : StackLimits) (self : PlayerBank) : Prop :=
  (∀ self', (addItem item limits).run self = .ok ⟨⟩ self' →
    held limits item.primaryIdentifier self'.itemData =
        held limits item.primaryIdentifier self.itemData + item.quantity limits ∧
      self'.meseta = self.meseta) ∧
  (∀ combineMax y, item.maxStackSize limits = .ok combineMax →
    findStack PlayerBankItem.data item.primaryIdentifier combineMax self.items = some y →
      ((∃ self', (addItem item limits).run self = .ok ⟨⟩ self') ↔
        (self.items.get y).data.data1[5].toNat + item.data1[5].toNat ≤ combineMax)) ∧
  ∀ e self', (addItem item limits).run self = .error e self' → self' = self

def RemoveLaw (itemId amount : UInt32) (limits : StackLimits) (self : PlayerBank) : Prop :=
  (∀ ret self', (removeItem itemId amount limits).run self = .ok ret self' →
    held limits ret.primaryIdentifier self'.itemData + ret.quantity limits =
        held limits ret.primaryIdentifier self.itemData ∧
      self'.meseta = self.meseta) ∧
  ∀ e self', (removeItem itemId amount limits).run self = .error e self' → self' = self

variable {item : ItemData} {limits : StackLimits} {self : PlayerBank}

theorem removeLaw (itemId amount : UInt32) (limits : StackLimits) (self : PlayerBank) :
    RemoveLaw itemId amount limits self := by
  constructor
  · intro ret self' hrun
    have hremoves := removeItem_eq_ok.mp hrun
    have hloss := hremoves.held ret.primaryIdentifier
    rw [amountOf_self] at hloss
    exact ⟨hloss, hremoves.meseta_eq⟩
  · exact removeItem_atomic itemId amount limits self

theorem addLaw_of_not_overflows (hitem : item.primaryIdentifier ≠ 0x04000000)
    (hexact : ¬ Overflows item limits self) : AddLaw item limits self := by
  refine ⟨?_, ?_, addItem_atomic item limits self⟩
  · intro self' hrun
    have hadds := (addItem_eq_ok hitem).mp hrun
    have hgain := hadds.held hexact item.primaryIdentifier
    rw [amountOf_self] at hgain
    exact ⟨hgain, hadds.meseta_eq⟩
  · intro combineMax y hmax hfind
    have hsum : (self.items.get y).data.data1[5].toNat + item.data1[5].toNat < 256 := by
      by_contra hge
      exact hexact ⟨combineMax, y, hmax, hfind, Nat.le_of_not_lt hge⟩
    have hcount := UInt8.toNat_add (self.items.get y).data.data1[5] item.data1[5]
    rw [Nat.mod_eq_of_lt hsum] at hcount
    constructor
    · rintro ⟨self', hrun⟩
      cases (addItem_eq_ok hitem).mp hrun with
      | merged combineMax' y' hmax' hfind' hfits =>
          obtain rfl : combineMax = combineMax' := Except.ok.inj (hmax.symm.trans hmax')
          obtain rfl : y = y' := Option.some.inj (hfind.symm.trans hfind')
          exact hcount ▸ hfits
      | appended combineMax' hmax' hnew hroom =>
          obtain rfl : combineMax = combineMax' := Except.ok.inj (hmax.symm.trans hmax')
          rw [hfind] at hnew
          cases hnew
    · intro hfits
      exact ⟨_, (addItem_eq_ok hitem).mpr (.merged combineMax y hmax hfind (hcount ▸ hfits))⟩

/-- Two stacks within the limit that overflow together are taken for a small
stack, which fits. -/
theorem not_addLaw_of_overflows (hself : ∀ d ∈ self.itemData, WithinLimit limits d)
    (hlimit : WithinLimit limits item) (hitem : item.primaryIdentifier ≠ 0x04000000)
    (h : Overflows item limits self) : ¬ AddLaw item limits self := by
  rintro ⟨-, haccepts, -⟩
  obtain ⟨combineMax, y, hmax, hfind, hsum⟩ := h
  obtain ⟨hlt, hkind⟩ := findStack_eq_some hfind
  have hstack : (self.items.get y).data.data1[5].toNat ≤ combineMax :=
    hself _ (List.mem_of_getElem? (getElem?_itemData self y)) combineMax
      ((maxStackSize_of_primaryIdentifier_eq hkind limits).trans hmax) hlt
  have hcount := hlimit combineMax hmax hlt
  have hbyte := maxStackSize_lt hmax
  have hwrapped : ((self.items.get y).data.data1[5] + item.data1[5]).toNat ≤ combineMax := by
    rw [UInt8.toNat_add]
    omega
  have hfits := (haccepts combineMax y hmax hfind).mp
    ⟨_, (addItem_eq_ok hitem).mpr (.merged combineMax y hmax hfind hwrapped)⟩
  omega

/-- The laws of a bank hold exactly when no count overflows. -/
theorem bank_laws_iff (limits : StackLimits) (self : PlayerBank) (item : ItemData)
    (hself : ∀ d ∈ self.itemData, WithinLimit limits d) (hlimit : WithinLimit limits item)
    (hitem : item.primaryIdentifier ≠ 0x04000000) :
    (AddLaw item limits self ∧ ∀ itemId amount, RemoveLaw itemId amount limits self) ↔
      ¬ Overflows item limits self := by
  constructor
  · rintro ⟨hlaw, -⟩ hoverflows
    exact not_addLaw_of_overflows hself hlimit hitem hoverflows hlaw
  · intro hexact
    exact ⟨addLaw_of_not_overflows hitem hexact,
      fun itemId amount => removeLaw itemId amount limits self⟩

/-- A stack of tools. -/
def toolStack (count : UInt8) (itemId : UInt32) : ItemData :=
  (ItemData.ofClass 3 0 itemId).withByte 5 count

/-- A bank with one stack of tools. -/
def stackedBank (count : UInt8) : PlayerBank :=
  ⟨999999, 200, 0, [⟨toolStack count 1, count.toUInt16, 1⟩]⟩

/-- Stacks of up to two hundred tools. -/
def largeLimits : StackLimits := ⟨.bbV4, [200], 999999⟩

theorem bank_laws_iff_stacked :
    (AddLaw (toolStack 60 2) largeLimits (stackedBank 150) ∧
        ∀ itemId amount, RemoveLaw itemId amount largeLimits (stackedBank 150)) ↔
      ¬ Overflows (toolStack 60 2) largeLimits (stackedBank 150) :=
  bank_laws_iff largeLimits (stackedBank 150) (toolStack 60 2) (by decide) (by decide)
    (by decide)

/-- Of three hundred tools in two stacks, forty-four are left. -/
theorem tools_lost :
    (finalState ((addItem (toolStack 150 2) largeLimits).run (stackedBank 150))).items =
        [⟨toolStack 44 1, 44, 1⟩] ∧
      ¬ AddLaw (toolStack 150 2) largeLimits (stackedBank 150) := by
  refine ⟨by decide +kernel, ?_⟩
  exact not_addLaw_of_overflows (by decide) (by decide) (by decide)
    ⟨200, ⟨0, by decide⟩, by rfl, by rfl, by decide⟩

end HuntersGuild.BankConservation
