import HuntersGuild.FloorItemBookkeeping

/-!
Runs of a floor item manager: any order of its operations, where items that
were removed may come back until the floor is cleared.
-/

namespace HuntersGuild.FloorItemRuns

open HuntersGuild.Items (ItemData)
open HuntersGuild.FloorItems
open HuntersGuild.FloorItemBookkeeping
open HuntersGuild.OrderedMaps
open HuntersGuild.StatefulPrograms

inductive Operation where
  | add (item : ItemData) (flags : UInt16)
  | readd (fi : Pointer)
  | remove (itemId : UInt32) (clientId : UInt8)
  | evict
  | clearInaccessible (remainingClientsMask : UInt16) (order : IterationOrder)
  | clearPrivate (order : IterationOrder)
  | clear
  | reassignAllItemIds (nextItemId : UInt32)

def Operation.program : Operation → Program Unit
  | .add item flags => FloorItems.add item flags
  | .readd fi => addObject fi
  | .remove itemId clientId => discard (FloorItems.remove itemId clientId)
  | .evict => discard FloorItems.evict
  | .clearInaccessible mask order => FloorItems.clearInaccessible mask order
  | .clearPrivate order => FloorItems.clearPrivate order
  | .clear => FloorItems.clear
  | .reassignAllItemIds nextItemId => discard (FloorItems.reassignAllItemIds nextItemId)

/-- A manager with what happened to it since it was last cleared: the objects
that were removed, and how many new items it was given. -/
structure History where
  manager : FloorItemManager
  removed : List Pointer
  created : Nat

def History.start : History := ⟨.new, [], 0⟩

instance (s : FloorItemManager) (fi : Pointer) : Decidable (Holds s fi) :=
  inferInstanceAs (Decidable (_ = _))

def taken (before after : FloorItemManager) : List Pointer :=
  (before.items.toList.map (·.2)).filter fun fi => ¬ Holds after fi

/-- An operation that throws leaves the manager as it is at that moment. -/
def History.perform (h : History) (op : Operation) : History :=
  let after := finalState (op.program.run h.manager)
  match op with
  | .clear => ⟨after, [], 0⟩
  | .add _ _ => ⟨after, taken h.manager after ++ h.removed, h.created + 1⟩
  | _ => ⟨after, taken h.manager after ++ h.removed, h.created⟩

def History.run (h : History) (ops : List Operation) : History := ops.foldl History.perform h

/-- Only an object that was removed before can be added once more. -/
def Permitted (h : History) : Operation → Prop
  | .readd fi => fi ∈ h.removed
  | _ => True

/-- There is a drop number left for a new item. -/
def Fits (h : History) : Operation → Prop
  | .add _ _ => h.created < 2 ^ 64
  | _ => True

/-- Every operation of a run meets a condition on the history before it. -/
def Follows (P : History → Operation → Prop) (h : History) : List Operation → Prop
  | [] => True
  | op :: ops => P h op ∧ Follows P (h.perform op) ops

instance : (h : History) → (op : Operation) → Decidable (Permitted h op)
  | h, .readd fi => inferInstanceAs (Decidable (fi ∈ h.removed))
  | _, .add _ _ | _, .remove _ _ | _, .evict | _, .clearInaccessible _ _ | _, .clearPrivate _
  | _, .clear | _, .reassignAllItemIds _ => .isTrue trivial

instance : (h : History) → (op : Operation) → Decidable (Fits h op)
  | h, .add _ _ => inferInstanceAs (Decidable (h.created < 2 ^ 64))
  | _, .readd _ | _, .remove _ _ | _, .evict | _, .clearInaccessible _ _ | _, .clearPrivate _
  | _, .clear | _, .reassignAllItemIds _ => .isTrue trivial

instance decidableFollows (P : History → Operation → Prop) [∀ h op, Decidable (P h op)] :
    (h : History) → (ops : List Operation) → Decidable (Follows P h ops)
  | _, [] => .isTrue trivial
  | h, op :: ops =>
    have := decidableFollows P (h.perform op) ops
    inferInstanceAs (Decidable (P h op ∧ Follows P (h.perform op) ops))

/-! What holds in every history. -/

def Known (h : History) (fi : Pointer) : Prop := Holds h.manager fi ∨ fi ∈ h.removed

structure Valid (h : History) : Prop where
  coherent : Coherent h.manager
  allocated : ∀ {fi}, Known h fi → fi < h.manager.allocated
  below : ∀ {fi}, Known h fi → (h.manager.objects fi).dropNumber.toNat < h.created
  apart : ∀ {fi other}, Known h fi → Known h other →
    (h.manager.objects fi).dropNumber = (h.manager.objects other).dropNumber → fi = other
  next : h.manager.nextDropNumber = UInt64.ofNat h.created
  fits : h.created ≤ 2 ^ 64

theorem valid_cleared {s : FloorItemManager} (hitems : s.items = ∅)
    (hqueues : ∀ z, s.queueForClient z = ∅) (hnext : s.nextDropNumber = 0) :
    Valid ⟨s, [], 0⟩ := by
  have hnone {fi : Pointer} : ¬ Known ⟨s, [], 0⟩ fi := by
    rintro (hheld | hremoved)
    · exact not_holds_of_empty hitems hheld
    · exact List.not_mem_nil hremoved
  exact ⟨coherent_of_empty hitems hqueues, fun h => absurd h hnone, fun h => absurd h hnone,
    fun h => absurd h hnone, hnext, Nat.zero_le _⟩

theorem mem_taken {before after : FloorItemManager} (h : Coherent before) {fi : Pointer}
    (hfi : fi ∈ taken before after) : Holds before fi := by
  obtain ⟨it, hit, rfl⟩ := List.mem_map.mp (List.mem_filter.mp hfi).1
  exact h.holds (Std.ExtTreeMap.mem_toList_iff_getElem?_eq_some.mp hit)

theorem Valid.known_of_taken {h : History} (hvalid : Valid h) {after : FloorItemManager}
    {fi : Pointer} (hfi : fi ∈ taken h.manager after ++ h.removed) : Known h fi := by
  rcases List.mem_append.mp hfi with htaken | hremoved
  · exact .inl (mem_taken hvalid.coherent htaken)
  · exact .inr hremoved

/-- Operations that give out no drop number and bring in no unknown object. -/
theorem Valid.of_known {h : History} (hvalid : Valid h) {after : FloorItemManager}
    (hcoherent : Coherent after)
    (hdrop : ∀ fi, (after.objects fi).dropNumber = (h.manager.objects fi).dropNumber)
    (hallocated : after.allocated = h.manager.allocated)
    (hnext : after.nextDropNumber = h.manager.nextDropNumber)
    (hheld : ∀ {fi}, Holds after fi → Known h fi) :
    Valid ⟨after, taken h.manager after ++ h.removed, h.created⟩ := by
  have hknown {fi : Pointer}
      (hfi : Known ⟨after, taken h.manager after ++ h.removed, h.created⟩ fi) : Known h fi := by
    rcases hfi with hafter | hremoved
    · exact hheld hafter
    · exact hvalid.known_of_taken hremoved
  refine ⟨hcoherent, ?_, ?_, ?_, hnext.trans hvalid.next, hvalid.fits⟩
  · intro fi hfi
    exact hallocated ▸ hvalid.allocated (hknown hfi)
  · intro fi hfi
    change (after.objects fi).dropNumber.toNat < h.created
    rw [hdrop fi]
    exact hvalid.below (hknown hfi)
  · intro fi other hfi hother heq
    change (after.objects fi).dropNumber = (after.objects other).dropNumber at heq
    rw [hdrop fi, hdrop other] at heq
    exact hvalid.apart (hknown hfi) (hknown hother) heq

theorem Valid.of_shrinks {h : History} (hvalid : Valid h) {after : FloorItemManager}
    (hcoherent : Coherent after) (hshrinks : Shrinks h.manager after) :
    Valid ⟨after, taken h.manager after ++ h.removed, h.created⟩ :=
  hvalid.of_known hcoherent (fun fi => by rw [hshrinks.objects]) hshrinks.allocated
    hshrinks.nextDropNumber fun hheld => .inl (hshrinks.held hheld)

theorem Valid.unchanged {h : History} (hvalid : Valid h) :
    Valid ⟨h.manager, taken h.manager h.manager ++ h.removed, h.created⟩ :=
  hvalid.of_shrinks hvalid.coherent (.refl _)

theorem Valid.readd {h : History} (hvalid : Valid h) {fi : Pointer} (hfi : fi ∈ h.removed) :
    Valid (h.perform (.readd fi)) := by
  change Valid ⟨finalState ((addObject fi).run h.manager), _, _⟩
  rcases addObject_cases fi h.manager with ⟨hflags, hfree, hrun⟩ | ⟨e, hrun⟩
  · have hnew : ∀ other, Holds h.manager other →
        (h.manager.objects other).dropNumber ≠ (h.manager.objects fi).dropNumber := by
      intro other hother heq
      obtain rfl := hvalid.apart (.inl hother) (.inr hfi) heq
      exact hfree (mem_iff_exists.mpr ⟨_, hother⟩)
    change Valid ⟨_, taken h.manager (finalState ((addObject fi).run h.manager)) ++ h.removed, _⟩
    rw [hrun]
    refine hvalid.of_known (hvalid.coherent.with hflags hfree hnew) (fun _ => rfl) rfl rfl ?_
    intro other hother
    rcases (holds_with hfree).mp hother with rfl | hother
    · exact .inr hfi
    · exact .inl hother
  · change Valid ⟨_, taken h.manager (finalState ((addObject fi).run h.manager)) ++ h.removed, _⟩
    rw [hrun]
    exact hvalid.unchanged

/-! New items. -/

theorem agrees_allocate {s : FloorItemManager} (hallocated : ∀ {fi}, Holds s fi → fi < s.allocated)
    (item : ItemData) (flags : UInt16) : Agrees s (s.allocate item flags) where
  items := rfl
  queueForClient := rfl
  objects := by
    intro fi hheld
    exact Function.update_of_ne (Nat.ne_of_lt (hallocated hheld)) _ _

theorem allocate_object (s : FloorItemManager) (item : ItemData) (flags : UInt16) :
    (s.allocate item flags).objects s.allocated = ⟨item, s.nextDropNumber, flags⟩ :=
  Function.update_self _ _ _

theorem run_add (item : ItemData) (flags : UInt16) (s : FloorItemManager) :
    (add item flags).run s = (addObject s.allocated).run (s.allocate item flags) := rfl

/-- What `add` can leave behind: the new item on the floor, or the floor as it was. -/
theorem Valid.add {h : History} (hvalid : Valid h) (item : ItemData) (flags : UInt16)
    (hfits : h.created < 2 ^ 64) : Valid (h.perform (.add item flags)) := by
  have hagrees := agrees_allocate (fun hheld => hvalid.allocated (.inl hheld)) item flags
  have hcoherent := hagrees.coherent hvalid.coherent
  have hobject := allocate_object h.manager item flags
  have hnumber : h.manager.nextDropNumber.toNat = h.created := by
    rw [hvalid.next, UInt64.toNat_ofNat_of_lt' hfits]
  have hold {fi : Pointer} (hfi : Known h fi) :
      (h.manager.allocate item flags).objects fi = h.manager.objects fi :=
    Function.update_of_ne (Nat.ne_of_lt (hvalid.allocated hfi)) _ _
  -- the objects that are known afterwards are the new one and those known before
  have hafter {after : FloorItemManager} (hcoherent : Coherent after)
      (hobjects : after.objects = (h.manager.allocate item flags).objects)
      (hallocated : after.allocated = h.manager.allocated + 1)
      (hnext : after.nextDropNumber = h.manager.nextDropNumber + 1)
      (hheld : ∀ {fi}, Holds after fi → fi = h.manager.allocated ∨ Holds h.manager fi) :
      Valid ⟨after, taken h.manager after ++ h.removed, h.created + 1⟩ := by
    have hknown {fi : Pointer}
        (hfi : Known ⟨after, taken h.manager after ++ h.removed, h.created + 1⟩ fi) :
        fi = h.manager.allocated ∨ Known h fi := by
      rcases hfi with hon | hremoved
      · exact (hheld hon).imp_right .inl
      · exact .inr (hvalid.known_of_taken hremoved)
    refine ⟨hcoherent, ?_, ?_, ?_, ?_, hfits⟩
    · intro fi hfi
      change fi < after.allocated
      rw [hallocated]
      rcases hknown hfi with rfl | hfi
      · exact Nat.lt_succ_self _
      · exact Nat.lt_succ_of_lt (hvalid.allocated hfi)
    · intro fi hfi
      change (after.objects fi).dropNumber.toNat < h.created + 1
      rw [hobjects]
      rcases hknown hfi with rfl | hfi
      · rw [hobject]
        exact Nat.lt_succ_of_le (Nat.le_of_eq hnumber)
      · rw [hold hfi]
        exact Nat.lt_succ_of_lt (hvalid.below hfi)
    · intro fi other hfi hother heq
      change (after.objects fi).dropNumber = (after.objects other).dropNumber at heq
      rw [hobjects] at heq
      have hne {fi : Pointer} (hfi : Known h fi) :
          (h.manager.objects fi).dropNumber ≠ h.manager.nextDropNumber := by
        intro heq
        exact Nat.ne_of_lt (hvalid.below hfi) ((congrArg UInt64.toNat heq).trans hnumber)
      rcases hknown hfi with rfl | hfi
      · rcases hknown hother with rfl | hother
        · rfl
        · rw [hobject, hold hother] at heq
          exact absurd heq.symm (hne hother)
      · rcases hknown hother with rfl | hother
        · rw [hobject, hold hfi] at heq
          exact absurd heq (hne hfi)
        · rw [hold hfi, hold hother] at heq
          exact hvalid.apart hfi hother heq
    · change after.nextDropNumber = _
      rw [hnext, hvalid.next, UInt64.ofNat_add]
      rfl
  change Valid ⟨finalState ((FloorItems.add item flags).run h.manager),
    taken h.manager (finalState ((FloorItems.add item flags).run h.manager)) ++ h.removed, _⟩
  rw [run_add]
  rcases addObject_cases h.manager.allocated (h.manager.allocate item flags) with
    ⟨hflags, hfree, hrun⟩ | ⟨e, hrun⟩
  · rw [hrun]
    refine hafter (hcoherent.with hflags hfree ?_) rfl rfl rfl ?_
    · intro other hother heq
      have hother := (hagrees.holds_iff hvalid.coherent).mp hother
      rw [hobject, hold (.inl hother)] at heq
      exact Nat.ne_of_lt (hvalid.below (.inl hother)) ((congrArg UInt64.toNat heq).trans hnumber)
    · intro fi hfi
      rcases (holds_with hfree).mp hfi with rfl | hfi
      · exact .inl rfl
      · exact .inr ((hagrees.holds_iff hvalid.coherent).mp hfi)
  · rw [hrun]
    exact hafter hcoherent rfl rfl rfl
      fun hfi => .inr ((hagrees.holds_iff hvalid.coherent).mp hfi)

/-- Every permitted operation keeps the history valid. -/
theorem Valid.perform {h : History} (hvalid : Valid h) (op : Operation) (hpermitted : Permitted h op)
    (hfits : Fits h op) : Valid (h.perform op) := by
  have hrest {x : Program Unit} {after : FloorItemManager} (hrun : finalState (x.run h.manager) = after)
      (hcoherent : Coherent after) (hshrinks : Shrinks h.manager after) :
      Valid ⟨finalState (x.run h.manager),
        taken h.manager (finalState (x.run h.manager)) ++ h.removed, h.created⟩ := by
    rw [hrun]
    exact hvalid.of_shrinks hcoherent hshrinks
  cases op with
  | add item flags => exact hvalid.add item flags hfits
  | readd fi => exact hvalid.readd hpermitted
  | remove itemId clientId =>
      have hfinal : finalState ((discard (FloorItems.remove itemId clientId)).run h.manager) =
          finalState ((FloorItems.remove itemId clientId).run h.manager) := finalState_bind_pure _ _ _
      rcases remove_cases hvalid.coherent itemId clientId with ⟨fi, hitem, hrun⟩ | hrun | hrun
      · rw [hrun] at hfinal
        have hheld := hvalid.coherent.holds hitem
        exact hrest hfinal (hvalid.coherent.without hheld) (shrinks_without hheld)
      · rw [hrun] at hfinal
        exact hrest hfinal hvalid.coherent (.refl _)
      · rw [hrun] at hfinal
        exact hrest hfinal hvalid.coherent (.refl _)
  | evict =>
      obtain ⟨ret, after, hrun, hevicts, -⟩ := run_evict hvalid.coherent
      have hfinal : finalState ((discard FloorItems.evict).run h.manager) =
          finalState (FloorItems.evict.run h.manager) := finalState_bind_pure _ _ _
      rw [hrun] at hfinal
      obtain ⟨hcoherent, hshrinks⟩ := hevicts.kept hvalid.coherent
      exact hrest hfinal hcoherent hshrinks
  | clearInaccessible mask order =>
      obtain ⟨after, hrun, hcoherent, hshrinks⟩ :=
        run_clearWhere (fun flags => flags &&& mask = 0) order hvalid.coherent
      exact hrest (congrArg finalState hrun) hcoherent hshrinks
  | clearPrivate order =>
      obtain ⟨after, hrun, hcoherent, hshrinks⟩ :=
        run_clearWhere (fun flags => flags &&& 0x00F ≠ 0x00F) order hvalid.coherent
      exact hrest (congrArg finalState hrun) hcoherent hshrinks
  | clear => exact valid_cleared rfl (fun _ => rfl) rfl
  | reassignAllItemIds nextItemId =>
      obtain ⟨next, after, hrun, hcoherent, hrenames, hholds⟩ :=
        run_reassignAllItemIds hvalid.coherent nextItemId
      have hfinal : finalState ((discard (FloorItems.reassignAllItemIds nextItemId)).run h.manager) =
          finalState ((FloorItems.reassignAllItemIds nextItemId).run h.manager) :=
        finalState_bind_pure _ _ _
      rw [hrun] at hfinal
      change Valid ⟨finalState ((discard (FloorItems.reassignAllItemIds nextItemId)).run h.manager),
        taken h.manager (finalState ((discard (FloorItems.reassignAllItemIds nextItemId)).run
          h.manager)) ++ h.removed, _⟩
      rw [hfinal]
      exact hvalid.of_known hcoherent hrenames.dropNumber hrenames.allocated
        hrenames.nextDropNumber fun hfi => .inl (hholds.mp hfi)

theorem Valid.run {h : History} (hvalid : Valid h) (ops : List Operation)
    (hpermitted : Follows Permitted h ops) (hfits : Follows Fits h ops) : Valid (h.run ops) := by
  induction ops generalizing h with
  | nil => exact hvalid
  | cons op ops ih =>
      exact ih (hvalid.perform op hpermitted.1 hfits.1) hpermitted.2 hfits.2

/-! What a valid history promises. -/

/-- The call leaves the items and the queues alone if it throws. -/
def ThrowsUnchanged {α : Type} (x : Program α) (s : FloorItemManager) : Prop :=
  ∀ e s', x.run s = .error e s' →
    s'.items = s.items ∧ s'.queueForClient = s.queueForClient

structure Sound (h : History) : Prop where
  queued : ∀ z d fi, (h.manager.queueForClient z)[d]? = some fi ↔
    Holds h.manager fi ∧ (h.manager.objects fi).visibleToClient z ∧
      (h.manager.objects fi).dropNumber = d
  numbered : ∀ fi other, Holds h.manager fi → Holds h.manager other →
    (h.manager.objects fi).dropNumber = (h.manager.objects other).dropNumber → fi = other
  consistent : ∀ itemId clientId, outcome ((remove itemId clientId).run h.manager) ≠
    .error (.logicError "item queue for client is inconsistent")
  remove : ∀ itemId clientId, ThrowsUnchanged (FloorItems.remove itemId clientId) h.manager
  add : ∀ item flags, ThrowsUnchanged (FloorItems.add item flags) h.manager
  readd : ∀ fi ∈ h.removed, ThrowsUnchanged (addObject fi) h.manager
  evict : ∃ ret s', FloorItems.evict.run h.manager = .ok ret s' ∧ Evicts h.manager ret s' ∧
    ∀ z, (s'.queueForClient z).size ≤ 48
  cleared : ∀ doomed order, ∃ s', (clearWhere doomed order).run h.manager = .ok ⟨⟩ s'

theorem throwsUnchanged_addObject (fi : Pointer) (s : FloorItemManager) :
    ThrowsUnchanged (addObject fi) s := by
  intro e s' hrun
  rcases addObject_cases fi s with ⟨-, -, hok⟩ | ⟨e', herror⟩
  · rw [hok] at hrun
    cases hrun
  · rw [herror] at hrun
    cases hrun
    exact ⟨rfl, rfl⟩

theorem throwsUnchanged_remove {s : FloorItemManager} (h : Coherent s) (itemId : UInt32)
    (clientId : UInt8) : ThrowsUnchanged (remove itemId clientId) s := by
  intro e s' hrun
  rcases remove_cases h itemId clientId with ⟨fi, -, hok⟩ | herror | herror
  · rw [hok] at hrun
    cases hrun
  · rw [herror] at hrun
    cases hrun
    exact ⟨rfl, rfl⟩
  · rw [herror] at hrun
    cases hrun
    exact ⟨rfl, rfl⟩

theorem remove_consistent {s : FloorItemManager} (h : Coherent s) (itemId : UInt32)
    (clientId : UInt8) : outcome ((remove itemId clientId).run s) ≠
      .error (.logicError "item queue for client is inconsistent") := by
  rcases remove_cases h itemId clientId with ⟨fi, -, hrun⟩ | hrun | hrun
  · rw [hrun]
    exact fun heq => nomatch heq
  · rw [hrun]
    exact fun heq => nomatch heq
  · rw [hrun]
    exact fun heq => nomatch heq

theorem Valid.sound {h : History} (hvalid : Valid h) : Sound h where
  queued := fun _ _ _ => hvalid.coherent.queued
  numbered := fun _ _ => hvalid.coherent.numbered
  consistent := remove_consistent hvalid.coherent
  remove := throwsUnchanged_remove hvalid.coherent
  add := by
    intro item flags
    exact throwsUnchanged_addObject h.manager.allocated (h.manager.allocate item flags)
  readd := fun fi _ => throwsUnchanged_addObject fi h.manager
  evict := run_evict hvalid.coherent
  cleared := by
    intro doomed order
    obtain ⟨s', hrun, -, -⟩ := run_clearWhere doomed order hvalid.coherent
    exact ⟨s', hrun⟩

theorem valid_start : Valid .start := valid_cleared rfl (fun _ => rfl) rfl

/-- While at most 2^64 new items are added between two clearings, the queues
agree with the item map in every state of a run. -/
theorem sound_of_fits (ops : List Operation) (hpermitted : Follows Permitted .start ops)
    (hfits : Follows Fits .start ops) : Sound (History.start.run ops) :=
  (valid_start.run ops hpermitted hfits).sound

/-- A meseta item. -/
def droppedMeseta (id : UInt32) : ItemData := .ofClass 4 0 id

theorem sound_of_fits_returned : Sound (History.start.run
    [.add (droppedMeseta 1) 0x00F, .remove 1 0, .readd 0, .add (droppedMeseta 2) 0x001, .evict]) :=
  sound_of_fits _ (by decide +kernel) (by decide +kernel)

/-! Drop numbers after 2^64 new items: the next one is in use already. -/

/-- One item stays on the floor while others come and go. -/
def wrappingRun (pairs : Nat) : List Operation :=
  .add (droppedMeseta 1) 0x00F ::
    ((List.replicate pairs [.add (droppedMeseta 2) 0x00F, .remove 2 0xFF]).flatten ++
      [.add (droppedMeseta 3) 0x00F])

/-- The state after some rounds: only the first item is on the floor. -/
structure Lasting (number : UInt64) (s : FloorItemManager) : Prop where
  coherent : Coherent s
  held : ∀ {fi}, Holds s fi ↔ fi = 0
  first : s.objects 0 = ⟨droppedMeseta 1, 0, 0x00F⟩
  allocated : 0 < s.allocated
  next : s.nextDropNumber = number

theorem Lasting.agrees {number : UInt64} {s : FloorItemManager} (h : Lasting number s)
    (item : ItemData) (flags : UInt16) : Agrees s (s.allocate item flags) :=
  agrees_allocate (fun hheld => by rw [h.held.mp hheld]; exact h.allocated) item flags

theorem Lasting.free {number : UInt64} {s : FloorItemManager} (h : Lasting number s) {id : UInt32}
    (hid : id ≠ 1) : id ∉ (s.allocate (droppedMeseta id) 0x00F).items := by
  intro hmem
  obtain ⟨fi, hitem⟩ := mem_iff_exists.mp hmem
  have hkeyed := h.coherent.keyed (show s.items[id]? = some fi from hitem)
  rw [h.held.mp (h.coherent.holds hitem), h.first] at hkeyed
  exact hid hkeyed.symm

/-- One more item next to the lasting one. -/
theorem Lasting.run_add {number : UInt64} {s : FloorItemManager} (h : Lasting number s) {id : UInt32}
    (hid : id ≠ 1) :
    (add (droppedMeseta id) 0x00F).run s =
        .ok ⟨⟩ ((s.allocate (droppedMeseta id) 0x00F).with s.allocated) ∧
      ∀ {fi}, Holds ((s.allocate (droppedMeseta id) 0x00F).with s.allocated) fi ↔
        fi = s.allocated ∨ fi = 0 := by
  have hobject := allocate_object s (droppedMeseta id) 0x00F
  have hfree : ((s.allocate (droppedMeseta id) 0x00F).objects s.allocated).data.id ∉
      (s.allocate (droppedMeseta id) 0x00F).items := by
    rw [hobject]
    exact h.free hid
  refine ⟨?_, ?_⟩
  · rw [FloorItemRuns.run_add]
    refine run_addObject ?_ hfree
    rw [hobject]
    exact (by decide : (0x00F : UInt16) ≠ 0)
  · intro fi
    rw [holds_with hfree, (h.agrees _ _).holds_iff h.coherent, h.held]

theorem Lasting.pair {number : UInt64} {h : History} (hlasting : Lasting number h.manager)
    (hnumber : number ≠ 0) :
    Lasting (number + 1)
      (h.run [.add (droppedMeseta 2) 0x00F, .remove 2 0xFF]).manager := by
  obtain ⟨hrun, hheld⟩ := hlasting.run_add (by decide : (2 : UInt32) ≠ 1)
  have hobject := allocate_object h.manager (droppedMeseta 2) 0x00F
  have hagrees := hlasting.agrees (droppedMeseta 2) 0x00F
  have hcoherent : Coherent ((h.manager.allocate (droppedMeseta 2) 0x00F).with
      h.manager.allocated) := by
    refine (hagrees.coherent hlasting.coherent).with ?_ ?_ ?_
    · rw [hobject]
      exact (by decide : (0x00F : UInt16) ≠ 0)
    · rw [hobject]
      exact hlasting.free (by decide)
    · intro other hother heq
      have hother := (hagrees.holds_iff hlasting.coherent).mp hother
      rw [hagrees.objects hother, hlasting.held.mp hother, hlasting.first, hobject,
        hlasting.next] at heq
      exact hnumber heq.symm
  have hnew : Holds ((h.manager.allocate (droppedMeseta 2) 0x00F).with h.manager.allocated)
      h.manager.allocated := hheld.mpr (.inl rfl)
  have hitem : ((h.manager.allocate (droppedMeseta 2) 0x00F).with
      h.manager.allocated).items[(2 : UInt32)]? = some h.manager.allocated := by
    have hid : (((h.manager.allocate (droppedMeseta 2) 0x00F).with
        h.manager.allocated).objects h.manager.allocated).data.id = 2 := by
      change ((h.manager.allocate (droppedMeseta 2) 0x00F).objects h.manager.allocated).data.id = 2
      rw [hobject]
      rfl
    rw [Holds, hid] at hnew
    exact hnew
  have hremove := run_remove hcoherent hitem (.inl rfl : (0xFF : UInt8) = 0xFF ∨ _)
  have hmanager : (h.run [.add (droppedMeseta 2) 0x00F, .remove 2 0xFF]).manager =
      without ((h.manager.allocate (droppedMeseta 2) 0x00F).with h.manager.allocated)
        h.manager.allocated := by
    change finalState ((discard (FloorItems.remove 2 0xFF)).run
      (finalState ((FloorItems.add (droppedMeseta 2) 0x00F).run h.manager))) = _
    rw [hrun]
    exact (finalState_bind_pure _ _ _).trans (congrArg finalState hremove)
  rw [hmanager]
  refine ⟨hcoherent.without hnew, ?_, ?_, Nat.zero_lt_succ _, congrArg (· + 1) hlasting.next⟩
  · intro fi
    rw [holds_without hnew, hheld]
    constructor
    · rintro ⟨hne, heq | heq⟩
      · exact absurd heq hne
      · exact heq
    · rintro rfl
      exact ⟨Nat.ne_of_lt hlasting.allocated, .inr rfl⟩
  · change (h.manager.allocate (droppedMeseta 2) 0x00F).objects 0 = _
    rw [hagrees.objects (hlasting.held.mpr rfl), hlasting.first]

theorem run_append (h : History) (ops ops' : List Operation) :
    h.run (ops ++ ops') = (h.run ops).run ops' := List.foldl_append

theorem Lasting.pairs (pairs number : Nat) {h : History}
    (hlasting : Lasting (UInt64.ofNat number) h.manager) (hpos : 0 < number)
    (hle : number + pairs ≤ 2 ^ 64) :
    Lasting (UInt64.ofNat (number + pairs)) (h.run
      (List.replicate pairs [.add (droppedMeseta 2) 0x00F, .remove 2 0xFF]).flatten).manager := by
  induction pairs generalizing h number with
  | zero => exact hlasting
  | succ pairs ih =>
      have hnumber : UInt64.ofNat number ≠ 0 := by
        intro hzero
        have hnat := congrArg UInt64.toNat hzero
        rw [UInt64.toNat_ofNat_of_lt' (show number < 2 ^ 64 by omega)] at hnat
        exact Nat.ne_of_gt hpos hnat
      have hnext := hlasting.pair hnumber
      rw [show (1 : UInt64) = UInt64.ofNat 1 from rfl, ← UInt64.ofNat_add] at hnext
      rw [List.replicate_succ, List.flatten_cons, run_append,
        show number + (pairs + 1) = number + 1 + pairs by omega]
      exact ih (number + 1) hnext (Nat.succ_pos number) (by omega)

theorem lasting_first : Lasting 1 (History.start.perform
    (.add (droppedMeseta 1) 0x00F)).manager := by
  have hagrees : Agrees .new (FloorItemManager.new.allocate (droppedMeseta 1) 0x00F) :=
    agrees_allocate (fun hheld => absurd hheld (not_holds_of_empty rfl)) _ _
  have hobject := allocate_object .new (droppedMeseta 1) 0x00F
  have hflags : ((FloorItemManager.new.allocate (droppedMeseta 1) 0x00F).objects 0).flags ≠ 0 := by
    rw [show (0 : Pointer) = FloorItemManager.new.allocated from rfl, hobject]
    exact (by decide : (0x00F : UInt16) ≠ 0)
  have hfree : ((FloorItemManager.new.allocate (droppedMeseta 1) 0x00F).objects 0).data.id ∉
      (FloorItemManager.new.allocate (droppedMeseta 1) 0x00F).items :=
    Std.ExtTreeMap.not_mem_empty
  have hcoherent := coherent_of_empty (s := .new) rfl fun _ => rfl
  change Lasting 1 (finalState ((addObject 0).run
    (FloorItemManager.new.allocate (droppedMeseta 1) 0x00F)))
  rw [run_addObject hflags hfree]
  refine ⟨(hagrees.coherent hcoherent).with hflags hfree ?_, ?_, hobject, Nat.zero_lt_one, rfl⟩
  · intro other hother
    exact absurd hother (not_holds_of_empty rfl)
  · intro fi
    rw [finalState_ok, holds_with hfree]
    exact or_iff_left (not_holds_of_empty rfl)

theorem follows_permitted (h : History) (ops : List Operation)
    (hnone : ∀ op ∈ ops, ∀ h, Permitted h op) : Follows Permitted h ops := by
  induction ops generalizing h with
  | nil => trivial
  | cons op ops ih =>
      exact ⟨hnone op List.mem_cons_self h,
        ih _ fun op' hop' => hnone op' (List.mem_cons_of_mem op hop')⟩

theorem follows_wrappingRun (pairs : Nat) : Follows Permitted .start (wrappingRun pairs) := by
  refine follows_permitted _ _ ?_
  intro op hop h
  rcases List.mem_cons.mp hop with rfl | hop
  · trivial
  · rcases List.mem_append.mp hop with hop | hop
    · obtain ⟨pair, hpair, hop⟩ := List.mem_flatten.mp hop
      obtain rfl := List.eq_of_mem_replicate hpair
      rcases List.mem_cons.mp hop with rfl | hop
      · trivial
      · obtain rfl := List.mem_singleton.mp hop
        trivial
    · obtain rfl := List.mem_singleton.mp hop
      trivial

theorem Lasting.not_sound {before : History} (hlasting : Lasting 0 before.manager) :
    ¬ Sound (before.run [.add (droppedMeseta 3) 0x00F]) := by
  intro hsound
  obtain ⟨hrun, hheld⟩ := hlasting.run_add (by decide : (3 : UInt32) ≠ 1)
  have hmanager : (before.run [.add (droppedMeseta 3) 0x00F]).manager =
      (before.manager.allocate (droppedMeseta 3) 0x00F).with before.manager.allocated :=
    congrArg finalState hrun
  have hagrees := hlasting.agrees (droppedMeseta 3) 0x00F
  have hobject := allocate_object before.manager (droppedMeseta 3) 0x00F
  have hdrop : ((before.manager.allocate (droppedMeseta 3) 0x00F).objects
      before.manager.allocated).dropNumber =
      ((before.manager.allocate (droppedMeseta 3) 0x00F).objects 0).dropNumber := by
    rw [hobject, hagrees.objects (hlasting.held.mpr rfl), hlasting.first]
    exact hlasting.next
  have heq := hsound.numbered before.manager.allocated 0
  rw [hmanager] at heq
  exact Nat.ne_of_gt hlasting.allocated (heq (hheld.mpr (.inl rfl)) (hheld.mpr (.inr rfl)) hdrop)

/-- After 2^64 new items the next one gets the number of the lasting one. -/
theorem not_sound_wrappingRun {pairs : Nat} (hpairs : 1 + pairs = 2 ^ 64) :
    ¬ Sound (History.start.run (wrappingRun pairs)) := by
  have hlasting := lasting_first.pairs pairs 1 Nat.zero_lt_one (Nat.le_of_eq hpairs)
  rw [hpairs, show UInt64.ofNat (2 ^ 64) = 0 from rfl] at hlasting
  rw [wrappingRun, ← List.singleton_append, run_append, run_append]
  exact hlasting.not_sound

/-- The first item's drop number is given out again. -/
theorem wrappingRun_unsound :
    Follows Permitted .start (wrappingRun 18446744073709551615) ∧
      ¬ Sound (History.start.run (wrappingRun 18446744073709551615)) :=
  ⟨follows_wrappingRun _, not_sound_wrappingRun (by decide)⟩

end HuntersGuild.FloorItemRuns
