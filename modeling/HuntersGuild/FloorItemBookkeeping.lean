import HuntersGuild.FloorItems
import Mathlib.Data.List.Nodup

/-!
The map of floor items and the queues of the clients agree with each other in
every state that a floor item manager can reach.
-/

namespace HuntersGuild.FloorItemBookkeeping

open HuntersGuild.Items (ItemData)
open HuntersGuild.FloorItems
open HuntersGuild.OrderedMaps
open HuntersGuild.StatefulPrograms

variable {s s' : FloorItemManager} {fi other : Pointer}

/-- The object is on the floor, under its own item ID. -/
def Holds (s : FloorItemManager) (fi : Pointer) : Prop :=
  s.items[(s.objects fi).data.id]? = some fi

/-- The queues of the clients hold what the item map says they can see. -/
structure Coherent (s : FloorItemManager) : Prop where
  keyed : ∀ {id fi}, s.items[id]? = some fi → (s.objects fi).data.id = id
  queued : ∀ {z d fi}, (s.queueForClient z)[d]? = some fi ↔
    Holds s fi ∧ (s.objects fi).visibleToClient z ∧ (s.objects fi).dropNumber = d
  seen : ∀ {fi}, Holds s fi → (s.objects fi).flags ≠ 0
  numbered : ∀ {fi other}, Holds s fi → Holds s other →
    (s.objects fi).dropNumber = (s.objects other).dropNumber → fi = other

theorem Coherent.holds (h : Coherent s) {id : UInt32} (hitem : s.items[id]? = some fi) :
    Holds s fi := by
  rw [Holds, h.keyed hitem]
  exact hitem

theorem Coherent.queue_contains (h : Coherent s) (hheld : Holds s fi) {z : Fin 12}
    (hsees : (s.objects fi).visibleToClient z) :
    (s.queueForClient z)[(s.objects fi).dropNumber]? = some fi :=
  h.queued.mpr ⟨hheld, hsees, rfl⟩

theorem not_holds_of_empty (hitems : s.items = ∅) : ¬ Holds s fi := by
  intro hheld
  rw [Holds, hitems, Std.ExtTreeMap.getElem?_empty] at hheld
  cases hheld

theorem coherent_of_empty (hitems : s.items = ∅) (hqueues : ∀ z, s.queueForClient z = ∅) :
    Coherent s where
  keyed := by
    intro id fi hitem
    rw [hitems, Std.ExtTreeMap.getElem?_empty] at hitem
    cases hitem
  queued := by
    intro z d fi
    refine iff_of_false ?_ fun hheld => not_holds_of_empty hitems hheld.1
    rw [hqueues z, Std.ExtTreeMap.getElem?_empty]
    exact fun hitem => nomatch hitem
  seen := fun hheld => absurd hheld (not_holds_of_empty hitems)
  numbered := fun hheld => absurd hheld (not_holds_of_empty hitems)

/-! Entering an object. -/

theorem holds_with (hfree : (s.objects fi).data.id ∉ s.items) :
    Holds (s.with fi) other ↔ other = fi ∨ Holds s other := by
  change (s.items.insertIfNew (s.objects fi).data.id fi)[(s.objects other).data.id]? = some other ↔ _
  rw [lookup_insertIfNew hfree]
  split_ifs with hid
  · constructor
    · intro h
      exact .inl (Option.some.inj h).symm
    · rintro (rfl | h)
      · rfl
      · rw [hid] at hfree
        exact absurd (mem_iff_exists.mpr ⟨_, h⟩) hfree
  · constructor
    · exact .inr
    · rintro (rfl | h)
      · exact absurd rfl hid
      · exact h

/-- An object with an unused ID and an unused drop number can be entered. -/
theorem Coherent.with (h : Coherent s) (hflags : (s.objects fi).flags ≠ 0)
    (hfree : (s.objects fi).data.id ∉ s.items)
    (hnew : ∀ other, Holds s other → (s.objects other).dropNumber ≠ (s.objects fi).dropNumber) :
    Coherent (s.with fi) where
  keyed := by
    intro id other hitem
    change (s.items.insertIfNew (s.objects fi).data.id fi)[id]? = some other at hitem
    rw [lookup_insertIfNew hfree] at hitem
    split_ifs at hitem with hid
    · cases hitem
      exact hid
    · exact h.keyed hitem
  queued := by
    intro z d other
    rw [holds_with hfree]
    change (if (s.objects fi).visibleToClient z then
      (s.queueForClient z).insertIfNew (s.objects fi).dropNumber fi
      else s.queueForClient z)[d]? = some other ↔ _ ∧ (s.objects other).visibleToClient z ∧
        (s.objects other).dropNumber = d
    have hunused : (s.objects fi).dropNumber ∉ s.queueForClient z := by
      intro hmem
      obtain ⟨held, hheld⟩ := mem_iff_exists.mp hmem
      obtain ⟨hheld, -, hdrop⟩ := h.queued.mp hheld
      exact hnew held hheld hdrop
    by_cases hsees : (s.objects fi).visibleToClient z
    · rw [if_pos hsees, lookup_insertIfNew hunused]
      split_ifs with hd
      · constructor
        · rintro ⟨⟩
          exact ⟨.inl rfl, hsees, hd⟩
        · rintro ⟨rfl | hheld, -, hdrop⟩
          · rfl
          · exact absurd (hdrop.trans hd.symm) (hnew other hheld)
      · rw [h.queued]
        constructor
        · rintro ⟨hheld, hrest⟩
          exact ⟨.inr hheld, hrest⟩
        · rintro ⟨rfl | hheld, hrest⟩
          · exact absurd hrest.2 hd
          · exact ⟨hheld, hrest⟩
    · rw [if_neg hsees, h.queued]
      constructor
      · rintro ⟨hheld, hrest⟩
        exact ⟨.inr hheld, hrest⟩
      · rintro ⟨rfl | hheld, hrest⟩
        · exact absurd hrest.1 hsees
        · exact ⟨hheld, hrest⟩
  seen := by
    intro other hheld
    rcases (holds_with hfree).mp hheld with rfl | hheld
    · exact hflags
    · exact h.seen hheld
  numbered := by
    intro first second hfirst hsecond heq
    rcases (holds_with hfree).mp hfirst with rfl | hheld
    · rcases (holds_with hfree).mp hsecond with rfl | hheld'
      · rfl
      · exact absurd heq.symm (hnew second hheld')
    · rcases (holds_with hfree).mp hsecond with rfl | hheld'
      · exact absurd heq (hnew first hheld)
      · exact h.numbered hheld hheld' heq

/-! Taking an object off the floor. -/

/-- The queues without one object. -/
def withoutQueued (s : FloorItemManager) (fi : Pointer) (z : Fin 12) : Queue :=
  if (s.objects fi).visibleToClient z then
    (s.queueForClient z).erase (s.objects fi).dropNumber
  else
    s.queueForClient z

def without (s : FloorItemManager) (fi : Pointer) : FloorItemManager :=
  { s with
    items := s.items.erase (s.objects fi).data.id
    queueForClient := withoutQueued s fi }

theorem holds_without (hheld : Holds s fi) :
    Holds (without s fi) other ↔ other ≠ fi ∧ Holds s other := by
  change (s.items.erase (s.objects fi).data.id)[(s.objects other).data.id]? = some other ↔ _
  rw [lookup_erase_eq_some]
  constructor
  · rintro ⟨hid, hother⟩
    refine ⟨?_, hother⟩
    rintro rfl
    exact hid rfl
  · rintro ⟨hne, hother⟩
    refine ⟨?_, hother⟩
    intro hid
    rw [Holds, ← hid, hheld] at hother
    exact hne (Option.some.inj hother).symm

theorem Coherent.without (h : Coherent s) (hheld : Holds s fi) : Coherent (without s fi) where
  keyed := by
    intro id other hitem
    exact h.keyed (lookup_erase_eq_some.mp hitem).2
  queued := by
    intro z d other
    rw [holds_without hheld]
    change (withoutQueued s fi z)[d]? = some other ↔ _ ∧ (s.objects other).visibleToClient z ∧
      (s.objects other).dropNumber = d
    unfold withoutQueued
    by_cases hsees : (s.objects fi).visibleToClient z
    · rw [if_pos hsees, lookup_erase_eq_some, h.queued]
      constructor
      · rintro ⟨hdrop, hother, hrest, rfl⟩
        refine ⟨⟨?_, hother⟩, hrest, rfl⟩
        rintro rfl
        exact hdrop rfl
      · rintro ⟨⟨hne, hother⟩, hrest, rfl⟩
        refine ⟨?_, hother, hrest, rfl⟩
        intro hdrop
        exact hne (h.numbered hheld hother hdrop).symm
    · rw [if_neg hsees, h.queued]
      constructor
      · rintro ⟨hother, hrest⟩
        refine ⟨⟨?_, hother⟩, hrest⟩
        rintro rfl
        exact hsees hrest.1
      · rintro ⟨⟨-, hother⟩, hrest⟩
        exact ⟨hother, hrest⟩
  seen := by
    intro other hother
    exact h.seen ((holds_without hheld).mp hother).2
  numbered := by
    intro first second hfirst hsecond
    exact h.numbered ((holds_without hheld).mp hfirst).2 ((holds_without hheld).mp hsecond).2

theorem run_eraseFromQueue_seen {z : Fin 12} (hsees : (s.objects fi).visibleToClient z)
    (hmem : (s.objects fi).dropNumber ∈ s.queueForClient z) :
    (eraseFromQueue fi z).run s = .ok ⟨⟩ { s with
      queueForClient := Function.update s.queueForClient z
        ((s.queueForClient z).erase (s.objects fi).dropNumber) } := by
  rw [eraseFromQueue, run_get_bind, if_pos hsees, if_pos (Std.ExtTreeMap.contains_iff_mem.mpr hmem)]
  rfl

theorem run_eraseFromQueue_unseen {z : Fin 12} (hsees : ¬ (s.objects fi).visibleToClient z) :
    (eraseFromQueue fi z).run s = .ok ⟨⟩ s := by
  rw [eraseFromQueue, run_get_bind, if_neg hsees]
  rfl

/-- The state while the queues in `rest` are still to do. -/
def partlyErased (s : FloorItemManager) (fi : Pointer) (rest : List (Fin 12)) : FloorItemManager :=
  { s with
    queueForClient := fun z => if z ∈ rest then s.queueForClient z else withoutQueued s fi z }

theorem partlyErased_queue_head (z : Fin 12) (zs : List (Fin 12)) :
    (partlyErased s fi (z :: zs)).queueForClient z = s.queueForClient z :=
  if_pos List.mem_cons_self

theorem partlyErased_cons {z : Fin 12} {zs : List (Fin 12)} (hz : z ∉ zs) :
    (partlyErased s fi zs).queueForClient =
      Function.update (partlyErased s fi (z :: zs)).queueForClient z (withoutQueued s fi z) := by
  funext z'
  by_cases hne : z' = z
  · subst hne
    rw [Function.update_self]
    exact if_neg hz
  · rw [Function.update_of_ne hne]
    refine if_congr ?_ rfl rfl
    rw [List.mem_cons]
    exact (or_iff_right hne).symm

theorem run_eraseFromQueue (h : Coherent s) (hheld : Holds s fi) (z : Fin 12)
    (zs : List (Fin 12)) (mid : FloorItemManager)
    (hmid : (z :: zs).Nodup ∧ mid = partlyErased s fi (z :: zs)) :
    ∃ next, (eraseFromQueue fi z).run mid = .ok ⟨⟩ next ∧
      zs.Nodup ∧ next = partlyErased s fi zs := by
  obtain ⟨hnodup, rfl⟩ := hmid
  obtain ⟨hz, hnodup⟩ := List.nodup_cons.mp hnodup
  have hqueue : (partlyErased s fi (z :: zs)).queueForClient z = s.queueForClient z :=
    partlyErased_queue_head z zs
  refine ⟨partlyErased s fi zs, ?_, hnodup, rfl⟩
  by_cases hsees : (s.objects fi).visibleToClient z
  · have hmem : (s.objects fi).dropNumber ∈ (partlyErased s fi (z :: zs)).queueForClient z := by
      rw [hqueue]
      exact mem_iff_exists.mpr ⟨fi, h.queue_contains hheld hsees⟩
    have hwithout : withoutQueued s fi z = ((partlyErased s fi (z :: zs)).queueForClient z).erase
        (s.objects fi).dropNumber := by
      rw [withoutQueued, if_pos hsees, hqueue]
    have hnext := @partlyErased_cons s fi _ _ hz
    rw [hwithout] at hnext
    refine (@run_eraseFromQueue_seen (partlyErased s fi (z :: zs)) fi z hsees hmem).trans ?_
    exact congrArg (fun queues => EStateM.Result.ok PUnit.unit { s with queueForClient := queues })
      hnext.symm
  · have hwithout : withoutQueued s fi z = (partlyErased s fi (z :: zs)).queueForClient z := by
      rw [withoutQueued, if_neg hsees, hqueue]
    have hnext := @partlyErased_cons s fi _ _ hz
    rw [hwithout, Function.update_eq_self] at hnext
    refine (@run_eraseFromQueue_unseen (partlyErased s fi (z :: zs)) fi z hsees).trans ?_
    exact congrArg (fun queues => EStateM.Result.ok PUnit.unit { s with queueForClient := queues })
      hnext.symm

/-- Removing an item that the client may take always succeeds. -/
theorem run_remove (h : Coherent s) {itemId : UInt32} {clientId : UInt8}
    (hitem : s.items[itemId]? = some fi)
    (hmay : clientId = 0xFF ∨ (s.objects fi).visibleToClient clientId.toNat) :
    (remove itemId clientId).run s = .ok fi (without s fi) := by
  have hmay : ¬ (clientId ≠ 0xFF ∧ ¬ (s.objects fi).visibleToClient clientId.toNat) := by
    rintro ⟨hne, hblind⟩
    rcases hmay with hall | hsees
    · exact hne hall
    · exact hblind hsees
  obtain ⟨mid, hloop, -, hmid⟩ :=
    exists_run_forM (I := fun rest mid => rest.Nodup ∧ mid = partlyErased s fi rest)
      (run_eraseFromQueue h (h.holds hitem)) (List.finRange 12) s
      ⟨List.nodup_finRange 12, by simp only [partlyErased, List.mem_finRange, if_true]⟩
  rw [remove, run_get_bind]
  simp only [hitem]
  rw [if_neg hmay, run_bind_of_ok hloop]
  have hend : mid = { s with queueForClient := withoutQueued s fi } := by
    simpa only [partlyErased, List.not_mem_nil, if_false] using hmid
  rw [without, h.keyed hitem, hend]
  rfl

/-- What a removal does: it succeeds, or throws before it changes anything. -/
theorem remove_cases (h : Coherent s) (itemId : UInt32) (clientId : UInt8) :
    (∃ fi, s.items[itemId]? = some fi ∧
      (remove itemId clientId).run s = .ok fi (without s fi)) ∨
    (remove itemId clientId).run s = .error (.outOfRange "item not present") s ∨
    (remove itemId clientId).run s =
      .error (.runtimeError "client does not have access to item") s := by
  rcases hitem : s.items[itemId]? with _ | fi
  · refine .inr (.inl ?_)
    rw [remove, run_get_bind]
    simp only [hitem]
    rfl
  · by_cases hmay : clientId ≠ 0xFF ∧ ¬ (s.objects fi).visibleToClient clientId.toNat
    · refine .inr (.inr ?_)
      rw [remove, run_get_bind]
      simp only [hitem]
      rw [if_pos hmay]
      rfl
    · refine .inl ⟨fi, rfl, run_remove h hitem ?_⟩
      by_cases hall : clientId = 0xFF
      · exact .inl hall
      · exact .inr (not_not.mp fun hblind => hmay ⟨hall, hblind⟩)

/-! Several removals in a row. -/

/-- What removals leave alone. -/
structure Shrinks (s s' : FloorItemManager) : Prop where
  objects : s'.objects = s.objects
  allocated : s'.allocated = s.allocated
  nextDropNumber : s'.nextDropNumber = s.nextDropNumber
  held : ∀ {fi}, Holds s' fi → Holds s fi
  queue_size : ∀ z, (s'.queueForClient z).size ≤ (s.queueForClient z).size

theorem Shrinks.refl (s : FloorItemManager) : Shrinks s s :=
  ⟨rfl, rfl, rfl, fun h => h, fun _ => Nat.le_refl _⟩

theorem Shrinks.trans {s'' : FloorItemManager} (h : Shrinks s s') (h' : Shrinks s' s'') :
    Shrinks s s'' where
  objects := h'.objects.trans h.objects
  allocated := h'.allocated.trans h.allocated
  nextDropNumber := h'.nextDropNumber.trans h.nextDropNumber
  held := fun hheld => h.held (h'.held hheld)
  queue_size := fun z => Nat.le_trans (h'.queue_size z) (h.queue_size z)

theorem shrinks_without (hheld : Holds s fi) : Shrinks s (without s fi) where
  objects := rfl
  allocated := rfl
  nextDropNumber := rfl
  held := fun hother => ((holds_without hheld).mp hother).2
  queue_size := by
    intro z
    change (withoutQueued s fi z).size ≤ _
    unfold withoutQueued
    split_ifs
    · exact Std.ExtTreeMap.size_erase_le
    · exact Nat.le_refl _

/-- Evictions one after another. Each takes the item with the least drop
number of a queue that has more than 48 entries at that moment. -/
inductive Evicts : FloorItemManager → List Pointer → FloorItemManager → Prop where
  | done (s : FloorItemManager) : Evicts s [] s
  | next {s s' : FloorItemManager} {z : Fin 12} {fi : Pointer} {ret : List Pointer}
      (full : 48 < (s.queueForClient z).size) (oldest : first? (s.queueForClient z) = some fi)
      (rest : Evicts (without s fi) ret s') : Evicts s (fi :: ret) s'

theorem Evicts.append {s'' : FloorItemManager} {ret ret' : List Pointer} (h : Evicts s ret s')
    (h' : Evicts s' ret' s'') : Evicts s (ret ++ ret') s'' := by
  induction h with
  | done => exact h'
  | next full oldest _ ih => exact .next full oldest (ih h')

theorem Coherent.holds_first (h : Coherent s) {z : Fin 12}
    (hfirst : first? (s.queueForClient z) = some fi) : Holds s fi := by
  obtain ⟨d, hd, -⟩ := first?_eq_some.mp hfirst
  exact (h.queued.mp hd).1

theorem Evicts.kept {ret : List Pointer} (hevicts : Evicts s ret s') (h : Coherent s) :
    Coherent s' ∧ Shrinks s s' := by
  induction hevicts with
  | done s => exact ⟨h, .refl s⟩
  | next _ oldest _ ih =>
      have hheld := h.holds_first oldest
      obtain ⟨hcoherent, hshrinks⟩ := ih (h.without hheld)
      exact ⟨hcoherent, (shrinks_without hheld).trans hshrinks⟩

/-- The loop over one queue returns, and leaves the queue short enough. -/
theorem run_evictQueue (z : Fin 12) (h : Coherent s) :
    ∃ ret s', evictQueue z s = .ok ret s' ∧ Evicts s ret s' ∧
      (s'.queueForClient z).size ≤ 48 := by
  induction hn : s.items.size using Nat.strongRecOn generalizing s with
  | ind n ih =>
      by_cases hfull : 48 < (s.queueForClient z).size
      · obtain ⟨fi, hfirst⟩ := exists_first? (Nat.zero_lt_of_lt hfull)
        have hheld := h.holds_first hfirst
        have hrun := run_remove h hheld (.inl rfl : (0xFF : UInt8) = 0xFF ∨ _)
        obtain ⟨ret, s', hrest, hevicts, hsize⟩ :=
          ih _ (hn ▸ remove_size hrun) (h.without hheld) rfl
        refine ⟨fi :: ret, s', ?_, .next hfull hfirst hevicts, hsize⟩
        rw [evictQueue]
        simp only [hfirst, if_pos hfull]
        split
        · rename_i e mid herror
          rw [hrun] at herror
          cases herror
        · rename_i fi' mid hok
          rw [hrun] at hok
          cases hok
          simp only [hrest]
      · refine ⟨[], s, ?_, .done s, Nat.le_of_not_lt hfull⟩
        rw [evictQueue]
        rcases first? (s.queueForClient z) with _ | fi
        · rfl
        · simp only [if_neg hfull]

theorem run_evictQueues (zs : List (Fin 12)) (h : Coherent s) :
    ∃ ret s', (evictQueues zs).run s = .ok ret s' ∧ Evicts s ret s' ∧
      ∀ z ∈ zs, (s'.queueForClient z).size ≤ 48 := by
  induction zs generalizing s with
  | nil => exact ⟨[], s, rfl, .done s, fun z hz => absurd hz List.not_mem_nil⟩
  | cons z zs ih =>
      obtain ⟨ret, mid, hhead, hevicts, hsize⟩ := run_evictQueue z h
      obtain ⟨hcoherent, -⟩ := hevicts.kept h
      obtain ⟨ret', s', htail, hevicts', hsizes⟩ := ih hcoherent
      refine ⟨ret ++ ret', s', ?_, hevicts.append hevicts', ?_⟩
      · rw [evictQueues, run_bind_of_ok hhead, run_bind_of_ok htail]
        rfl
      · intro z' hz'
        rcases List.mem_cons.mp hz' with rfl | hz'
        · exact Nat.le_trans ((hevicts'.kept hcoherent).2.queue_size _) hsize
        · exact hsizes z' hz'

theorem run_evict (h : Coherent s) :
    ∃ ret s', evict.run s = .ok ret s' ∧ Evicts s ret s' ∧
      ∀ z, (s'.queueForClient z).size ≤ 48 := by
  obtain ⟨ret, s', hrun, hevicts, hsizes⟩ := run_evictQueues (List.finRange 12) h
  exact ⟨ret, s', hrun, hevicts, fun z => hsizes z (List.mem_finRange z)⟩

/-- One round of the loop that deletes items by their IDs. -/
theorem run_discard_remove (original : FloorItemManager) (id : UInt32) (ids : List UInt32)
    (s : FloorItemManager) (h : (id :: ids).Nodup ∧ (∀ id' ∈ id :: ids, id' ∈ s.items) ∧
      Coherent s ∧ Shrinks original s) :
    ∃ s', (discard (remove id 0xFF)).run s = .ok ⟨⟩ s' ∧
      ids.Nodup ∧ (∀ id' ∈ ids, id' ∈ s'.items) ∧ Coherent s' ∧ Shrinks original s' := by
  obtain ⟨hnodup, hmem, hcoherent, hshrinks⟩ := h
  obtain ⟨hid, hnodup⟩ := List.nodup_cons.mp hnodup
  obtain ⟨fi, hitem⟩ := mem_iff_exists.mp (hmem id List.mem_cons_self)
  have hheld := hcoherent.holds hitem
  have hrun := run_remove hcoherent hitem (.inl rfl : (0xFF : UInt8) = 0xFF ∨ _)
  refine ⟨without s fi, ?_, hnodup, ?_, hcoherent.without hheld,
    hshrinks.trans (shrinks_without hheld)⟩
  · exact run_bind_of_ok hrun
  · intro id' hid'
    obtain ⟨other, hother⟩ := mem_iff_exists.mp (hmem id' (List.mem_cons_of_mem id hid'))
    refine mem_iff_exists.mpr ⟨other, lookup_erase_eq_some.mpr ⟨?_, hother⟩⟩
    rw [hcoherent.keyed hitem]
    rintro rfl
    exact hid hid'

theorem run_clearWhere (doomed : UInt16 → Bool) (order : IterationOrder) (h : Coherent s) :
    ∃ s', (clearWhere doomed order).run s = .ok ⟨⟩ s' ∧ Coherent s' ∧ Shrinks s s' := by
  have hperm := order.perm
    ((s.items.toList.filter fun it => doomed (s.objects it.2).flags).map (·.1))
  have hnodup : ((s.items.toList.filter fun it => doomed (s.objects it.2).flags).map (·.1)).Nodup :=
    (keys_nodup s.items).sublist (List.filter_sublist.map _)
  obtain ⟨s', hrun, -, -, hcoherent, hshrinks⟩ :=
    exists_run_forM (I := fun ids mid => ids.Nodup ∧ (∀ id ∈ ids, id ∈ mid.items) ∧
      Coherent mid ∧ Shrinks s mid) (run_discard_remove s) _ s
      ⟨hperm.nodup_iff.mpr hnodup, by
        intro id hid
        obtain ⟨it, hit, rfl⟩ := List.mem_map.mp (hperm.mem_iff.mp hid)
        exact mem_iff_exists.mpr
          ⟨it.2, Std.ExtTreeMap.mem_toList_iff_getElem?_eq_some.mp (List.mem_filter.mp hit).1⟩,
      h, .refl s⟩
  exact ⟨s', hrun, hcoherent, hshrinks⟩

/-! Additions, and new IDs for all items. -/

theorem run_addObject (hflags : (s.objects fi).flags ≠ 0)
    (hfree : (s.objects fi).data.id ∉ s.items) :
    (addObject fi).run s = .ok ⟨⟩ (s.with fi) := by
  rw [addObject, run_get_bind, if_neg hflags, if_neg]
  · rfl
  · rw [Std.ExtTreeMap.contains_iff_mem]
    exact hfree

/-- An addition succeeds, or throws before it changes anything. -/
theorem addObject_cases (fi : Pointer) (s : FloorItemManager) :
    ((s.objects fi).flags ≠ 0 ∧ (s.objects fi).data.id ∉ s.items ∧
      (addObject fi).run s = .ok ⟨⟩ (s.with fi)) ∨
    ∃ e, (addObject fi).run s = .error e s := by
  by_cases hflags : (s.objects fi).flags = 0
  · refine .inr ⟨.logicError "floor item is not visible to any player", ?_⟩
    rw [addObject, run_get_bind, if_pos hflags]
    rfl
  · by_cases hused : s.items.contains (s.objects fi).data.id
    · refine .inr ⟨.runtimeError "floor item already exists with the same ID", ?_⟩
      rw [addObject, run_get_bind, if_neg hflags, if_pos hused]
      rfl
    · have hfree : (s.objects fi).data.id ∉ s.items :=
        fun hmem => hused (Std.ExtTreeMap.contains_iff_mem.mpr hmem)
      exact .inl ⟨hflags, hfree, run_addObject hflags hfree⟩

/-- The same map and queues, and the same items on the floor. -/
structure Agrees (s s' : FloorItemManager) : Prop where
  items : s'.items = s.items
  queueForClient : s'.queueForClient = s.queueForClient
  objects : ∀ {fi}, Holds s fi → s'.objects fi = s.objects fi

theorem Agrees.holds_iff (hagrees : Agrees s s') (h : Coherent s) : Holds s' fi ↔ Holds s fi := by
  constructor
  · intro hheld
    rw [Holds, hagrees.items] at hheld
    exact h.holds hheld
  · intro hheld
    rw [Holds, hagrees.items, hagrees.objects hheld]
    exact hheld

/-- Objects that are not on the floor do not count. -/
theorem Agrees.coherent (hagrees : Agrees s s') (h : Coherent s) : Coherent s' where
  keyed := by
    intro id fi hitem
    rw [hagrees.items] at hitem
    rw [hagrees.objects (h.holds hitem)]
    exact h.keyed hitem
  queued := by
    intro z d fi
    rw [hagrees.queueForClient, hagrees.holds_iff h, h.queued]
    refine and_congr_right ?_
    intro hheld
    rw [hagrees.objects hheld]
  seen := by
    intro fi hheld
    have hheld := (hagrees.holds_iff h).mp hheld
    rw [hagrees.objects hheld]
    exact h.seen hheld
  numbered := by
    intro fi other hfi hother heq
    have hfi := (hagrees.holds_iff h).mp hfi
    have hother := (hagrees.holds_iff h).mp hother
    rw [hagrees.objects hfi, hagrees.objects hother] at heq
    exact h.numbered hfi hother heq

theorem agrees_withId (hout : ¬ Holds s fi) (id : UInt32) : Agrees s (s.withId fi id) where
  items := rfl
  queueForClient := rfl
  objects := by
    intro other hheld
    refine Function.update_of_ne ?_ _ _
    rintro rfl
    exact hout hheld

theorem withId_objects_self (id : UInt32) :
    (s.withId fi id).objects fi =
      { s.objects fi with data := { (s.objects fi).data with id := id } } :=
  Function.update_self _ _ _

/-- What new IDs leave alone. -/
structure Renames (s s' : FloorItemManager) : Prop where
  dropNumber : ∀ fi, (s'.objects fi).dropNumber = (s.objects fi).dropNumber
  flags : ∀ fi, (s'.objects fi).flags = (s.objects fi).flags
  allocated : s'.allocated = s.allocated
  nextDropNumber : s'.nextDropNumber = s.nextDropNumber

theorem renames_withId (fi : Pointer) (id : UInt32) : Renames s (s.withId fi id) where
  dropNumber := by
    intro other
    by_cases hne : other = fi
    · subst hne
      rw [withId_objects_self]
    · exact congrArg _ (Function.update_of_ne hne _ _)
  flags := by
    intro other
    by_cases hne : other = fi
    · subst hne
      rw [withId_objects_self]
    · exact congrArg _ (Function.update_of_ne hne _ _)
  allocated := rfl
  nextDropNumber := rfl

theorem Renames.trans {s'' : FloorItemManager} (h : Renames s s') (h' : Renames s' s'') :
    Renames s s'' where
  dropNumber := fun fi => (h'.dropNumber fi).trans (h.dropNumber fi)
  flags := fun fi => (h'.flags fi).trans (h.flags fi)
  allocated := h'.allocated.trans h.allocated
  nextDropNumber := h'.nextDropNumber.trans h.nextDropNumber

/-- The loop that enters the items of `original` again, with those in `rest`
still to come. -/
structure Reassigning (original : FloorItemManager) (nextItemId : UInt32) (rest : List Pointer)
    (s : FloorItemManager) : Prop where
  coherent : Coherent s
  renames : Renames original s
  held : ∀ {fi}, Holds original fi ↔ Holds s fi ∨ fi ∈ rest
  apart : ∀ {fi}, fi ∈ rest → ¬ Holds s fi
  distinct : rest.Nodup
  few : rest.length ≤ 2 ^ 32
  free : ∀ k < rest.length, nextItemId + UInt32.ofNat k ∉ s.items

theorem add_one_add_ofNat (id : UInt32) (k : Nat) :
    id + 1 + UInt32.ofNat k = id + UInt32.ofNat (k + 1) := by
  rw [UInt32.ofNat_add, UInt32.add_assoc, UInt32.add_comm 1]
  rfl

theorem add_ofNat_succ_ne (id : UInt32) {k : Nat} (hk : k + 1 < 2 ^ 32) :
    id ≠ id + UInt32.ofNat (k + 1) := by
  intro heq
  have hnat := congrArg UInt32.toNat heq
  rw [UInt32.toNat_add, UInt32.toNat_ofNat_of_lt' hk] at hnat
  have := id.toNat_lt
  omega

theorem run_reassignItem {original : FloorItemManager} (horiginal : Coherent original)
    (nextItemId : UInt32) (fi : Pointer) (rest : List Pointer) (s : FloorItemManager)
    (h : Reassigning original nextItemId (fi :: rest) s) :
    ∃ next s', (reassignItem nextItemId fi).run s = .ok next s' ∧
      Reassigning original next rest s' := by
  have hout := h.apart List.mem_cons_self
  have hheld : Holds original fi := h.held.mpr (.inr List.mem_cons_self)
  obtain ⟨hfi, hdistinct⟩ := List.nodup_cons.mp h.distinct
  have hrenames := h.renames.trans (renames_withId fi nextItemId)
  have hagrees := agrees_withId hout nextItemId
  have hid : ((s.withId fi nextItemId).objects fi).data.id = nextItemId := by
    rw [withId_objects_self]
  have hfree : ((s.withId fi nextItemId).objects fi).data.id ∉ (s.withId fi nextItemId).items := by
    rw [hid]
    have := h.free 0 (Nat.zero_lt_succ _)
    rwa [show UInt32.ofNat 0 = 0 from rfl, UInt32.add_zero] at this
  have hflags : ((s.withId fi nextItemId).objects fi).flags ≠ 0 := by
    rw [hrenames.flags fi]
    exact horiginal.seen hheld
  have hholds {other : Pointer} :
      Holds ((s.withId fi nextItemId).with fi) other ↔ other = fi ∨ Holds s other := by
    rw [holds_with hfree, hagrees.holds_iff h.coherent]
  refine ⟨nextItemId + 1, (s.withId fi nextItemId).with fi, ?_, ?_⟩
  · rw [reassignItem, run_modify_bind, run_bind_of_ok (run_addObject hflags hfree)]
    rfl
  · refine ⟨(hagrees.coherent h.coherent).with hflags hfree ?_, ?_, ?_, ?_, hdistinct, ?_, ?_⟩
    · intro other hother heq
      have hother := (hagrees.holds_iff h.coherent).mp hother
      rw [hrenames.dropNumber, hrenames.dropNumber] at heq
      have : other = fi := horiginal.numbered (h.held.mpr (.inl hother)) hheld heq
      rw [this] at hother
      exact hout hother
    · exact ⟨hrenames.dropNumber, hrenames.flags, hrenames.allocated, hrenames.nextDropNumber⟩
    · intro other
      rw [hholds, h.held, List.mem_cons, or_assoc, or_left_comm]
    · intro other hother
      rw [hholds]
      rintro (rfl | hin)
      · exact hfi hother
      · exact h.apart (List.mem_cons_of_mem fi hother) hin
    · exact Nat.le_of_succ_le h.few
    · intro k hk hmem
      have hlt : k + 1 < (fi :: rest).length := Nat.succ_lt_succ hk
      rw [add_one_add_ofNat] at hmem
      obtain ⟨other, hother⟩ := mem_iff_exists.mp hmem
      change ((s.withId fi nextItemId).items.insertIfNew
        ((s.withId fi nextItemId).objects fi).data.id fi)[
        nextItemId + UInt32.ofNat (k + 1)]? = some other at hother
      rw [lookup_insertIfNew hfree, hid,
        if_neg (add_ofNat_succ_ne nextItemId (Nat.lt_of_lt_of_le hlt h.few))] at hother
      exact h.free (k + 1) hlt (mem_iff_exists.mpr ⟨other, hother⟩)

theorem length_le_of_nodup {ids : List UInt32} (h : ids.Nodup) : ids.length ≤ 2 ^ 32 := by
  have hnodup : (ids.map UInt32.toNat).Nodup :=
    h.map fun _ _ heq => UInt32.toNat_inj.mp heq
  have hsub : ids.map UInt32.toNat ⊆ List.range (2 ^ 32) := by
    intro n hn
    obtain ⟨id, -, rfl⟩ := List.mem_map.mp hn
    exact List.mem_range.mpr id.toNat_lt
  have hlength := (List.subperm_of_subset hnodup hsub).length_le
  rwa [List.length_map, List.length_range] at hlength

/-- The floor with all its items picked up, before they are entered again. -/
theorem reassigning_start (h : Coherent s) (nextItemId : UInt32) :
    Reassigning s nextItemId (s.items.toList.map (·.2))
      { s with items := ∅, queueForClient := fun _ => ∅ } := by
  have hkeys := keys_nodup s.items
  have hids : (s.items.toList.map (·.2)).map (fun fi => (s.objects fi).data.id) =
      s.items.toList.map (·.1) := by
    rw [List.map_map]
    refine List.map_congr_left ?_
    intro it hit
    exact h.keyed (Std.ExtTreeMap.mem_toList_iff_getElem?_eq_some.mp hit)
  refine ⟨coherent_of_empty rfl fun _ => rfl, ⟨fun _ => rfl, fun _ => rfl, rfl, rfl⟩, ?_,
    fun _ => not_holds_of_empty rfl, ?_, ?_, ?_⟩
  · intro fi
    rw [or_iff_right (not_holds_of_empty rfl), List.mem_map]
    constructor
    · intro hheld
      exact ⟨⟨_, fi⟩, Std.ExtTreeMap.mem_toList_iff_getElem?_eq_some.mpr hheld, rfl⟩
    · rintro ⟨it, hit, rfl⟩
      exact h.holds (Std.ExtTreeMap.mem_toList_iff_getElem?_eq_some.mp hit)
  · exact List.Nodup.of_map _ (hids ▸ hkeys)
  · rw [List.length_map, ← List.length_map (·.1)]
    exact length_le_of_nodup hkeys
  · intro k _
    exact Std.ExtTreeMap.not_mem_empty

theorem run_reassignAllItemIds (h : Coherent s) (nextItemId : UInt32) :
    ∃ next s', (reassignAllItemIds nextItemId).run s = .ok next s' ∧
      Coherent s' ∧ Renames s s' ∧ ∀ {fi}, Holds s' fi ↔ Holds s fi := by
  obtain ⟨next, s', hrun, hend⟩ := exists_run_foldlM (run_reassignItem h) _ nextItemId _
    (reassigning_start h nextItemId)
  refine ⟨next, s', ?_, hend.coherent, hend.renames, ?_⟩
  · rw [reassignAllItemIds, run_get_bind]
    exact hrun
  · intro fi
    rw [hend.held, or_iff_left List.not_mem_nil]

end HuntersGuild.FloorItemBookkeeping
