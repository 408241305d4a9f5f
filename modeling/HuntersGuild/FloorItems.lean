import HuntersGuild.Items
import HuntersGuild.OrderedMaps
import HuntersGuild.StatefulPrograms

/-!
The items on one floor of a game: a map of all items, and for each client a
queue of the items it can see, ordered by their drop numbers.
-/

namespace HuntersGuild.FloorItems

open HuntersGuild.Items (ItemData)
open HuntersGuild.OrderedMaps
open HuntersGuild.StatefulPrograms

/-- A floor item. Its position and the object or enemy that dropped it are
only passed on. -/
structure FloorItem where
  data : ItemData
  dropNumber : UInt64
  flags : UInt16

/-- `flags & (1 << client_id)`, where shifts count modulo the width. -/
def FloorItem.visibleToClient (self : FloorItem) (clientId : Nat) : Bool :=
  self.flags.toNat.testBit (clientId % 32)

inductive Exception where
  | outOfRange (what : String)
  | runtimeError (what : String)
  | logicError (what : String)
deriving DecidableEq

/-- Item objects are shared: the map and the queues hold pointers to them. -/
abbrev Pointer := Nat

abbrev Queue := Std.ExtTreeMap UInt64 Pointer

/-- The manager, with the objects it has made so far. -/
structure FloorItemManager where
  objects : Pointer → FloorItem
  allocated : Nat
  nextDropNumber : UInt64
  items : Std.ExtTreeMap UInt32 Pointer
  queueForClient : Fin 12 → Queue

abbrev Program := EStateM Exception FloorItemManager

def FloorItemManager.new : FloorItemManager where
  objects := fun _ => ⟨ItemData.cleared, 0, 0⟩
  allocated := 0
  nextDropNumber := 0
  items := ∅
  queueForClient := fun _ => ∅

/-- Enters an object into the map and into the queues of the clients that see it. -/
def FloorItemManager.with (s : FloorItemManager) (fi : Pointer) : FloorItemManager :=
  { s with
    items := s.items.insertIfNew (s.objects fi).data.id fi
    queueForClient := fun z =>
      if (s.objects fi).visibleToClient z then
        (s.queueForClient z).insertIfNew (s.objects fi).dropNumber fi
      else
        s.queueForClient z }

/-- `add` for an item that exists already. -/
def addObject (fi : Pointer) : Program Unit := do
  let s ← get
  if (s.objects fi).flags = 0 then
    throw (.logicError "floor item is not visible to any player")
  else if s.items.contains (s.objects fi).data.id then
    throw (.runtimeError "floor item already exists with the same ID")
  else
    set (s.with fi)

/-- A new object, which takes the next drop number even if it is not added. -/
def FloorItemManager.allocate (s : FloorItemManager) (item : ItemData) (flags : UInt16) :
    FloorItemManager :=
  { s with
    objects := Function.update s.objects s.allocated ⟨item, s.nextDropNumber, flags⟩
    allocated := s.allocated + 1
    nextDropNumber := s.nextDropNumber + 1 }

def add (item : ItemData) (flags : UInt16) : Program Unit := do
  let s ← get
  set (s.allocate item flags)
  addObject s.allocated

/-- One round of the loop in `remove`. -/
def eraseFromQueue (fi : Pointer) (z : Fin 12) : Program Unit := do
  let s ← get
  if (s.objects fi).visibleToClient z then
    if (s.queueForClient z).contains (s.objects fi).dropNumber then
      set { s with
        queueForClient := Function.update s.queueForClient z
          ((s.queueForClient z).erase (s.objects fi).dropNumber) }
    else
      throw (.logicError "item queue for client is inconsistent")
  else
    pure ()

def remove (itemId : UInt32) (clientId : UInt8) : Program Pointer := do
  let s ← get
  match s.items[itemId]? with
  | none => throw (.outOfRange "item not present")
  | some fi =>
    if clientId ≠ 0xFF ∧ ¬ (s.objects fi).visibleToClient clientId.toNat then
      throw (.runtimeError "client does not have access to item")
    else
      forM (List.finRange 12) (eraseFromQueue fi)
      modify fun s => { s with items := s.items.erase itemId }
      return fi

theorem eraseFromQueue_items (fi : Pointer) (z : Fin 12) (s : FloorItemManager) :
    (finalState ((eraseFromQueue fi z).run s)).items = s.items := by
  simp only [eraseFromQueue, run_get_bind]
  split_ifs <;> rfl

theorem forM_eraseFromQueue_items (fi : Pointer) (zs : List (Fin 12)) (s : FloorItemManager) :
    (finalState ((forM zs (eraseFromQueue fi)).run s)).items = s.items := by
  induction zs generalizing s with
  | nil => rfl
  | cons z zs ih =>
      have hhead := eraseFromQueue_items fi z s
      rw [List.forM_cons]
      rcases hz : (eraseFromQueue fi z).run s with ⟨⟨⟩, mid⟩ | ⟨e, mid⟩
      · rw [hz] at hhead
        rw [run_bind_of_ok hz, ih mid]
        exact hhead
      · rw [hz] at hhead
        rw [run_bind_of_error hz]
        exact hhead

/-- Whatever the queues hold, a removal that returns takes one item off the map. -/
theorem remove_size {itemId : UInt32} {clientId : UInt8} {s s' : FloorItemManager} {fi : Pointer}
    (h : (remove itemId clientId).run s = .ok fi s') : s'.items.size < s.items.size := by
  rw [remove, run_get_bind] at h
  rcases hitem : s.items[itemId]? with _ | found
  · simp only [hitem] at h
    cases h
  · simp only [hitem] at h
    have hloop := forM_eraseFromQueue_items found (List.finRange 12) s
    split_ifs at h
    · cases h
    · rcases hrun : (forM (List.finRange 12) (eraseFromQueue found)).run s with
        ⟨⟨⟩, mid⟩ | ⟨e, mid⟩
      · rw [run_bind_of_ok hrun] at h
        rw [hrun] at hloop
        cases h
        change (mid.items.erase itemId).size < s.items.size
        rw [show mid.items = s.items from hloop]
        exact size_erase_lt (mem_iff_exists.mpr ⟨_, hitem⟩)
      · rw [run_bind_of_error hrun] at h
        cases h

/-- The inner loop of `evict`: the first item of the queue goes while the
queue has more than 48 entries. -/
def evictQueue (z : Fin 12) (s : FloorItemManager) :
    EStateM.Result Exception FloorItemManager (List Pointer) :=
  match first? (s.queueForClient z) with
  | none => .ok [] s
  | some first =>
    if 48 < (s.queueForClient z).size then
      match _h : (remove (s.objects first).data.id 0xFF).run s with
      | .error e s' => .error e s'
      | .ok fi s' =>
        match evictQueue z s' with
        | .error e s'' => .error e s''
        | .ok ret s'' => .ok (fi :: ret) s''
    else
      .ok [] s
termination_by s.items.size
decreasing_by exact remove_size _h

def evictQueues : List (Fin 12) → Program (List Pointer)
  | [] => pure []
  | z :: zs => do
    let ret ← evictQueue z
    return ret ++ (← evictQueues zs)

/-- Returns the set of evicted items, in the order of their removal. -/
def evict : Program (List Pointer) := evictQueues (List.finRange 12)

/-- The order in which a hash set of item IDs is iterated. -/
structure IterationOrder where
  arrange : List UInt32 → List UInt32
  perm : ∀ ids, (arrange ids).Perm ids

/-- The loop shared by the two functions that delete items by their flags. -/
def clearWhere (doomed : UInt16 → Bool) (order : IterationOrder) : Program Unit := do
  let s ← get
  let itemIdsToDelete := (s.items.toList.filter fun it => doomed (s.objects it.2).flags).map (·.1)
  forM (order.arrange itemIdsToDelete) fun itemId => discard (remove itemId 0xFF)

def clearInaccessible (remainingClientsMask : UInt16) (order : IterationOrder) : Program Unit :=
  clearWhere (fun flags => flags &&& remainingClientsMask = 0) order

def clearPrivate (order : IterationOrder) : Program Unit :=
  clearWhere (fun flags => flags &&& 0x00F ≠ 0x00F) order

def clear : Program Unit :=
  modify fun s => { s with items := ∅, queueForClient := fun _ => ∅, nextDropNumber := 0 }

def FloorItemManager.withId (s : FloorItemManager) (fi : Pointer) (id : UInt32) :
    FloorItemManager :=
  { s with
    objects := Function.update s.objects fi
      { s.objects fi with data := { (s.objects fi).data with id := id } } }

/-- One round of the loop in `reassign_all_item_ids`. -/
def reassignItem (nextItemId : UInt32) (fi : Pointer) : Program UInt32 := do
  modify fun s => s.withId fi nextItemId
  addObject fi
  return nextItemId + 1

def reassignAllItemIds (nextItemId : UInt32) : Program UInt32 := do
  let s ← get
  set { s with items := ∅, queueForClient := fun _ => ∅ }
  (s.items.toList.map (·.2)).foldlM reassignItem nextItemId

end HuntersGuild.FloorItems
