import HuntersGuild.ExchangeCommands

/-!
How the steps end of which the exchange commands are made.
-/

namespace HuntersGuild.ExchangeSteps

open HuntersGuild.BlueBurstSession
open HuntersGuild.CharacterFile
open HuntersGuild.ExceptionRules
open HuntersGuild.ExchangeCommands
open HuntersGuild.InventoryOperations
open HuntersGuild.Items
open HuntersGuild.StatefulPrograms

/-- The inventory has a place for an item. -/
def Room (limits : StackLimits) (item : ItemData) (self : PSOBBCharacterFile) : Prop :=
  Accepts PlayerInventoryItem.data 30 limits item item.data1[5].toNat self.inventory.items

/-- What is required if a removal is allowed, which takes meseta or an entry of
the inventory, in part or as a whole. -/
def AfterRemoval (limits : StackLimits) (itemId amount : UInt32) (self : PSOBBCharacterFile)
    (meseta : Prop) (entry : Fin self.inventory.items.length → Bool → Prop) : Prop :=
  if itemId = 0xFFFFFFFF then
    (amount ≤ self.meseta ∨ isV4 limits.version = false) → meseta
  else
    ∀ index part, self.inventory.findItem itemId = .ok index →
      splits amount limits (self.inventory.items.get index).data = .ok part →
      (part = true → (self.inventory.items.get index).isEquipped = false) → entry index part

/-- Meseta, as an item. -/
def mesetaItem (amount : UInt32) : ItemData :=
  { ItemData.cleared.withByte 0 4 with data2d := amount }

def withoutMeseta (amount : UInt32) (self : PSOBBCharacterFile) : PSOBBCharacterFile :=
  { self with meseta := if amount ≤ self.meseta then self.meseta - amount else 0 }

def withMeseta (amount : UInt32) (self : PSOBBCharacterFile) : PSOBBCharacterFile :=
  { self with meseta := (min (self.meseta.toNat + amount.toNat) 999999).toUInt32 }

/-- The session after an item ID has been given out. -/
def numbered (l : Lobby) (self : Session) : Session :=
  { self with
    nextItemIds := self.nextItemIds.set l.clientId (self.nextItemIds[l.clientId] + 1) }

variable {limits : StackLimits} {l : Lobby} {item : ItemData} {self : PSOBBCharacterFile}

/-! Removals and additions. -/

/-- A removal ends with the exception that refuses it, or as one of the two
kinds of removals. -/
theorem removeItem_iff {itemId amount : UInt32}
    (P : EStateM.Result Exception PSOBBCharacterFile ItemData → Prop)
    (hrefused : ∀ e, P (.error e self)) :
    P ((removeItem itemId amount limits).run self) ↔
      AfterRemoval limits itemId amount self
        (P (.ok (mesetaItem amount) (withoutMeseta amount self)))
        fun y part => P (.ok (handedOver amount part (self.inventory.items.get y))
          (takenFrom amount part self y)) := by
  by_cases hid : itemId = 0xFFFFFFFF
  · subst hid
    rw [AfterRemoval, if_pos rfl]
    by_cases hallowed : amount ≤ self.meseta ∨ isV4 limits.version = false
    · rw [removeItem_meseta_eq_ok.mpr ⟨hallowed, rfl, rfl⟩]
      exact ⟨fun h _ => h, fun h => h hallowed⟩
    · rcases hrun : (removeItem 0xFFFFFFFF amount limits).run self with ⟨ret, mid⟩ | ⟨e, mid⟩
      · exact absurd (removeItem_meseta_eq_ok.mp hrun).1 hallowed
      · obtain rfl := removeItem_atomic _ _ _ _ _ _ hrun
        exact iff_of_true (hrefused e) fun h => absurd h hallowed
  · rw [AfterRemoval, if_neg hid]
    rcases hrun : (removeItem itemId amount limits).run self with ⟨ret, mid⟩ | ⟨e, mid⟩
    · obtain ⟨y, part, hfind, hsplit, hworn, rfl, rfl⟩ :=
        removes_iff.mp ((removeItem_eq_ok hid).mp hrun)
      constructor
      · intro h y' part' hfind' hsplit' _
        obtain rfl : y = y' := Except.ok.inj (hfind.symm.trans hfind')
        obtain rfl : part = part' := Except.ok.inj (hsplit.symm.trans hsplit')
        exact h
      · intro h
        exact h y part hfind hsplit hworn
    · obtain rfl := removeItem_atomic _ _ _ _ _ _ hrun
      refine iff_of_true (hrefused e) ?_
      intro y part hfind hsplit hworn
      obtain ⟨ret, after, hremoves⟩ := exists_removes hfind hsplit hworn
      cases hrun.symm.trans ((removeItem_eq_ok hid).mpr hremoves)

theorem afterRemoval_congr {itemId amount : UInt32} {meseta meseta' : Prop}
    {entry entry' : Fin self.inventory.items.length → Bool → Prop}
    (hmeseta : itemId = 0xFFFFFFFF → (amount ≤ self.meseta ∨ isV4 limits.version = false) →
      (meseta ↔ meseta'))
    (hentry : itemId ≠ 0xFFFFFFFF → ∀ y part, self.inventory.findItem itemId = .ok y →
      splits amount limits (self.inventory.items.get y).data = .ok part →
      (part = true → (self.inventory.items.get y).isEquipped = false) → (entry y part ↔ entry' y part)) :
    AfterRemoval limits itemId amount self meseta entry ↔
      AfterRemoval limits itemId amount self meseta' entry' := by
  unfold AfterRemoval
  split
  · rename_i hid
    exact imp_congr_right (hmeseta hid)
  · rename_i hid
    exact forall₂_congr fun y part => imp_congr_right fun hfind => imp_congr_right fun hsplit =>
      imp_congr_right fun hworn => hentry hid y part hfind hsplit hworn

theorem maxStackSize_error {e : Exception} (h : item.maxStackSize limits = .error e) :
    ∃ what, e = .outOfRange what := by
  have htool : item.data1[0] = 3 := by
    by_contra htool
    by_cases hmeseta : item.data1[0] = 4
    · simp [ItemData.maxStackSize, StackLimits.get, hmeseta] at h
    · rw [maxStackSize_eq_one htool hmeseta] at h
      cases h
  have hnone := maxStackSize_of_nil (eq_nil_of_maxStackSize_error h) htool
  exact ⟨_, Except.error.inj (h.symm.trans hnone)⟩

theorem addItem_error {e : Exception} {self' : PSOBBCharacterFile}
    (h : (addItem item limits).run self = .error e self') : ∃ what, e = .outOfRange what := by
  by_cases hmeseta : item.primaryIdentifier = 0x04000000
  · rw [run_addItem_meseta hmeseta] at h
    cases h
  unfold addItem at h
  dsimp only at h
  rw [if_neg hmeseta] at h
  rcases hmax : item.maxStackSize limits with e' | combineMax
  · rw [hmax, run_error_bind] at h
    cases h
    exact maxStackSize_error hmax
  · rw [hmax, run_ok_bind, run_get_bind] at h
    split at h
    · split at h
      · cases h
        exact ⟨_, rfl⟩
      · cases h
    · split at h
      · cases h
        exact ⟨_, rfl⟩
      · cases h

theorem enforceStackSizeLimits_error {e : Exception}
    (h : item.enforceStackSizeLimits limits = .error e) : ∃ what, e = .outOfRange what := by
  unfold ItemData.enforceStackSizeLimits at h
  split at h
  · rcases hmax : item.maxStackSize limits with e' | n
    · rw [hmax] at h
      cases h
      exact maxStackSize_error hmax
    · rw [hmax, ok_bind] at h
      split at h <;> cases h
  · cases h

theorem addItem_cases (limits : StackLimits) (item : ItemData) (self : PSOBBCharacterFile) :
    (item.primaryIdentifier = 0x04000000 ∧
      (addItem item limits).run self = .ok ⟨⟩ (withMeseta item.data2d self)) ∨
    (item.primaryIdentifier ≠ 0x04000000 ∧ Room limits item self ∧
      ∃ self', Adds item limits self self' ∧ (addItem item limits).run self = .ok ⟨⟩ self') ∨
    (item.primaryIdentifier ≠ 0x04000000 ∧ ¬ Room limits item self ∧
      ∃ what, (addItem item limits).run self = .error (.outOfRange what) self) := by
  by_cases hmeseta : item.primaryIdentifier = 0x04000000
  · exact .inl ⟨hmeseta, run_addItem_meseta hmeseta⟩
  · right
    rcases hrun : (addItem item limits).run self with ⟨⟨⟩, self'⟩ | ⟨e, self'⟩
    · have hadds := (addItem_eq_ok hmeseta).mp hrun
      exact .inl ⟨hmeseta, exists_adds_iff.mp ⟨self', hadds⟩, self', hadds, rfl⟩
    · obtain ⟨what, rfl⟩ := addItem_error hrun
      obtain rfl := addItem_atomic _ _ _ _ _ hrun
      refine .inr ⟨hmeseta, fun hroom => ?_, what, rfl⟩
      obtain ⟨after, hadds⟩ := exists_adds_iff.mpr hroom
      cases hrun.symm.trans ((addItem_eq_ok hmeseta).mpr hadds)

/-! The steps within a command, for any property of its result. -/

variable {α β : Type} {session : Session} {P : EStateM.Result Exception Session β → Prop}

theorem inGame_iff {number : String} {body : Command β} (hrefused : ∀ e, P (.error e session)) :
    P ((inGame number l body).run session) ↔ (l.isGame = true → P (body.run session)) := by
  unfold inGame
  cases l.isGame with
  | false => exact iff_of_true (hrefused _) nofun
  | true => exact ⟨fun h _ => h, fun h => h rfl⟩

theorem inQuest_iff {number : String} {body : Command β} (hrefused : ∀ e, P (.error e session)) :
    P ((inQuest number l body).run session) ↔
      (l.isGame = true → l.questInProgress = true → P (body.run session)) := by
  refine (inGame_iff hrefused).trans (imp_congr_right fun _ => ?_)
  cases l.questInProgress with
  | false => exact iff_of_true (hrefused _) nofun
  | true => exact ⟨fun h _ => h, fun h => h rfl⟩

theorem fromExcept_bind_iff {x : Except Exception α} {f : α → Command β}
    (hrefused : ∀ e, P (.error e session)) :
    P ((fromExcept x >>= f).run session) ↔ ∀ a, x = .ok a → P ((f a).run session) := by
  cases x with
  | error e => exact iff_of_true (hrefused e) nofun
  | ok a => exact ⟨fun h b hb => Except.ok.inj hb ▸ h, fun h => h a rfl⟩

/-- How a command goes on after a call of the character file. -/
def resume (f : α → Command β) (session : Session) :
    EStateM.Result Exception PSOBBCharacterFile α → EStateM.Result Exception Session β
  | .ok a character => (f a).run { session with character := character }
  | .error e character => .error e { session with character := character }

theorem run_inCharacter_bind (x : EStateM Exception PSOBBCharacterFile α) (f : α → Command β)
    (session : Session) :
    (inCharacter x >>= f).run session = resume f session (x.run session.character) := by
  rw [EStateM.run_bind, inCharacter, run_zoom]
  cases x.run session.character <;> rfl

theorem fromExcept_unit_bind_iff {x : Except Exception Unit} {f : Unit → Command β}
    (hrefused : ∀ e, P (.error e session)) :
    P ((fromExcept x >>= f).run session) ↔ (x = .ok ⟨⟩ → P ((f ⟨⟩).run session)) :=
  (fromExcept_bind_iff hrefused).trans ⟨fun h => h ⟨⟩, fun h _ => h⟩

theorem removeItem_bind_iff {itemId amount : UInt32} {f : ItemData → Command β}
    (hrefused : ∀ e, P (.error e session)) :
    P ((inCharacter (removeItem itemId amount limits) >>= f).run session) ↔
      AfterRemoval limits itemId amount session.character
        (P ((f (mesetaItem amount)).run
          { session with character := withoutMeseta amount session.character }))
        fun y part => P ((f (handedOver amount part (session.character.inventory.items.get y))).run
          { session with character := takenFrom amount part session.character y }) := by
  rw [run_inCharacter_bind]
  exact removeItem_iff (fun r => P (resume f session r)) hrefused

theorem run_removeFound_bind {primaryIdentifier amount : UInt32} {f : ItemData → Command β}
    {x : Fin session.character.inventory.items.length}
    (h : session.character.inventory.findItemByPrimaryIdentifier primaryIdentifier = .ok x) :
    (removeFound primaryIdentifier amount limits >>= f).run session =
      (inCharacter (removeItem (session.character.inventory.items.get x).data.id amount limits) >>=
        f).run session := by
  rw [removeFound, bind_assoc, run_get_bind, bind_assoc, h, run_ok_bind]

theorem removeFound_bind_iff {primaryIdentifier amount : UInt32} {f : ItemData → Command β}
    (hrefused : ∀ e, P (.error e session)) :
    P ((removeFound primaryIdentifier amount limits >>= f).run session) ↔
      ∀ x, session.character.inventory.findItemByPrimaryIdentifier primaryIdentifier = .ok x →
        AfterRemoval limits (session.character.inventory.items.get x).data.id amount session.character
          (P ((f (mesetaItem amount)).run
            { session with character := withoutMeseta amount session.character }))
          fun y part => P ((f (handedOver amount part (session.character.inventory.items.get y))).run
            { session with character := takenFrom amount part session.character y }) := by
  unfold removeFound
  rw [bind_assoc, run_get_bind, bind_assoc]
  refine (fromExcept_bind_iff hrefused).trans (forall₂_congr fun x hx => ?_)
  exact removeItem_bind_iff hrefused

/-- How a command goes on after a call that it guards. -/
def answer (f : Option α → Command β) :
    EStateM.Result Exception Session α → EStateM.Result Exception Session β
  | .ok a s => (f (some a)).run s
  | .error (.outOfRange _) s => (f none).run s
  | .error (.runtimeError what) s => .error (.runtimeError what) s

theorem run_catchOutOfRange_bind (body : Command α) (f : Option α → Command β)
    (session : Session) :
    (catchOutOfRange body >>= f).run session = answer f (body.run session) := by
  rw [EStateM.run_bind, catchOutOfRange, run_tryCatch, EStateM.run_bind]
  rcases body.run session with ⟨a, s⟩ | ⟨⟨what⟩ | ⟨what⟩, s⟩ <;> rfl

/-- A removal that is refused may be answered by the command. -/
theorem catchOutOfRange_removeFound_iff {primaryIdentifier amount : UInt32}
    {f : Option ItemData → Command β} (hrefused : ∀ e, P (.error e session))
    (hcaught : P ((f none).run session)) :
    P ((catchOutOfRange (removeFound primaryIdentifier amount limits) >>= f).run session) ↔
      ∀ x, session.character.inventory.findItemByPrimaryIdentifier primaryIdentifier = .ok x →
        AfterRemoval limits (session.character.inventory.items.get x).data.id amount session.character
          (P ((f (some (mesetaItem amount))).run
            { session with character := withoutMeseta amount session.character }))
          fun y part =>
            P ((f (some (handedOver amount part (session.character.inventory.items.get y)))).run
              { session with character := takenFrom amount part session.character y }) := by
  have hanswered : ∀ e, P (answer f (.error e session)) := by
    intro e
    cases e with
    | outOfRange what => exact hcaught
    | runtimeError what => exact hrefused _
  rw [run_catchOutOfRange_bind, ← bind_pure (removeFound primaryIdentifier amount limits)]
  exact removeFound_bind_iff (P := fun r => P (answer f r)) hanswered

theorem run_addNew_of_ok {newItem : ItemData} {character : PSOBBCharacterFile}
    (h : (addItem { newItem with id := session.nextItemIds[l.clientId] } limits).run
      session.character = .ok ⟨⟩ character) :
    (addNew newItem l limits).run session =
      .ok { newItem with id := session.nextItemIds[l.clientId] }
        { numbered l session with character := character } := by
  rw [addNew, run_generateItemId_bind]
  exact run_inCharacter_bind_of_ok h

theorem run_addNew_of_error {newItem : ItemData} {e : Exception}
    (h : (addItem { newItem with id := session.nextItemIds[l.clientId] } limits).run
      session.character = .error e session.character) :
    (addNew newItem l limits).run session = .error e (numbered l session) := by
  rw [addNew, run_generateItemId_bind]
  exact run_inCharacter_bind_of_error h

/-- What the rest of a command does not change is decided by the addition. -/
theorem addNew_bind_iff {newItem : ItemData} {returned thrown : PSOBBCharacterFile → Prop}
    {f : ItemData → Command β} (hreturned : ∀ item s, P ((f item).run s) ↔ returned s.character)
    (hthrown : ∀ e s, P (.error e s) ↔ thrown s.character) :
    P ((addNew newItem l limits >>= f).run session) ↔
      Ends returned thrown
        ((addItem { newItem with id := session.nextItemIds[l.clientId] } limits).run
          session.character) := by
  rcases hrun : (addItem { newItem with id := session.nextItemIds[l.clientId] } limits).run
      session.character with ⟨⟨⟩, character⟩ | ⟨e, character⟩
  · rw [run_bind_of_ok (run_addNew_of_ok hrun)]
    exact hreturned _ _
  · obtain rfl := addItem_atomic _ _ _ _ _ hrun
    rw [run_bind_of_error (run_addNew_of_error hrun)]
    exact hthrown _ _

/-- The same if the command answers a refusal, before anything has changed. -/
theorem catchOutOfRange_addNew_iff {newItem : ItemData} {returned thrown : PSOBBCharacterFile → Prop}
    {f : Option ItemData → Command β}
    (hreturned : ∀ item s, P ((f (some item)).run s) ↔ returned s.character)
    (hcaught : ∀ s, P ((f none).run s) ↔ thrown s.character) :
    P ((catchOutOfRange (addNew newItem l limits) >>= f).run session) ↔
      Ends returned thrown
        ((addItem { newItem with id := session.nextItemIds[l.clientId] } limits).run
          session.character) := by
  rw [run_catchOutOfRange_bind]
  rcases hrun : (addItem { newItem with id := session.nextItemIds[l.clientId] } limits).run
      session.character with ⟨⟨⟩, character⟩ | ⟨e, character⟩
  · rw [run_addNew_of_ok hrun]
    exact hreturned _ _
  · obtain ⟨what, rfl⟩ := addItem_error hrun
    obtain rfl := addItem_atomic _ _ _ _ _ hrun
    rw [run_addNew_of_error hrun]
    exact hcaught _

/-- How a command ends that answers with labels. -/
def label (successLabel failureLabel : UInt16) :
    EStateM.Result Exception Session Unit → EStateM.Result Exception Session Bool
  | .ok _ s => .ok true { s with sent := s.sent ++ [.questFunctionCall successLabel] }
  | .error _ s => .ok false { s with sent := s.sent ++ [.questFunctionCall failureLabel] }

theorem run_withLabels (successLabel failureLabel : UInt16) (body : Command Unit)
    (session : Session) :
    (withLabels successLabel failureLabel body).run session =
      label successLabel failureLabel (body.run session) := by
  rw [withLabels, run_tryCatch, EStateM.run_bind]
  cases body.run session <;> rfl

theorem run_send_bind (message : Message) (f : Unit → Command β) (session : Session) :
    (send message >>= f).run session =
      (f ⟨⟩).run { session with sent := session.sent ++ [message] } := rfl

end HuntersGuild.ExchangeSteps
