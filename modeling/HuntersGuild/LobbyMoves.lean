import HuntersGuild.FloorItemBookkeeping
import HuntersGuild.Lobbies

/-!
Moving a client from one lobby to another: the check before the move and the
search for a slot after it need not agree.
-/

namespace HuntersGuild.LobbyMoves

open HuntersGuild.FloorItems (Exception FloorItemManager IterationOrder)
open HuntersGuild.FloorItemBookkeeping (Coherent)
open HuntersGuild.Lobbies
open HuntersGuild.StatefulPrograms

variable {α β : Type} {w w' w'' : World}

/-- The floor items of all lobbies are in order. -/
def Tidy (w : World) : Prop := ∀ l floor, Coherent ((w.lobbies l).floorItemManagers floor)

/-- Nobody moves, joins or leaves. -/
structure SameSlots (w w' : World) : Prop where
  clients : ∀ l, (w'.lobbies l).clients = (w.lobbies l).clients
  maxClients : ∀ l, (w'.lobbies l).maxClients = (w.lobbies l).maxClients
  enabledFlags : ∀ l, (w'.lobbies l).enabledFlags = (w.lobbies l).enabledFlags
  mode : ∀ l, (w'.lobbies l).mode = (w.lobbies l).mode
  isLoggedIn : ∀ c, (w'.clients c).isLoggedIn = (w.clients c).isLoggedIn
  debugEnabled : ∀ c, (w'.clients c).debugEnabled = (w.clients c).debugEnabled
  lobbyClientId : ∀ c, (w'.clients c).lobbyClientId = (w.clients c).lobbyClientId

theorem SameSlots.refl (w : World) : SameSlots w w :=
  ⟨fun _ => rfl, fun _ => rfl, fun _ => rfl, fun _ => rfl, fun _ => rfl, fun _ => rfl, fun _ => rfl⟩

theorem SameSlots.trans (h : SameSlots w w') (h' : SameSlots w' w'') : SameSlots w w'' where
  clients := fun l => (h'.clients l).trans (h.clients l)
  maxClients := fun l => (h'.maxClients l).trans (h.maxClients l)
  enabledFlags := fun l => (h'.enabledFlags l).trans (h.enabledFlags l)
  mode := fun l => (h'.mode l).trans (h.mode l)
  isLoggedIn := fun c => (h'.isLoggedIn c).trans (h.isLoggedIn c)
  debugEnabled := fun c => (h'.debugEnabled c).trans (h.debugEnabled c)
  lobbyClientId := fun c => (h'.lobbyClientId c).trans (h.lobbyClientId c)

/-- From this state on, the program returns and nobody moves. -/
def Quiet (w : World) (x : Program α) : Prop :=
  Tidy w → ∃ a w', x.run w = .ok a w' ∧ Tidy w' ∧ SameSlots w w'

theorem quiet_pure (a : α) : Quiet w (pure a) := fun htidy => ⟨a, w, rfl, htidy, .refl w⟩

theorem Quiet.bind {x : Program α} {f : α → Program β} (hx : Quiet w x)
    (hf : ∀ a w', SameSlots w w' → Quiet w' (f a)) : Quiet w (x >>= f) := by
  intro htidy
  obtain ⟨a, mid, hrun, hmid, hsame⟩ := hx htidy
  obtain ⟨b, w', hrest, hend, hsame'⟩ := hf a mid hsame hmid
  exact ⟨b, w', (run_bind_of_ok hrun).trans hrest, hend, hsame.trans hsame'⟩

theorem quiet_get_bind {f : World → Program α} (h : Quiet w (f w)) :
    Quiet w ((get : Program World) >>= f) := h

theorem quiet_onlyIf (p : Bool) {x : Program Unit} (hx : Quiet w x) : Quiet w (onlyIf p x) := by
  cases p
  · exact quiet_pure _
  · exact hx

theorem quiet_forM {xs : List β} {f : β → Program PUnit} (h : ∀ x w', Quiet w' (f x)) :
    Quiet w (forM xs f) := by
  induction xs generalizing w with
  | nil => exact quiet_pure _
  | cons x xs ih =>
      rw [List.forM_cons]
      exact (h x w).bind fun _ _ _ => ih

theorem quiet_mapM {xs : List β} {f : β → Program α} (h : ∀ x w', Quiet w' (f x)) :
    Quiet w (xs.mapM f) := by
  induction xs generalizing w with
  | nil => exact quiet_pure _
  | cons x xs ih =>
      rw [List.mapM_cons]
      exact (h x w).bind fun _ _ _ => ih.bind fun _ _ _ => quiet_pure _

/-- A change of a lobby that leaves its slots and its floors alone. -/
structure Harmless (lobby lobby' : Lobby) : Prop where
  clients : lobby'.clients = lobby.clients
  maxClients : lobby'.maxClients = lobby.maxClients
  enabledFlags : lobby'.enabledFlags = lobby.enabledFlags
  mode : lobby'.mode = lobby.mode

theorem withLobby_self (l : LobbyPointer) (lobby : Lobby) : (w.withLobby l lobby).lobbies l = lobby :=
  Function.update_self _ _ _

theorem withLobby_of_ne {l l' : LobbyPointer} (lobby : Lobby) (hne : l' ≠ l) :
    (w.withLobby l lobby).lobbies l' = w.lobbies l' :=
  Function.update_of_ne hne _ _

theorem sameSlots_withLobby {l : LobbyPointer} {lobby : Lobby} (h : Harmless (w.lobbies l) lobby) :
    SameSlots w (w.withLobby l lobby) := by
  have hall (l' : LobbyPointer) : Harmless (w.lobbies l') ((w.withLobby l lobby).lobbies l') := by
    by_cases hne : l' = l
    · subst hne
      rw [withLobby_self]
      exact h
    · rw [withLobby_of_ne lobby hne]
      exact ⟨rfl, rfl, rfl, rfl⟩
  exact ⟨fun l => (hall l).clients, fun l => (hall l).maxClients, fun l => (hall l).enabledFlags,
    fun l => (hall l).mode, fun _ => rfl, fun _ => rfl, fun _ => rfl⟩

theorem tidy_withLobby {l : LobbyPointer} {lobby : Lobby} (htidy : Tidy w)
    (h : ∀ floor, Coherent (lobby.floorItemManagers floor)) : Tidy (w.withLobby l lobby) := by
  intro l' floor
  by_cases hne : l' = l
  · subst hne
    rw [withLobby_self]
    exact h floor
  · rw [withLobby_of_ne lobby hne]
    exact htidy l' floor

theorem quiet_modifyLobby {l : LobbyPointer} {f : Lobby → Lobby}
    (h : Harmless (w.lobbies l) (f (w.lobbies l)))
    (hfloors : (f (w.lobbies l)).floorItemManagers = (w.lobbies l).floorItemManagers) :
    Quiet w (modifyLobby l f) := by
  intro htidy
  refine ⟨⟨⟩, _, rfl, tidy_withLobby htidy ?_, sameSlots_withLobby h⟩
  rw [hfloors]
  exact htidy l

theorem sameSlots_withClient {c : ClientPointer} {client : Client}
    (hlogin : client.isLoggedIn = (w.clients c).isLoggedIn)
    (hdebug : client.debugEnabled = (w.clients c).debugEnabled)
    (hid : client.lobbyClientId = (w.clients c).lobbyClientId) :
    SameSlots w (w.withClient c client) := by
  have hall (c' : ClientPointer) :
      ((w.withClient c client).clients c').isLoggedIn = (w.clients c').isLoggedIn ∧
        ((w.withClient c client).clients c').debugEnabled = (w.clients c').debugEnabled ∧
        ((w.withClient c client).clients c').lobbyClientId = (w.clients c').lobbyClientId := by
    by_cases hne : c' = c
    · subst hne
      rw [show (w.withClient c' client).clients c' = client from Function.update_self _ _ _]
      exact ⟨hlogin, hdebug, hid⟩
    · rw [show (w.withClient c client).clients c' = w.clients c' from Function.update_of_ne hne _ _]
      exact ⟨rfl, rfl, rfl⟩
  exact ⟨fun _ => rfl, fun _ => rfl, fun _ => rfl, fun _ => rfl, fun c => (hall c).1,
    fun c => (hall c).2.1, fun c => (hall c).2.2⟩

theorem quiet_onFloor {l : LobbyPointer} {floor : Nat} {x : FloorItems.Program α}
    (h : ∀ s, Coherent s → ∃ a s', x.run s = .ok a s' ∧ Coherent s') :
    Quiet w (onFloor l floor x) := by
  intro htidy
  obtain ⟨a, s', hrun, hcoherent⟩ := h _ (htidy l floor)
  refine ⟨a, w.withLobby l ((w.lobbies l).withFloor floor s'), ?_, tidy_withLobby htidy ?_,
    sameSlots_withLobby ⟨rfl, rfl, rfl, rfl⟩⟩
  · rw [onFloor, run_zoom, hrun]
  · intro floor'
    by_cases hne : floor' = floor
    · subst hne
      rw [show ((w.lobbies l).withFloor floor' s').floorItemManagers floor' = s' from
        Function.update_self _ _ _]
      exact hcoherent
    · rw [show ((w.lobbies l).withFloor floor s').floorItemManagers floor' =
        (w.lobbies l).floorItemManagers floor' from Function.update_of_ne hne _ _]
      exact htidy l floor'

theorem quiet_assignItemId (l : LobbyPointer) (clientId : UInt8) :
    Quiet w (assignItemId l clientId) := by
  intro htidy
  have hlobby : Harmless (w.lobbies l) ((w.lobbies l).generateItemId clientId).2 ∧
      ((w.lobbies l).generateItemId clientId).2.floorItemManagers =
        (w.lobbies l).floorItemManagers := by
    unfold Lobby.generateItemId
    split_ifs
    · exact ⟨⟨rfl, rfl, rfl, rfl⟩, rfl⟩
    · exact ⟨⟨rfl, rfl, rfl, rfl⟩, rfl⟩
  refine ⟨_, w.withLobby l ((w.lobbies l).generateItemId clientId).2, rfl,
    tidy_withLobby htidy ?_, sameSlots_withLobby hlobby.1⟩
  rw [hlobby.2]
  exact htidy l

theorem quiet_assignInventoryItemIds (l : LobbyPointer) (c : ClientPointer) (consumeIds : Bool)
    (hid : (w.clients c).lobbyClientId.toNat < 12) :
    Quiet w (assignInventoryItemIds l c consumeIds) := by
  refine quiet_get_bind ?_
  rw [dif_pos hid]
  refine (quiet_mapM fun _ _ => quiet_assignItemId l _).bind ?_
  intro ids mid _
  refine Quiet.bind ?_ ?_
  · intro htidy
    exact ⟨⟨⟩, _, rfl, htidy, sameSlots_withClient rfl rfl rfl⟩
  · intro _ _ _
    exact quiet_onlyIf _ (quiet_modifyLobby ⟨rfl, rfl, rfl, rfl⟩ rfl)

theorem quiet_reassignFloorItemIds (l : LobbyPointer) (floor : Nat) :
    Quiet w (reassignFloorItemIds l floor) := by
  refine quiet_get_bind ?_
  refine Quiet.bind (quiet_onFloor ?_) ?_
  · intro s hcoherent
    obtain ⟨next, s', hrun, hcoherent', -⟩ :=
      FloorItemBookkeeping.run_reassignAllItemIds hcoherent (w.lobbies l).nextGameItemId
    exact ⟨next, s', hrun, hcoherent'⟩
  · intro next mid _
    exact quiet_modifyLobby ⟨rfl, rfl, rfl, rfl⟩ rfl

theorem quiet_clearFloor (l : LobbyPointer) (mask : UInt16) (order : Nat → IterationOrder)
    (floor : Nat) : Quiet w (clearFloor l mask order floor) := by
  refine quiet_onFloor ?_
  intro s hcoherent
  have hclear (doomed : UInt16 → Bool) :
      ∃ a s', (FloorItems.clearWhere doomed (order floor)).run s = .ok a s' ∧ Coherent s' := by
    obtain ⟨s', hrun, hcoherent', -⟩ :=
      FloorItemBookkeeping.run_clearWhere doomed (order floor) hcoherent
    exact ⟨⟨⟩, s', hrun, hcoherent'⟩
  split_ifs
  · exact hclear _
  · exact hclear _

/-- What follows the removal from the slot. -/
theorem quiet_moveOut (l : LobbyPointer) (c : ClientPointer) (order : Nat → IterationOrder) :
    Quiet w (moveOut l c order) := by
  refine Quiet.bind ?_ ?_
  · have hclient : ((w.clients c).unassigned l).isLoggedIn = (w.clients c).isLoggedIn ∧
        ((w.clients c).unassigned l).debugEnabled = (w.clients c).debugEnabled ∧
        ((w.clients c).unassigned l).lobbyClientId = (w.clients c).lobbyClientId := by
      unfold Client.unassigned
      split_ifs
      · exact ⟨rfl, rfl, rfl⟩
      · exact ⟨rfl, rfl, rfl⟩
    intro htidy
    exact ⟨⟨⟩, _, rfl, htidy, sameSlots_withClient hclient.1 hclient.2.1 hclient.2.2⟩
  · intro _ mid _
    refine quiet_get_bind ?_
    refine Quiet.bind (quiet_modifyLobby ⟨rfl, rfl, rfl, rfl⟩ rfl) ?_
    intro _ mid' _
    refine quiet_get_bind ?_
    exact quiet_forM fun floor _ => quiet_clearFloor l _ order floor

/-! The slots after a client has left or joined. -/

theorem run_removeClient {l : LobbyPointer} {c : ClientPointer} {slot : Fin 12} (htidy : Tidy w)
    (hid : (w.clients c).lobbyClientId = UInt8.ofNat slot)
    (hslot : (w.lobbies l).clients slot = some c) (order : Nat → IterationOrder) :
    ∃ w', (removeClient l c order).run w = .ok ⟨⟩ w' ∧ Tidy w' ∧
      SameSlots (w.withLobby l ((w.lobbies l).withSlot slot none)) w' := by
  have hnat : (w.clients c).lobbyClientId.toNat = slot := by
    rw [hid, UInt8.toNat_ofNat']
    omega
  have hlt : (w.clients c).lobbyClientId.toNat < 12 := hnat ▸ slot.isLt
  have hindex : (⟨_, hlt⟩ : Fin 12) = slot := Fin.ext hnat
  have hhere : ¬ (w.lobbies l).clients ⟨_, hlt⟩ ≠ some c := by
    rw [hindex, hslot]
    exact not_not_intro rfl
  obtain ⟨⟨⟩, w', hrun, htidy', hsame⟩ :=
    quiet_moveOut (w := w.withLobby l ((w.lobbies l).withSlot slot none)) l c order
      (tidy_withLobby htidy (htidy l))
  refine ⟨w', ?_, htidy', hsame⟩
  rw [removeClient, run_get_bind, dif_pos hlt, if_neg hhere, hindex]
  exact hrun

/-- The world right after a client got a slot. -/
def seated (w : World) (l : LobbyPointer) (c : ClientPointer) (index : Fin 12) : World :=
  (w.withLobby l ((w.lobbies l).withSlot index (some c))).withClient c ((w.clients c).seated l index)

theorem seated_lobbyClientId (l : LobbyPointer) (c : ClientPointer) (index : Fin 12) :
    ((seated w l c index).clients c).lobbyClientId = UInt8.ofNat index := by
  rw [show (seated w l c index).clients c = (w.clients c).seated l index from
    Function.update_self _ _ _]
  rfl

theorem quiet_renewItemIds (l : LobbyPointer) : Quiet w (renewItemIds l) := by
  refine Quiet.bind (quiet_modifyLobby ⟨rfl, rfl, rfl, rfl⟩ rfl) ?_
  intro _ mid _
  exact quiet_get_bind (quiet_forM fun floor _ => quiet_reassignFloorItemIds l floor)

theorem quiet_settleIn (l : LobbyPointer) (c : ClientPointer)
    (hid : (w.clients c).lobbyClientId.toNat < 12) : Quiet w (settleIn l c) := by
  refine quiet_get_bind ?_
  refine Quiet.bind (quiet_onlyIf _ (quiet_modifyLobby ⟨rfl, rfl, rfl, rfl⟩ rfl)) ?_
  intro _ mid hmid
  refine Quiet.bind (quiet_onlyIf _ (quiet_renewItemIds l)) ?_
  intro _ mid' hmid'
  refine quiet_get_bind (quiet_assignInventoryItemIds l c _ ?_)
  rw [(hmid.trans hmid').lobbyClientId]
  exact hid

theorem run_addClient_of_slot {l : LobbyPointer} {c : ClientPointer} {required : Int}
    {index : Fin 12} (htidy : Tidy w) (hlogin : (w.clients c).isLoggedIn)
    (hslot : (w.lobbies l).slotFor (w.clients c).debugEnabled required = .ok index) :
    ∃ w', (addClient l c required).run w = .ok ⟨⟩ w' ∧ Tidy w' ∧
      SameSlots (seated w l c index) w' := by
  have hid : ((seated w l c index).clients c).lobbyClientId.toNat < 12 := by
    rw [seated_lobbyClientId, UInt8.toNat_ofNat']
    omega
  obtain ⟨⟨⟩, w', hrun, htidy', hsame⟩ :=
    quiet_settleIn l c hid (tidy_withLobby htidy (htidy l))
  refine ⟨w', ?_, htidy', hsame⟩
  rw [addClient, run_get_bind, if_neg (not_not_intro hlogin), hslot]
  exact hrun

theorem run_addClient_of_no_slot {l : LobbyPointer} {c : ClientPointer} {required : Int}
    {e : Exception} (hlogin : (w.clients c).isLoggedIn)
    (hslot : (w.lobbies l).slotFor (w.clients c).debugEnabled required = .error e) :
    (addClient l c required).run w = .error e w := by
  rw [addClient, run_get_bind, if_neg (not_not_intro hlogin), hslot]
  rfl

/-! The slots that a joining client can get. -/

/-- A slot that is free for a client that requires it, or for any client. -/
def Lobby.Accepts (self : Lobby) (requiredClientId : Int) (slot : Fin 12) : Prop :=
  self.clients slot = none ∧
    if 0 ≤ requiredClientId then
      requiredClientId = slot.val
    else
      self.minClientId ≤ slot ∧ slot.val < self.maxClients.toNat

theorem slotFor_required {self : Lobby} {debug : Bool} {required : Int} (hnonneg : 0 ≤ required) :
    (∃ slot, self.slotFor debug required = .ok slot) ↔ ∃ slot, Lobby.Accepts self required slot := by
  rw [Lobby.slotFor, if_pos hnonneg]
  unfold Lobby.Accepts
  simp only [if_pos hnonneg]
  constructor
  · rintro ⟨slot, hslot⟩
    split_ifs at hslot with hlt hused
    cases hslot
    exact ⟨⟨_, hlt⟩, not_not.mp hused, (Int.toNat_of_nonneg hnonneg).symm⟩
  · rintro ⟨slot, hfree, hrequired⟩
    have hslot : required.toNat = slot := by rw [hrequired]; rfl
    refine ⟨slot, ?_⟩
    have hlt : required.toNat < 12 := hslot ▸ slot.isLt
    have hindex : (⟨required.toNat, hlt⟩ : Fin 12) = slot := Fin.ext hslot
    rw [dif_pos hlt, hindex, if_neg (not_not_intro hfree)]

theorem slotFor_any {self : Lobby} {debug : Bool} {required : Int} (hneg : ¬ 0 ≤ required) :
    (∃ slot, self.slotFor debug required = .ok slot) ↔ ∃ slot, Lobby.Accepts self required slot := by
  rw [Lobby.slotFor, if_neg hneg]
  unfold Lobby.Accepts
  simp only [if_neg hneg]
  generalize hslots : (if debug ∧ self.mode ≠ .solo then
    (List.finRange 12).reverse else List.finRange 12) = slots
  have hall (slot : Fin 12) : slot ∈ slots := by
    rw [← hslots]
    split_ifs
    · exact List.mem_reverse.mpr (List.mem_finRange slot)
    · exact List.mem_finRange slot
  rcases hfound : slots.find? (fun index => decide (self.minClientId ≤ index.val ∧
      index.val < self.maxClients.toNat ∧ self.clients index = none)) with _ | index
  · simp only [hfound]
    constructor
    · rintro ⟨slot, hslot⟩
      cases hslot
    · rintro ⟨slot, hfree, hmin, hmax⟩
      have hnot := List.find?_eq_none.mp hfound slot (hall slot)
      rw [decide_eq_true_eq] at hnot
      exact absurd ⟨hmin, hmax, hfree⟩ hnot
  · simp only [hfound]
    have hfits := List.find?_some hfound
    rw [decide_eq_true_eq] at hfits
    exact iff_of_true ⟨index, rfl⟩ ⟨index, hfits.2.2, hfits.1, hfits.2.1⟩

theorem slotFor_iff {self : Lobby} (debug : Bool) (required : Int) :
    (∃ slot, self.slotFor debug required = .ok slot) ↔ ∃ slot, Lobby.Accepts self required slot := by
  by_cases hnonneg : 0 ≤ required
  · exact slotFor_required hnonneg
  · exact slotFor_any hnonneg

/-- All slots for clients that join without a required one are taken. -/
def Lobby.IsFull (self : Lobby) : Prop :=
  ∀ slot : Fin 12, self.minClientId ≤ slot → slot.val < self.maxClients.toNat →
    self.clients slot ≠ none

theorem isFull_iff {self : Lobby} {required : Int} (hneg : ¬ 0 ≤ required) :
    Lobby.IsFull self ↔ ¬ ∃ slot, Lobby.Accepts self required slot := by
  unfold Lobby.Accepts
  simp only [if_neg hneg]
  constructor
  · rintro hfull ⟨slot, hfree, hmin, hmax⟩
    exact hfull slot hmin hmax hfree
  · intro hnone slot hmin hmax hfree
    exact hnone ⟨slot, hfree, hmin, hmax⟩

theorem checkSpace_any {source dest : Lobby} {required : Int} (hneg : ¬ 0 ≤ required) :
    (∃ e, checkSpace source dest required = .error e) ↔
      dest.maxClients.toNat ≤ dest.countClients + source.minClientId := by
  rw [checkSpace, if_neg hneg]
  have hle : dest.maxClients.toNat - source.minClientId ≤ dest.countClients ↔
      dest.maxClients.toNat ≤ dest.countClients + source.minClientId := by omega
  dsimp only
  split_ifs with hfull
  · exact iff_of_true ⟨_, rfl⟩ (hle.mp hfull)
  · refine iff_of_false ?_ fun h => hfull (hle.mpr h)
    rintro ⟨e, he⟩
    cases he

theorem checkSpace_required {source dest : Lobby} {required : Int} (hnonneg : 0 ≤ required) :
    (∃ e, checkSpace source dest required = .error e) ↔
      ¬ ∃ slot, Lobby.Accepts dest required slot := by
  rw [← slotFor_iff false required, checkSpace, Lobby.slotFor, if_pos hnonneg, if_pos hnonneg]
  split_ifs with hlt hused
  · refine iff_of_true ⟨_, rfl⟩ ?_
    rintro ⟨slot, hslot⟩
    cases hslot
  · refine iff_of_false ?_ (not_not_intro ⟨_, rfl⟩)
    rintro ⟨e, he⟩
    cases he
  · refine iff_of_true ⟨_, rfl⟩ ?_
    rintro ⟨slot, hslot⟩
    cases hslot

/-! The move. -/

/-- The call throws exactly if the destination has no slot for the client, and
nobody has moved then. -/
def MovesAtomically (w : World) (source dest : LobbyPointer) (c : ClientPointer)
    (requiredClientId : Int) (order : Nat → IterationOrder) : Prop :=
  ((∃ e w', (moveClientToLobby source dest c requiredClientId order).run w = .error e w') ↔
      ¬ ∃ slot, Lobby.Accepts (w.lobbies dest) requiredClientId slot) ∧
    ∀ e w', (moveClientToLobby source dest c requiredClientId order).run w = .error e w' →
      (w'.lobbies source).clients = (w.lobbies source).clients ∧
      (w'.lobbies dest).clients = (w.lobbies dest).clients ∧
      (w'.clients c).lobbyClientId = (w.clients c).lobbyClientId

/-- A logged-in client in a slot of a lobby. -/
structure Stands (w : World) (l : LobbyPointer) (c : ClientPointer) (slot : Fin 12) : Prop where
  isLoggedIn : (w.clients c).isLoggedIn
  lobbyClientId : (w.clients c).lobbyClientId = UInt8.ofNat slot
  clients : (w.lobbies l).clients slot = some c

variable {source dest : LobbyPointer} {c : ClientPointer} {slot : Fin 12} {required : Int}
  {order : Nat → IterationOrder}

theorem run_move_of_error (c : ClientPointer) (order : Nat → IterationOrder) {e : Exception}
    (hne : dest ≠ source)
    (hspace : checkSpace (w.lobbies source) (w.lobbies dest) required = .error e) :
    (moveClientToLobby source dest c required order).run w = .error e w := by
  rw [moveClientToLobby, if_neg hne, run_get_bind, hspace]
  rfl

/-- The client is out of the source when the destination is searched. -/
theorem run_move_of_ok (order : Nat → IterationOrder) (hne : dest ≠ source) (htidy : Tidy w)
    (hstands : Stands w source c slot)
    (hspace : checkSpace (w.lobbies source) (w.lobbies dest) required = .ok ()) :
    ∃ mid, (moveClientToLobby source dest c required order).run w =
        (addClient dest c required).run mid ∧
      Tidy mid ∧ (mid.clients c).isLoggedIn ∧
      (mid.clients c).debugEnabled = (w.clients c).debugEnabled ∧
      (mid.lobbies source).clients = Function.update (w.lobbies source).clients slot none ∧
      ∀ debug, (mid.lobbies dest).slotFor debug required =
        (w.lobbies dest).slotFor debug required := by
  obtain ⟨mid, hrun, htidy', hsame⟩ :=
    run_removeClient htidy hstands.lobbyClientId hstands.clients order
  refine ⟨mid, ?_, htidy', ?_, hsame.debugEnabled c, ?_, ?_⟩
  · rw [moveClientToLobby, if_neg hne, run_get_bind, hspace, run_ok_bind, run_bind_of_ok hrun]
  · rw [hsame.isLoggedIn c]
    exact hstands.isLoggedIn
  · rw [hsame.clients source, withLobby_self]
    rfl
  · intro debug
    have hdest := withLobby_of_ne (w := w) ((w.lobbies source).withSlot slot none) hne
    unfold Lobby.slotFor Lobby.minClientId Lobby.checkFlag
    rw [hsame.clients dest, hsame.maxClients dest, hsame.enabledFlags dest, hsame.mode dest, hdest]

theorem movesAtomically_of_error {e : Exception} (hne : dest ≠ source)
    (hspace : checkSpace (w.lobbies source) (w.lobbies dest) required = .error e) :
    MovesAtomically w source dest c required order ↔
      ¬ ∃ slot, Lobby.Accepts (w.lobbies dest) required slot := by
  have hrun := run_move_of_error c order hne hspace
  constructor
  · intro h
    exact h.1.mp ⟨e, w, hrun⟩
  · intro hnone
    refine ⟨iff_of_true ⟨e, w, hrun⟩ hnone, ?_⟩
    intro e' w' hrun'
    rw [hrun] at hrun'
    cases hrun'
    exact ⟨rfl, rfl, rfl⟩

/-- When the check lets the client go, it must find a slot. -/
theorem movesAtomically_of_ok (hne : dest ≠ source) (htidy : Tidy w)
    (hstands : Stands w source c slot)
    (hspace : checkSpace (w.lobbies source) (w.lobbies dest) required = .ok ()) :
    MovesAtomically w source dest c required order ↔
      ∃ slot, Lobby.Accepts (w.lobbies dest) required slot := by
  obtain ⟨mid, hrun, htidy', hlogin, -, hgone, hsearch⟩ :=
    run_move_of_ok order hne htidy hstands hspace
  rcases hslot : (mid.lobbies dest).slotFor (mid.clients c).debugEnabled required with e | index
  · have hnone : ¬ ∃ slot, Lobby.Accepts (w.lobbies dest) required slot := by
      rw [← slotFor_iff (mid.clients c).debugEnabled, ← hsearch, hslot]
      rintro ⟨slot, h⟩
      cases h
    refine iff_of_false ?_ hnone
    intro h
    have hkept := (h.2 e mid (hrun.trans (run_addClient_of_no_slot hlogin hslot))).1
    rw [hgone] at hkept
    have hslot := congrFun hkept slot
    rw [Function.update_self, hstands.clients] at hslot
    cases hslot
  · have hsome : ∃ slot, Lobby.Accepts (w.lobbies dest) required slot := by
      rw [← slotFor_iff (mid.clients c).debugEnabled, ← hsearch, hslot]
      exact ⟨index, rfl⟩
    obtain ⟨w', hadd, -⟩ := run_addClient_of_slot htidy' hlogin hslot
    have hnever (e : Exception) (w'' : World) :
        (moveClientToLobby source dest c required order).run w ≠ .error e w'' := by
      rw [hrun, hadd]
      intro h
      cases h
    refine iff_of_true ⟨iff_of_false ?_ (not_not_intro hsome), ?_⟩ hsome
    · rintro ⟨e, w'', herror⟩
      exact hnever e w'' herror
    · intro e w'' herror
      exact absurd herror (hnever e w'')

/-- A move is atomic exactly if the check finds out whether there is a slot. -/
theorem movesAtomically_iff_check (hne : dest ≠ source) (htidy : Tidy w)
    (hstands : Stands w source c slot) :
    MovesAtomically w source dest c required order ↔
      ((∃ e, checkSpace (w.lobbies source) (w.lobbies dest) required = .error e) ↔
        ¬ ∃ slot, Lobby.Accepts (w.lobbies dest) required slot) := by
  rcases hspace : checkSpace (w.lobbies source) (w.lobbies dest) required with e | ⟨⟨⟩⟩
  · have hthrows : ∃ e', (.error e : Except Exception Unit) = .error e' := ⟨e, rfl⟩
    rw [movesAtomically_of_error hne hspace, iff_true_left hthrows]
  · have hpasses : ¬ ∃ e, (.ok () : Except Exception Unit) = .error e := by
      rintro ⟨e, he⟩
      cases he
    rw [movesAtomically_of_ok hne htidy hstands hspace, iff_false_left hpasses, not_not]

/-- A move is atomic if a slot is required, or if the number of clients in the
destination tells whether it is full. The number is compared with the minimum
slot of the lobby that the client leaves. -/
theorem movesAtomically_iff (hne : dest ≠ source) (htidy : Tidy w)
    (hstands : Stands w source c slot) :
    MovesAtomically w source dest c required order ↔
      0 ≤ required ∨ (Lobby.IsFull (w.lobbies dest) ↔
        (w.lobbies dest).maxClients.toNat ≤
          (w.lobbies dest).countClients + (w.lobbies source).minClientId) := by
  rw [movesAtomically_iff_check hne htidy hstands]
  by_cases hnonneg : 0 ≤ required
  · exact iff_of_true (checkSpace_required hnonneg) (.inl hnonneg)
  · rw [or_iff_right hnonneg, checkSpace_any hnonneg, isFull_iff hnonneg]
    exact iff_comm

/-! Lobbies that are not spectator teams. -/

theorem countP_and_add {ι : Type} (p q : ι → Bool) (xs : List ι) :
    xs.countP (fun x => p x && q x) + xs.countP (fun x => p x && !q x) = xs.countP p := by
  induction xs with
  | nil => rfl
  | cons x xs ih =>
      simp only [List.countP_cons]
      cases p x
      · simp only [Bool.false_and, Bool.false_eq_true, if_false]
        omega
      · cases q x
        · simp only [Bool.and_false, Bool.not_false, Bool.and_self, Bool.false_eq_true, if_false,
            if_true]
          omega
        · simp only [Bool.and_self, Bool.not_true, Bool.and_false, Bool.false_eq_true, if_false,
            if_true]
          omega

theorem countP_lt (m : Fin 13) : (List.finRange 12).countP (fun x => x.val < m.val) = m := by
  revert m
  decide

/-- Where every slot is for everyone, the number of clients tells whether the
lobby is full. -/
theorem isFull_iff_countClients {self : Lobby} (hmin : self.minClientId = 0) :
    Lobby.IsFull self ↔ self.maxClients.toNat ≤ self.countClients := by
  have hsum := countP_and_add (fun x : Fin 12 => x.val < self.maxClients.toNat)
    (fun x => self.clients x ≠ none) (List.finRange 12)
  have hsize := countP_lt ⟨self.maxClients.toNat, Nat.lt_succ_of_le self.maxClients_le⟩
  rw [show (List.finRange 12).countP (fun x => decide (x.val < self.maxClients.toNat)) =
    self.maxClients.toNat from hsize] at hsum
  have hcount : self.countClients = (List.finRange 12).countP (fun x =>
      decide (x.val < self.maxClients.toNat) && decide (self.clients x ≠ none)) := by
    unfold Lobby.countClients
    simp only [Bool.decide_and]
  have hfull : Lobby.IsFull self ↔ (List.finRange 12).countP (fun x =>
      decide (x.val < self.maxClients.toNat) && !decide (self.clients x ≠ none)) = 0 := by
    rw [List.countP_eq_zero]
    constructor
    · intro h slot _ hfree
      simp only [Bool.and_eq_true, decide_eq_true_eq, Bool.not_eq_true', decide_eq_false_iff_not]
        at hfree
      exact hfree.2 (h slot (hmin ▸ Nat.zero_le _) hfree.1)
    · intro h slot _ hmax hfree
      refine h slot (List.mem_finRange slot) ?_
      simp only [Bool.and_eq_true, decide_eq_true_eq, Bool.not_eq_true', decide_eq_false_iff_not]
      exact ⟨hmax, not_not_intro hfree⟩
  rw [hfull]
  omega

theorem movesAtomically_of_minClientId (hne : dest ≠ source) (htidy : Tidy w)
    (hstands : Stands w source c slot) (hsource : (w.lobbies source).minClientId = 0)
    (hdest : (w.lobbies dest).minClientId = 0) :
    MovesAtomically w source dest c required order := by
  rw [movesAtomically_iff_check hne htidy hstands]
  by_cases hnonneg : 0 ≤ required
  · exact checkSpace_required hnonneg
  · rw [checkSpace_any hnonneg, ← isFull_iff hnonneg, isFull_iff_countClients hdest, hsource]
    exact Iff.rfl

/-! A spectator team with eight spectators. -/

def plainClient (l : LobbyPointer) (slot : Fin 12) : Client where
  isLoggedIn := true
  debugEnabled := false
  lobby := some l
  lobbyClientId := UInt8.ofNat slot
  lobbyArrowColor := 0
  inventoryItemIds := []

def plainLobby (flags : UInt32) (clients : Fin 12 → Option ClientPointer) : Lobby where
  mode := .normal
  enabledFlags := flags
  maxClients := 12
  leaderId := 0
  clients := clients
  nextItemIdForClient := fun _ => 0
  nextGameItemId := 0
  numFloors := 0
  floorItemManagers := fun _ => .new
  four_le_maxClients := by decide
  maxClients_le := by decide

/-- Client 0 is alone in lobby 0. Clients 4 to 11 fill the spectator team 1. -/
def fullTeam : World where
  clients := fun c => if h : 4 ≤ c ∧ c < 12 then plainClient 1 ⟨c, h.2⟩ else plainClient 0 0
  lobbies := fun l => if l = 1 then
    plainLobby (Flag.game ||| Flag.isSpectatorTeam) fun z => if 4 ≤ z.val then some z.val else none
  else
    plainLobby 0 fun z => if z = 0 then some 0 else none

theorem tidy_fullTeam : Tidy fullTeam := by
  intro l floor
  have hnew : ((fullTeam.lobbies l).floorItemManagers floor) = .new := by
    unfold fullTeam
    dsimp only
    split_ifs
    · rfl
    · rfl
  rw [hnew]
  exact FloorItemBookkeeping.coherent_of_empty rfl fun _ => rfl

theorem stands_fullTeam : Stands fullTeam 0 0 0 := ⟨rfl, rfl, rfl⟩

instance (self : Lobby) : Decidable (Lobby.IsFull self) :=
  inferInstanceAs (Decidable (∀ _ : Fin 12, _))

def listed : Nat → IterationOrder := fun _ => ⟨id, fun _ => .refl _⟩

/-- A player's slot of the team can still be required. -/
theorem movesAtomically_iff_required : MovesAtomically fullTeam 0 1 0 2 listed :=
  (movesAtomically_iff (by decide) tidy_fullTeam stands_fullTeam).mpr (.inl (by decide))

/-- The client is out of its lobby when the team turns out to be full. -/
theorem fullTeam_not_atomic : ¬ MovesAtomically fullTeam 0 1 0 (-1) listed := by
  rw [movesAtomically_of_ok (by decide) tidy_fullTeam stands_fullTeam (by rfl),
    ← isFull_iff (by decide)]
  decide +kernel

end HuntersGuild.LobbyMoves
