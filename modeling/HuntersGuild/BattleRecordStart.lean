import HuntersGuild.BattleRecordFiles

/-!
What a battle record keeps of the events before the battle: the players that are
present when it starts, and the commands from the last map definition on.
-/

namespace HuntersGuild.BattleRecordStart

open HuntersGuild.BattleRecordFiles
open HuntersGuild.BattleRecords
open HuntersGuild.ByteStreams
open HuntersGuild.ExceptionRules
open HuntersGuild.StatefulPrograms

/-! What is to be kept. -/

/-- What an event says about a client: the player that joins, or that nobody is
there any more. -/
def about (z : Nat) (ev : Event) : Option (Option PlayerEntry) :=
  match ev.type with
  | .playerJoin =>
      match ev.players with
      | [player] => if player.lobbyData.clientId.toNat = z then some (some player) else none
      | _ => none
  | .playerLeave =>
      if ev.leavingClientId.map (·.toNat) = some z then some none else none
  | _ => none

/-- The last thing that is said about a client. -/
def lastAbout (z : Nat) : List Event → Option (Option PlayerEntry)
  | [] => none
  | ev :: events => (lastAbout z events).or (about z ev)

/-- The players whose last join is not followed by a leave, in the order of the
clients. -/
def presentPlayers (events : List Event) : List PlayerEntry :=
  (List.finRange 4).filterMap fun z => (lastAbout z events).join

def isMapDefinition (ev : Event) : Bool :=
  match isMapDefinitionEvent ev with
  | .ok isMap => isMap
  | .error _ => false

/-- The events from the last map definition on, or all of them. -/
def sinceMapDefinition : List Event → List Event
  | [] => []
  | ev :: events =>
    if events.any isMapDefinition then sinceMapDefinition events else ev :: events

def isCommand (ev : Event) : Bool := ev.type = .battleCommand ∨ ev.type = .serverDataCommand

def startEvents (now : UInt64) (events : List Event) : List Event :=
  ⟨.setInitialPlayers, now, presentPlayers events, none, none, []⟩ ::
    (sinceMapDefinition events).filter isCommand

/-- The call returns and leaves what is to be kept. -/
def StartsRight (now : UInt64) (uninitialized : StartLocals) (record : BattleRecord) : Prop :=
  (setBattleStartTimestamp now uninitialized).run record =
    .ok ⟨⟩ { record with
      battleStartTimestamp := now
      events := startEvents now record.events
      randomStream := [] }

/-! Events of a recording before the battle. -/

def Recorded (ev : Event) : Prop :=
  match ev.type with
  | .playerJoin => ∃ player, ev.players = [player] ∧ player.lobbyData.clientId.toNat < 4
  | .playerLeave => ∃ clientId : UInt8, ev.leavingClientId = some clientId ∧ clientId.toNat < 4
  | .setInitialPlayers => False
  | .battleCommand | .gameCommand | .ep3GameCommand | .chatMessage | .serverDataCommand => True

/-- A battle command holds its header, and one about a map the longer header. -/
def HoldsHeader (ev : Event) : Prop :=
  ev.type = .battleCommand → 8 ≤ ev.data.length ∧ ev.data.length ≤ 0xFFFF ∧
    (ev.data.getD 0 0 = 0xB6 → 0x0C ≤ ev.data.length)

theorem checkSize_eq_ok_iff {data : List UInt8} {minSize maxSize : Nat} :
    checkSize data minSize maxSize = .ok ⟨⟩ ↔ minSize ≤ data.length ∧ data.length ≤ maxSize := by
  unfold checkSize
  split_ifs with hsmall hlarge
  · exact iff_of_false nofun fun h => Nat.not_lt.mpr h.1 hsmall
  · exact iff_of_false nofun fun h => Nat.not_lt.mpr h.2 hlarge
  · exact iff_of_true rfl ⟨Nat.not_lt.mp hsmall, Nat.not_lt.mp hlarge⟩

theorem holdsHeader_of_isMapDefinitionEvent {ev : Event} {isMap : Bool}
    (h : isMapDefinitionEvent ev = .ok isMap) : HoldsHeader ev := by
  intro htype
  rw [isMapDefinitionEvent, if_pos htype] at h
  obtain ⟨⟨⟩, hsize, h⟩ := bind_eq_ok.mp h
  obtain ⟨hlow, hhigh⟩ := checkSize_eq_ok_iff.mp hsize
  refine ⟨hlow, hhigh, fun hmap => ?_⟩
  rw [if_pos hmap] at h
  obtain ⟨⟨⟩, hsize, -⟩ := bind_eq_ok.mp h
  exact (checkSize_eq_ok_iff.mp hsize).1

theorem exists_isMapDefinitionEvent {ev : Event} (h : HoldsHeader ev) :
    ∃ isMap, isMapDefinitionEvent ev = .ok isMap := by
  unfold isMapDefinitionEvent
  split_ifs with htype hmap
  · obtain ⟨hlow, hhigh, hlong⟩ := h htype
    rw [bind_of_ok (checkSize_eq_ok_iff.mpr ⟨hlow, hhigh⟩) rfl,
      bind_of_ok (checkSize_eq_ok_iff.mpr ⟨hlong hmap, hhigh⟩) rfl]
    exact ⟨_, rfl⟩
  · obtain ⟨hlow, hhigh, -⟩ := h htype
    rw [bind_of_ok (checkSize_eq_ok_iff.mpr ⟨hlow, hhigh⟩) rfl]
    exact ⟨_, rfl⟩
  · exact ⟨_, rfl⟩

theorem isMapDefinitionEvent_eq {ev : Event} (h : HoldsHeader ev) :
    isMapDefinitionEvent ev = .ok (isMapDefinition ev) := by
  obtain ⟨isMap, hok⟩ := exists_isMapDefinitionEvent h
  rw [isMapDefinition, hok]

/-! The scan for the players. -/

/-- The player that the locals have for a client. -/
def playerAt (locals : StartLocals) (z : Fin 4) : Option PlayerEntry :=
  if locals.playersPresent[z] then some locals.players[z] else none

theorem playerAt_join {locals next : StartLocals} {player : PlayerEntry}
    (h : locals.join player = .ok next) (z : Fin 4) :
    playerAt next z =
      if player.lobbyData.clientId.toNat = z then some player else playerAt locals z := by
  unfold StartLocals.join at h
  split_ifs at h with hlt
  obtain rfl := Except.ok.inj h
  simp only [playerAt, Fin.getElem_fin, Vector.getElem_set]
  by_cases heq : player.lobbyData.clientId.toNat = z
  · simp only [if_pos heq, if_true]
  · simp only [if_neg heq]

theorem playerAt_leave {locals next : StartLocals} {clientId : UInt8}
    (h : locals.leave clientId = .ok next) (z : Fin 4) :
    playerAt next z = if clientId.toNat = z then none else playerAt locals z := by
  unfold StartLocals.leave at h
  split_ifs at h with hlt
  obtain rfl := Except.ok.inj h
  simp only [playerAt, Fin.getElem_fin, Vector.getElem_set]
  by_cases heq : clientId.toNat = z
  · simp only [if_pos heq, Bool.false_eq_true, if_false]
  · simp only [if_neg heq]

theorem numMapEvents_join {locals next : StartLocals} {player : PlayerEntry}
    (h : locals.join player = .ok next) : next.numMapEvents = locals.numMapEvents := by
  unfold StartLocals.join at h
  split_ifs at h with hlt
  obtain rfl := Except.ok.inj h
  rfl

theorem numMapEvents_leave {locals next : StartLocals} {clientId : UInt8}
    (h : locals.leave clientId = .ok next) : next.numMapEvents = locals.numMapEvents := by
  unfold StartLocals.leave at h
  split_ifs at h with hlt
  obtain rfl := Except.ok.inj h
  rfl

/-- What an event does to the locals. -/
structure Scans (ev : Event) (locals next : StartLocals) : Prop where
  numMapEvents : next.numMapEvents = locals.numMapEvents + if isMapDefinition ev then 1 else 0
  player : ∀ z : Fin 4, playerAt next z = (about z ev).getD (playerAt locals z)

theorem exists_join {player : PlayerEntry} (h : player.lobbyData.clientId.toNat < 4)
    (locals : StartLocals) : ∃ next, locals.join player = .ok next := by
  unfold StartLocals.join
  rw [dif_pos h]
  exact ⟨_, rfl⟩

theorem exists_leave {clientId : UInt8} (h : clientId.toNat < 4) (locals : StartLocals) :
    ∃ next, locals.leave clientId = .ok next := by
  unfold StartLocals.leave
  rw [dif_pos h]
  exact ⟨_, rfl⟩

/-- An event that is neither a join nor a leave only counts as a map definition or not. -/
theorem exists_scan_other {ev : Event} {locals : StartLocals} (hheader : HoldsHeader ev)
    (hscan : locals.scan ev = do
      let isMap ← isMapDefinitionEvent ev
      return if isMap then { locals with numMapEvents := locals.numMapEvents + 1 } else locals)
    (habout : ∀ z, about z ev = none) : ∃ next, locals.scan ev = .ok next ∧ Scans ev locals next := by
  rw [hscan, isMapDefinitionEvent_eq hheader]
  refine ⟨_, rfl, ?_, fun z => ?_⟩
  · cases isMapDefinition ev <;> rfl
  · rw [habout]
    cases isMapDefinition ev <;> rfl

theorem exists_scan {ev : Event} (hev : Recorded ev) (hheader : HoldsHeader ev) (locals : StartLocals) :
    ∃ next, locals.scan ev = .ok next ∧ Scans ev locals next := by
  obtain ⟨type, timestamp, players, leavingClientId, guildCardNumber, data⟩ := ev
  cases type with
  | playerJoin =>
      obtain ⟨player, rfl, hlt⟩ := hev
      obtain ⟨next, hjoin⟩ := exists_join hlt locals
      refine ⟨next, hjoin, numMapEvents_join hjoin, fun z => ?_⟩
      rw [playerAt_join hjoin]
      simp only [about]
      split_ifs <;> rfl
  | playerLeave =>
      obtain ⟨clientId, rfl, hlt⟩ := hev
      obtain ⟨next, hleave⟩ := exists_leave hlt locals
      refine ⟨next, hleave, numMapEvents_leave hleave, fun z => ?_⟩
      rw [playerAt_leave hleave]
      simp only [about, Option.map_some, Option.some.injEq]
      split_ifs <;> rfl
  | setInitialPlayers => exact hev.elim
  | battleCommand => exact exists_scan_other hheader rfl fun _ => rfl
  | gameCommand => exact exists_scan_other hheader rfl fun _ => rfl
  | ep3GameCommand => exact exists_scan_other hheader rfl fun _ => rfl
  | chatMessage => exact exists_scan_other hheader rfl fun _ => rfl
  | serverDataCommand => exact exists_scan_other hheader rfl fun _ => rfl

theorem exists_scans {events : List Event} (hevents : ∀ ev ∈ events, Recorded ev)
    (hheaders : ∀ ev ∈ events, HoldsHeader ev) (locals : StartLocals) :
    ∃ last, events.foldlM StartLocals.scan locals = .ok last ∧
      last.numMapEvents = locals.numMapEvents + events.countP isMapDefinition ∧
      ∀ z : Fin 4, playerAt last z = (lastAbout z events).getD (playerAt locals z) := by
  induction events generalizing locals with
  | nil => exact ⟨locals, rfl, rfl, fun _ => rfl⟩
  | cons ev events ih =>
      obtain ⟨hev, hevents⟩ := List.forall_mem_cons.mp hevents
      obtain ⟨hheader, hheaders⟩ := List.forall_mem_cons.mp hheaders
      obtain ⟨next, hscan, hnext⟩ := exists_scan hev hheader locals
      obtain ⟨last, hlast, hcount, hplayer⟩ := ih hevents hheaders next
      refine ⟨last, bind_of_ok hscan hlast, ?_, fun z => ?_⟩
      · rw [hcount, hnext.numMapEvents, List.countP_cons]
        omega
      · rw [hplayer, hnext.player, lastAbout]
        cases lastAbout z events <;> rfl

/-- A command that does not hold its header makes the scan throw. -/
theorem holdsHeader_of_scans {events : List Event} (hevents : ∀ ev ∈ events, Recorded ev)
    {locals last : StartLocals} (h : events.foldlM StartLocals.scan locals = .ok last) :
    ∀ ev ∈ events, HoldsHeader ev := by
  induction events generalizing locals with
  | nil => exact nofun
  | cons ev events ih =>
      obtain ⟨hev, hevents⟩ := List.forall_mem_cons.mp hevents
      obtain ⟨next, hscan, hrest⟩ := bind_eq_ok.mp h
      refine List.forall_mem_cons.mpr ⟨fun htype => ?_, ih hevents hrest⟩
      unfold StartLocals.scan at hscan
      simp only [htype] at hscan
      obtain ⟨isMap, hmap, -⟩ := bind_eq_ok.mp hscan
      exact holdsHeader_of_isMapDefinitionEvent hmap htype

/-! The commands that are kept. -/

theorem fromLastMap_eq {events : List Event} (hheaders : ∀ ev ∈ events, HoldsHeader ev) :
    fromLastMap (events.countP isMapDefinition) events =
      .ok (if events.any isMapDefinition then sinceMapDefinition events else []) := by
  induction events with
  | nil => rfl
  | cons ev events ih =>
      obtain ⟨hheader, hheaders⟩ := List.forall_mem_cons.mp hheaders
      have hany : events.countP isMapDefinition = 0 ↔ events.any isMapDefinition = false := by
        rw [List.countP_eq_zero, List.any_eq_false]
      rw [fromLastMap, isMapDefinitionEvent_eq hheader, ok_bind, List.countP_cons, List.any_cons,
        sinceMapDefinition]
      cases hmap : isMapDefinition ev with
      | true =>
          simp only [if_true, Nat.add_sub_cancel, Bool.true_or]
          cases hlater : events.any isMapDefinition with
          | true =>
              have hcount : events.countP isMapDefinition ≠ 0 := fun hzero =>
                Bool.false_ne_true ((hany.mp hzero).symm.trans hlater)
              rw [if_neg hcount, ih hheaders, hlater]
              rfl
          | false =>
              rw [if_pos (hany.mpr hlater)]
              rfl
      | false =>
          rw [if_neg Bool.false_ne_true, if_neg Bool.false_ne_true, Nat.add_zero, ih hheaders,
            Bool.false_or]
          split_ifs <;> rfl

/-! The players that are kept. -/

section FilterMap

variable {α β : Type} {f g : α → Option β}

theorem length_filterMap_le_of_forall {l : List α} (h : ∀ a ∈ l, ∀ b, g a = some b → f a = some b) :
    (l.filterMap g).length ≤ (l.filterMap f).length := by
  induction l with
  | nil => exact Nat.le_refl 0
  | cons a l ih =>
      obtain ⟨hhead, htail⟩ := List.forall_mem_cons.mp h
      cases hg : g a with
      | none =>
          rw [List.filterMap_cons_none hg]
          cases hf : f a with
          | none =>
              rw [List.filterMap_cons_none hf]
              exact ih htail
          | some b =>
              rw [List.filterMap_cons_some hf]
              exact Nat.le_succ_of_le (ih htail)
      | some b =>
          rw [List.filterMap_cons_some hg, List.filterMap_cons_some (hhead b hg)]
          exact Nat.succ_le_succ (ih htail)

/-- When one function keeps what the other keeps, the lists are equal only where the
functions are. -/
theorem filterMap_eq_filterMap_iff {l : List α} (h : ∀ a ∈ l, ∀ b, g a = some b → f a = some b) :
    l.filterMap f = l.filterMap g ↔ ∀ a ∈ l, f a = g a := by
  refine ⟨fun heq => ?_, List.filterMap_congr⟩
  induction l with
  | nil => exact nofun
  | cons a l ih =>
      obtain ⟨hhead, htail⟩ := List.forall_mem_cons.mp h
      cases hg : g a with
      | none =>
          rw [List.filterMap_cons_none hg] at heq
          cases hf : f a with
          | none =>
              rw [List.filterMap_cons_none hf] at heq
              exact List.forall_mem_cons.mpr ⟨hf.trans hg.symm, ih htail heq⟩
          | some b =>
              rw [List.filterMap_cons_some hf] at heq
              have hlength := length_filterMap_le_of_forall htail
              rw [← heq, List.length_cons] at hlength
              omega
      | some b =>
          rw [List.filterMap_cons_some hg, List.filterMap_cons_some (hhead b hg)] at heq
          exact List.forall_mem_cons.mpr ⟨(hhead b hg).trans hg.symm,
            ih htail (List.cons.inj heq).2⟩

end FilterMap

theorem lastAbout_eq_none_iff {z : Nat} {events : List Event} :
    lastAbout z events = none ↔ ∀ ev ∈ events, about z ev = none := by
  induction events with
  | nil => exact iff_of_true rfl nofun
  | cons ev events ih =>
      rw [lastAbout, Option.or_eq_none_iff, ih, List.forall_mem_cons]
      exact And.comm

/-- A client about which there is an event, its joining or leaving. -/
def Mentioned (z : Nat) (events : List Event) : Prop := ∃ ev ∈ events, about z ev ≠ none

theorem initialPlayers_eq_iff {uninitialized last : StartLocals} {events : List Event}
    (h : ∀ z : Fin 4, playerAt last z = (lastAbout z events).getD (playerAt uninitialized z)) :
    last.initialPlayers = presentPlayers events ↔
      ∀ z : Fin 4, uninitialized.playersPresent[z] = true → Mentioned z events := by
  have hkept : ∀ z ∈ List.finRange 4, ∀ player, (lastAbout z events).join = some player →
      playerAt last z = some player := by
    intro z _ player hplayer
    rw [h, Option.join_eq_some_iff.mp hplayer]
    rfl
  refine (filterMap_eq_filterMap_iff (f := playerAt last) hkept).trans ?_
  constructor
  · intro heq z hpresent
    by_contra hnone
    have hlast : lastAbout z events = none := lastAbout_eq_none_iff.mpr fun ev hev =>
      not_not.mp fun habout => hnone ⟨ev, hev, habout⟩
    have hplayer := heq z (List.mem_finRange z)
    rw [h, hlast, Option.getD_none, playerAt, if_pos hpresent] at hplayer
    cases hplayer
  · intro hmentioned z _
    rw [h]
    cases hlast : lastAbout z events with
    | some player => cases player <;> rfl
    | none =>
        have hpresent : uninitialized.playersPresent[z] ≠ true := fun hpresent => by
          obtain ⟨ev, hev, habout⟩ := hmentioned z hpresent
          exact habout (lastAbout_eq_none_iff.mp hlast ev hev)
        rw [Option.getD_none, playerAt, if_neg hpresent]
        rfl

/-! The whole call. -/

/-- When the call does what it is for: the commands hold their headers, nobody is in
the uninitialized locals about whom there is no event, and there is a map definition
where there are commands. -/
structure Startable (uninitialized : StartLocals) (events : List Event) : Prop where
  headers : ∀ ev ∈ events, HoldsHeader ev
  slots : ∀ z : Fin 4, uninitialized.playersPresent[z] = true → Mentioned z events
  commands : (∃ ev ∈ events, isMapDefinition ev = true) ∨ ∀ ev ∈ events, isCommand ev = false

/-- The list of events with what the scan has found in the locals. -/
theorem collapseEvents_eq {events : List Event} (hevents : ∀ ev ∈ events, Recorded ev)
    (hheaders : ∀ ev ∈ events, HoldsHeader ev) (now : UInt64) (uninitialized : StartLocals) :
    ∃ last : StartLocals,
      (last.initialPlayers = presentPlayers events ↔
        ∀ z : Fin 4, uninitialized.playersPresent[z] = true → Mentioned z events) ∧
      collapseEvents now uninitialized events =
        .ok (⟨.setInitialPlayers, now, last.initialPlayers, none, none, []⟩ ::
          (if events.any isMapDefinition then sinceMapDefinition events else []).filter isCommand) := by
  obtain ⟨last, hlast, hcount, hplayer⟩ :=
    exists_scans hevents hheaders { uninitialized with numMapEvents := 0 }
  refine ⟨last, @initialPlayers_eq_iff { uninitialized with numMapEvents := 0 } last events hplayer, ?_⟩
  rw [Nat.zero_add] at hcount
  have hmap := fromLastMap_eq hheaders
  rw [← hcount] at hmap
  exact bind_of_ok hlast (bind_of_ok hmap rfl)

theorem sinceMapDefinition_of_none {events : List Event} (h : events.any isMapDefinition = false) :
    sinceMapDefinition events = events := by
  cases events with
  | nil => rfl
  | cons ev events =>
      rw [List.any_cons, Bool.or_eq_false_iff] at h
      rw [sinceMapDefinition, h.2]
      rfl

theorem collapseEvents_eq_iff {events : List Event} (hevents : ∀ ev ∈ events, Recorded ev)
    (now : UInt64) (uninitialized : StartLocals) :
    collapseEvents now uninitialized events = .ok (startEvents now events) ↔
      Startable uninitialized events := by
  constructor
  · intro h
    obtain ⟨scanned, hscan, -⟩ := bind_eq_ok.mp h
    have hheaders := holdsHeader_of_scans hevents hscan
    obtain ⟨last, hslots, heq⟩ := collapseEvents_eq hevents hheaders now uninitialized
    obtain ⟨hfirst, hrest⟩ := List.cons.inj (Except.ok.inj (heq.symm.trans h))
    refine ⟨hheaders, hslots.mp (Event.mk.inj hfirst).2.2.1, ?_⟩
    cases hany : events.any isMapDefinition with
    | true =>
        obtain ⟨ev, hev, hmap⟩ := List.any_eq_true.mp hany
        exact .inl ⟨ev, hev, hmap⟩
    | false =>
        rw [hany, if_neg Bool.false_ne_true, List.filter_nil, sinceMapDefinition_of_none hany] at hrest
        exact .inr fun ev hev => by simpa using List.filter_eq_nil_iff.mp hrest.symm ev hev
  · intro h
    obtain ⟨last, hslots, heq⟩ := collapseEvents_eq hevents h.headers now uninitialized
    rw [heq, hslots.mpr h.slots]
    cases hany : events.any isMapDefinition with
    | true => rw [if_pos rfl, startEvents]
    | false =>
        rcases h.commands with ⟨ev, hev, hmap⟩ | hnone
        · rw [List.any_eq_false] at hany
          exact absurd hmap (hany ev hev)
        · have hfilter : events.filter isCommand = [] :=
            List.filter_eq_nil_iff.mpr fun ev hev => by simp [hnone ev hev]
          rw [startEvents, sinceMapDefinition_of_none hany, hfilter]
          rfl

/-- What the calls before the battle leave in a recording. -/
structure Preparing (record : BattleRecord) : Prop where
  battleStartTimestamp : record.battleStartTimestamp = 0
  recorded : ∀ ev ∈ record.events, Recorded ev

theorem startsRight_iff_of_preparing {record : BattleRecord} (h : Preparing record) (now : UInt64)
    (uninitialized : StartLocals) :
    StartsRight now uninitialized record ↔ Startable uninitialized record.events := by
  rw [← collapseEvents_eq_iff h.recorded now]
  have hrun : (setBattleStartTimestamp now uninitialized).run record =
      (fromExcept (collapseEvents now uninitialized record.events) >>= fun events =>
        modify fun record => { record with events, randomStream := [] } :
          Recording PUnit).run { record with battleStartTimestamp := now } := by
    unfold setBattleStartTimestamp
    rw [run_get_bind, if_pos h.battleStartTimestamp]
    rfl
  unfold StartsRight
  rw [hrun]
  cases collapseEvents now uninitialized record.events with
  | error e =>
      rw [run_error_bind]
      exact iff_of_false nofun nofun
  | ok events =>
      rw [run_ok_bind]
      constructor
      · intro hresult
        injection hresult with _ hrecord
        exact congrArg Except.ok (congrArg BattleRecord.events hrecord)
      · intro hevents
        obtain rfl := Except.ok.inj hevents
        rfl

/-- The calls before the battle: players have one of the four client IDs, and commands
a type that stores data. -/
def Prepares : Call → Prop
  | .addPlayer _ player => player.lobbyData.clientId.toNat < 4
  | .deletePlayer _ clientId => clientId.toNat < 4
  | .addCommand _ type _ => HasData type
  | .addChatMessage _ _ _ => True
  | .addRandomData _ => True
  | .setBattleStartTimestamp _ _ => False
  | .setBattleEndTimestamp _ => False

theorem keeps_preparing_addEvent {ev : Event} (hev : Recorded ev) : Keeps Preparing (addEvent ev) := by
  refine keeps_modify fun record h => ⟨h.battleStartTimestamp, fun ev' hmem => ?_⟩
  rcases List.mem_append.mp hmem with hmem | hmem
  · exact h.recorded ev' hmem
  · rw [List.mem_singleton.mp hmem]
    exact hev

theorem recorded_command {type : EventType} (h : HasData type) (now : UInt64) (data : List UInt8) :
    Recorded { Event.emplaced type now with data } := by
  cases type with
  | playerJoin => exact h.elim
  | playerLeave => exact h.elim
  | setInitialPlayers => exact h.elim
  | battleCommand => exact trivial
  | gameCommand => exact trivial
  | ep3GameCommand => exact trivial
  | chatMessage => exact trivial
  | serverDataCommand => exact trivial

theorem keeps_preparing {call : Call} (hcall : Prepares call) : Keeps Preparing call.perform := by
  cases call with
  | addPlayer now player =>
      refine readOnly_checkWritable.keeps.bind fun _ => keeps_get_bind fun record h => ?_
      rw [if_pos h.battleStartTimestamp]
      have hev : Recorded { Event.emplaced .playerJoin now with players := [player] } :=
        ⟨player, rfl, hcall⟩
      exact keeps_preparing_addEvent hev record h
  | deletePlayer now clientId =>
      refine readOnly_checkWritable.keeps.bind fun _ => keeps_preparing_addEvent ?_
      exact ⟨clientId, rfl, hcall⟩
  | addCommand now type data =>
      exact readOnly_checkWritable.keeps.bind fun _ =>
        keeps_preparing_addEvent (recorded_command hcall now data)
  | addChatMessage now guildCardNumber data =>
      exact readOnly_checkWritable.keeps.bind fun _ => keeps_preparing_addEvent trivial
  | addRandomData data => exact keeps_modify fun _ h => ⟨h.battleStartTimestamp, h.recorded⟩
  | setBattleStartTimestamp now uninitialized => exact hcall.elim
  | setBattleEndTimestamp now => exact hcall.elim

theorem preparing_recorded (behaviorFlags : UInt32) {calls : List Call}
    (hcalls : ∀ call ∈ calls, Prepares call) : Preparing (recorded behaviorFlags calls) := by
  apply List.foldlRecOn calls _ (motive := Preparing)
  · exact ⟨rfl, nofun⟩
  · intro record h call hmem
    exact keeps_preparing (hcalls call hmem) record h

/-- After any calls before the battle, its start leaves the players that are present and
the commands from the last map definition on exactly when the record is startable. -/
theorem startsRight_iff (behaviorFlags : UInt32) (calls : List Call)
    (hcalls : ∀ call ∈ calls, Prepares call) (now : UInt64) (uninitialized : StartLocals) :
    StartsRight now uninitialized (recorded behaviorFlags calls) ↔
      Startable uninitialized (recorded behaviorFlags calls).events :=
  startsRight_iff_of_preparing (preparing_recorded behaviorFlags hcalls) now uninitialized

def blankPlayer (clientId : UInt32) : PlayerEntry where
  lobbyData := ⟨0x10000, 0, 0, clientId, ⟨List.replicate 0x10 0, List.length_replicate⟩⟩
  inventory := ⟨List.replicate 0x34C 0, List.length_replicate⟩
  disp := ⟨List.replicate 0xD0 0, List.length_replicate⟩
  level := 0

/-- The locals when the bytes on the stack are all the same. -/
def localsOf (present : Bool) : StartLocals where
  numMapEvents := 0
  players := Vector.replicate 4 (blankPlayer 0)
  playersPresent := Vector.replicate 4 present

/-- A player joins, the map is defined, and the player of another client leaves. -/
def setupCalls : List Call :=
  [.addPlayer 1 (blankPlayer 2), .addCommand 2 .battleCommand [0xB6, 3, 0, 0, 12, 0, 0, 0, 0x41, 0, 0, 0],
    .deletePlayer 3 1]

theorem prepares_setupCalls : ∀ call ∈ setupCalls, Prepares call :=
  List.forall_mem_cons.mpr ⟨(by decide : (2 : UInt32).toNat < 4), List.forall_mem_cons.mpr
    ⟨trivial, List.forall_mem_cons.mpr ⟨(by decide : (1 : UInt8).toNat < 4), nofun⟩⟩⟩

theorem startsRight_iff_setup :
    StartsRight 4 (localsOf false) (recorded 0 setupCalls) ↔
      Startable (localsOf false) (recorded 0 setupCalls).events :=
  startsRight_iff 0 setupCalls prepares_setupCalls 4 (localsOf false)

/-- Bytes on the stack that are not zero put players into an empty record. -/
theorem not_startsRight_stack :
    ¬ ∀ (behaviorFlags : UInt32) (calls : List Call), (∀ call ∈ calls, Prepares call) →
      ∀ (now : UInt64) (uninitialized : StartLocals),
        StartsRight now uninitialized (recorded behaviorFlags calls) := by
  intro h
  have hpreparing : Preparing (recorded 0 []) := ⟨rfl, nofun⟩
  have hstart := h 0 [] nofun 4 (localsOf true)
  have hstartable := (startsRight_iff_of_preparing hpreparing 4 _).mp hstart
  obtain ⟨ev, hev, -⟩ := hstartable.slots 0 rfl
  cases hev

end HuntersGuild.BattleRecordStart
