import HuntersGuild.BattleRecords

/-!
A battle record survives being written to a file and read back.
-/

namespace HuntersGuild.BattleRecordFiles

open HuntersGuild.ExceptionRules
open HuntersGuild.ByteStreams
open HuntersGuild.StringReaders
open HuntersGuild.StatefulPrograms
open HuntersGuild.BattleRecords

theorem reads_lobbyData (lobbyData : PlayerLobbyData) :
    Reads PlayerLobbyData.get lobbyData.put lobbyData :=
  (reads_getU32l _).bind <| (reads_getU32l _).bind <| (reads_getU32b _).bind <|
    (reads_getU32l _).bind <| (reads_getParray _).map

theorem reads_playerEntry (player : PlayerEntry) : Reads PlayerEntry.get player.put player :=
  (reads_lobbyData _).bind <| (reads_getParray _).bind <| (reads_getParray _).bind <|
    (reads_getU32l _).map

theorem reads_getPlayers (players : List PlayerEntry) :
    Reads (getPlayers players.length) (players.flatMap PlayerEntry.put) players := by
  induction players with
  | nil => exact reads_pure []
  | cons player players ih =>
      exact (reads_playerEntry player).bind ih.map

theorem reads_readData {data : List UInt8} (h : data.length < 65536) :
    Reads readData (serializeData data) data := by
  have hsize : (UInt16.ofNat data.length).toNat = data.length := UInt16.toNat_ofNat_of_lt' h
  refine (reads_getU16l _).bind ?_
  rw [hsize]
  exact reads_read data

theorem ofByte?_byte (type : EventType) : EventType.ofByte? type.byte = some type := by
  cases type <;> rfl

/-- An event that its own type can store. -/
def Storable (ev : Event) : Prop :=
  match ev.type with
  | .playerJoin => ∃ player, ev.players = [player]
  | .playerLeave => ∃ leavingClientId, ev.leavingClientId = some leavingClientId
  | .setInitialPlayers => ev.players.length < 256
  | .chatMessage => (∃ guildCardNumber, ev.guildCardNumber = some guildCardNumber) ∧
      ev.data.length < 65536
  | .gameCommand | .battleCommand | .ep3GameCommand | .serverDataCommand => ev.data.length < 65536

/-- Two events agree on the members that are used for their type. -/
def SameEvent (a b : Event) : Prop :=
  a.type = b.type ∧ a.timestamp = b.timestamp ∧
    match a.type with
    | .playerJoin | .setInitialPlayers => a.players = b.players
    | .playerLeave => a.leavingClientId = b.leavingClientId
    | .chatMessage => a.guildCardNumber = b.guildCardNumber ∧ a.data = b.data
    | .gameCommand | .battleCommand | .ep3GameCommand | .serverDataCommand => a.data = b.data

theorem exists_reads_body {ev : Event} (hev : Storable ev) :
    ∃ body ev', ev.serializeBody = .ok body ∧
      Reads (Event.parseBody ev.timestamp ev.type) body ev' ∧ SameEvent ev' ev := by
  obtain ⟨type, timestamp, players, leavingClientId, guildCardNumber, data⟩ := ev
  cases type with
  | playerJoin =>
      obtain ⟨player, rfl⟩ := hev
      exact ⟨_, _, rfl, (reads_playerEntry player).map, rfl, rfl, rfl⟩
  | playerLeave =>
      obtain ⟨leavingClientId, rfl⟩ := hev
      exact ⟨_, _, rfl, (reads_getU8 leavingClientId).map, rfl, rfl, rfl⟩
  | setInitialPlayers =>
      have hcount : (UInt8.ofNat players.length).toNat = players.length :=
        UInt8.toNat_ofNat_of_lt' hev
      have hplayers : Reads (getPlayers (UInt8.ofNat players.length).toNat)
          (players.flatMap PlayerEntry.put) players := by
        rw [hcount]
        exact reads_getPlayers players
      exact ⟨_, _, rfl, (reads_getU8 (.ofNat players.length)).bind hplayers.map, rfl, rfl, rfl⟩
  | chatMessage =>
      obtain ⟨⟨guildCardNumber, rfl⟩, hdata⟩ := hev
      exact ⟨_, _, rfl, (reads_getU32l guildCardNumber).bind (reads_readData hdata).map,
        rfl, rfl, rfl, rfl⟩
  | battleCommand => exact ⟨_, _, rfl, (reads_readData hev).map, rfl, rfl, rfl⟩
  | gameCommand => exact ⟨_, _, rfl, (reads_readData hev).map, rfl, rfl, rfl⟩
  | ep3GameCommand => exact ⟨_, _, rfl, (reads_readData hev).map, rfl, rfl, rfl⟩
  | serverDataCommand => exact ⟨_, _, rfl, (reads_readData hev).map, rfl, rfl, rfl⟩

theorem exists_reads_event {ev : Event} (hev : Storable ev) :
    ∃ bytes ev', ev.serialize = .ok bytes ∧ bytes ≠ [] ∧ Reads Event.parse bytes ev' ∧
      SameEvent ev' ev := by
  obtain ⟨body, ev', hbody, hreads, hsame⟩ := exists_reads_body hev
  refine ⟨ev.type.byte :: (putU64l ev.timestamp ++ body), ev', ?_, List.cons_ne_nil _ _, ?_, hsame⟩
  · exact bind_of_ok hbody rfl
  · refine (reads_getU8 ev.type.byte).bind ((reads_getU64l ev.timestamp).bind ?_)
    rw [ofByte?_byte]
    exact hreads

/-- The events of a file come back one after another. -/
theorem exists_parseEvents {events : List Event} (hevents : ∀ ev ∈ events, Storable ev) :
    ∃ blocks events', events.mapM Event.serialize = .ok blocks ∧
      List.Forall₂ SameEvent events' events ∧
      ∀ fuel offset, blocks.flatten.length < fuel →
        parseEvents fuel ⟨blocks.flatten, offset⟩ = .ok events' := by
  induction events with
  | nil =>
      refine ⟨[], [], rfl, .nil, ?_⟩
      rintro (_ | fuel) offset hfuel
      · exact absurd hfuel (Nat.not_lt_zero _)
      · rfl
  | cons ev events ih =>
      obtain ⟨bytes, ev', hbytes, hne, hreads, hsame⟩ :=
        exists_reads_event (hevents ev List.mem_cons_self)
      obtain ⟨blocks, events', hblocks, hrest, hparse⟩ :=
        ih fun ev hev => hevents ev (List.mem_cons_of_mem _ hev)
      refine ⟨bytes :: blocks, ev' :: events', ?_, .cons hsame hrest, ?_⟩
      · rw [List.mapM_cons, hbytes, ok_bind, hblocks]
        rfl
      · intro fuel offset hfuel
        have hpos := List.length_pos_iff.mpr hne
        rw [List.flatten_cons, List.length_append] at hfuel
        obtain ⟨fuel, rfl⟩ : ∃ rest, fuel = rest + 1 := ⟨fuel - 1, by omega⟩
        have heof : (⟨bytes ++ blocks.flatten, offset⟩ : StringReader).eof = false := by
          cases bytes with
          | nil => exact absurd rfl hne
          | cons v bytes => rfl
        have htail := hparse fuel (offset + bytes.length) (by omega)
        simp only [parseEvents, List.flatten_cons, heof, Bool.false_eq_true, if_false,
          hreads blocks.flatten offset, ok_bind, htail, pure_eq_ok]

theorem reads_header {record : BattleRecord} (h : record.randomStream.length < 2 ^ 32) :
    Reads parseHeader record.serializeHeader
      { record with isWritable := false, events := [] } := by
  have hsize : (UInt32.ofNat record.randomStream.length).toNat = record.randomStream.length :=
    UInt32.toNat_ofNat_of_lt' h
  have hread : Reads (readRandomStream true) (putU32l (.ofNat record.randomStream.length) ++
      record.randomStream) record.randomStream := by
    refine (reads_getU32l _).bind ?_
    rw [hsize]
    exact reads_read record.randomStream
  have hsignature : Reads (liftM (hasRandomStream signatureV2)) [] true := fun _ _ => rfl
  exact (reads_getU64l signatureV2).bind <| hsignature.bind <|
    (reads_getU64l _).bind <| (reads_getU64l _).bind <| (reads_getU32l _).bind hread.map

/-- What a file has to bring back. -/
def SameRecord (a b : BattleRecord) : Prop :=
  a.battleStartTimestamp = b.battleStartTimestamp ∧ a.battleEndTimestamp = b.battleEndTimestamp ∧
    a.behaviorFlags = b.behaviorFlags ∧ a.randomStream = b.randomStream ∧
    List.Forall₂ SameEvent a.events b.events

theorem parse_serialize {record : BattleRecord} (hevents : ∀ ev ∈ record.events, Storable ev)
    (hrandom : record.randomStream.length < 2 ^ 32) :
    ∃ data record', record.serialize = .ok data ∧ BattleRecord.parse data = .ok record' ∧
      SameRecord record' record := by
  obtain ⟨blocks, events', hblocks, hsame, hparse⟩ := exists_parseEvents hevents
  refine ⟨record.serializeHeader ++ blocks.flatten,
    { record with isWritable := false, events := events' }, bind_of_ok hblocks rfl, ?_,
    rfl, rfl, rfl, rfl, hsame⟩
  have hheader := reads_header hrandom blocks.flatten 0
  have htail := hparse (blocks.flatten.length + 1) (0 + record.serializeHeader.length)
    (Nat.lt_succ_self _)
  exact bind_of_ok hheader (bind_of_ok htail rfl)

/-! Which events a recording can contain. -/

def AllStorable (record : BattleRecord) : Prop :=
  ∀ ev ∈ record.events, Storable ev

theorem keeps_addEvent {ev : Event} (hev : Storable ev) : Keeps AllStorable (addEvent ev) := by
  apply keeps_modify
  intro record h ev' hmem
  rcases List.mem_append.mp hmem with hold | hnew
  · exact h ev' hold
  · obtain rfl := List.mem_singleton.mp hnew
    exact hev

theorem readOnly_checkWritable : ReadOnly checkWritable := by
  intro record
  unfold checkWritable
  rw [run_get_bind]
  cases record.isWritable <;> rfl

theorem keeps_checkWritable_bind {f : PUnit → Recording PUnit} (hf : Keeps AllStorable (f ⟨⟩)) :
    Keeps AllStorable (checkWritable >>= f) :=
  readOnly_checkWritable.keeps.bind fun _ => hf

theorem mem_of_fromLastMap {events kept : List Event} {numMapEvents : Nat}
    (h : fromLastMap numMapEvents events = .ok kept) : kept ⊆ events := by
  induction events generalizing numMapEvents with
  | nil =>
      cases h
      exact List.Subset.refl []
  | cons ev events ih =>
      obtain ⟨isMap, -, h⟩ := bind_eq_ok.mp h
      split at h
      · split at h
        · cases h
          exact List.Subset.refl _
        · exact List.subset_cons_of_subset ev (ih h)
      · exact List.subset_cons_of_subset ev (ih h)

theorem length_initialPlayers_le (locals : StartLocals) : locals.initialPlayers.length ≤ 4 := by
  have h := List.length_filterMap_le
    (fun z : Fin 4 => if locals.playersPresent.get z then some (locals.players.get z) else none)
    (List.finRange 4)
  rwa [List.length_finRange] at h

theorem storable_of_collapseEvents {now : UInt64} {uninitialized : StartLocals}
    {events kept : List Event} (hevents : ∀ ev ∈ events, Storable ev)
    (h : collapseEvents now uninitialized events = .ok kept) : ∀ ev ∈ kept, Storable ev := by
  obtain ⟨locals, -, h⟩ := bind_eq_ok.mp h
  obtain ⟨rest, hrest, h⟩ := bind_eq_ok.mp h
  cases h
  intro ev hmem
  rcases List.mem_cons.mp hmem with rfl | htail
  · have hcount := length_initialPlayers_le locals
    change locals.initialPlayers.length < 256
    omega
  · exact hevents ev (mem_of_fromLastMap hrest (List.mem_of_mem_filter htail))

theorem keeps_setBattleStartTimestamp (now : UInt64) (uninitialized : StartLocals) :
    Keeps AllStorable (setBattleStartTimestamp now uninitialized) := by
  apply keeps_get_bind
  intro record h
  by_cases hset : record.battleStartTimestamp = 0
  · rw [if_pos hset]
    cases hcollapse : collapseEvents now uninitialized record.events with
    | error e => exact h
    | ok events => exact storable_of_collapseEvents h hcollapse
  · rw [if_neg hset]
    exact h

/-- A type whose events store data. -/
def HasData : EventType → Prop
  | .playerJoin | .playerLeave | .setInitialPlayers => False
  | .battleCommand | .gameCommand | .ep3GameCommand | .chatMessage | .serverDataCommand => True

theorem storable_command {type : EventType} {now : UInt64} {data : List UInt8}
    (htype : HasData type) (hdata : data.length < 65536) :
    Storable { Event.emplaced type now with data } := by
  cases type with
  | playerJoin => exact htype.elim
  | playerLeave => exact htype.elim
  | setInitialPlayers => exact htype.elim
  | chatMessage => exact ⟨⟨0, rfl⟩, hdata⟩
  | battleCommand => exact hdata
  | gameCommand => exact hdata
  | ep3GameCommand => exact hdata
  | serverDataCommand => exact hdata

/-- The calls that change a recording. -/
inductive Call where
  | addPlayer (now : UInt64) (player : PlayerEntry)
  | deletePlayer (now : UInt64) (clientId : UInt8)
  | addCommand (now : UInt64) (type : EventType) (data : List UInt8)
  | addChatMessage (now : UInt64) (guildCardNumber : UInt32) (data : List UInt8)
  | addRandomData (data : List UInt8)
  | setBattleStartTimestamp (now : UInt64) (uninitialized : StartLocals)
  | setBattleEndTimestamp (now : UInt64)

def Call.perform : Call → Recording PUnit
  | .addPlayer now player => BattleRecords.addPlayer now player
  | .deletePlayer now clientId => BattleRecords.deletePlayer now clientId
  | .addCommand now type data => BattleRecords.addCommand now type data
  | .addChatMessage now guildCardNumber data =>
      BattleRecords.addChatMessage now guildCardNumber data
  | .addRandomData data => BattleRecords.addRandomData data
  | .setBattleStartTimestamp now uninitialized =>
      BattleRecords.setBattleStartTimestamp now uninitialized
  | .setBattleEndTimestamp now => BattleRecords.setBattleEndTimestamp now

/-- Every caller of `add_command` gives it the type of a command, and the size
of the data has two bytes in a file. -/
def Call.Fits : Call → Prop
  | .addCommand _ type data => HasData type ∧ data.length < 65536
  | .addChatMessage _ _ data => data.length < 65536
  | _ => True

theorem keeps_perform {call : Call} (hcall : call.Fits) : Keeps AllStorable call.perform := by
  cases call with
  | addPlayer now player =>
      refine keeps_checkWritable_bind (keeps_get_bind ?_)
      intro record h
      by_cases hset : record.battleStartTimestamp = 0
      · rw [if_pos hset]
        have hev : Storable { Event.emplaced .playerJoin now with players := [player] } :=
          ⟨player, rfl⟩
        exact keeps_addEvent hev record h
      · rw [if_neg hset]
        exact h
  | deletePlayer now clientId =>
      have hev : Storable { Event.emplaced .playerLeave now with
          leavingClientId := some clientId } := ⟨clientId, rfl⟩
      exact keeps_checkWritable_bind (keeps_addEvent hev)
  | addCommand now type data =>
      exact keeps_checkWritable_bind (keeps_addEvent (storable_command hcall.1 hcall.2))
  | addChatMessage now guildCardNumber data =>
      have hev : Storable { Event.emplaced .chatMessage now with
          guildCardNumber := some guildCardNumber, data } := ⟨⟨guildCardNumber, rfl⟩, hcall⟩
      exact keeps_checkWritable_bind (keeps_addEvent hev)
  | addRandomData data => exact keeps_modify fun _ h => h
  | setBattleStartTimestamp now uninitialized =>
      exact keeps_setBattleStartTimestamp now uninitialized
  | setBattleEndTimestamp now => exact keeps_modify fun _ h => h

/-- The record after some calls. A call that throws may have changed it. -/
def recorded (behaviorFlags : UInt32) (calls : List Call) : BattleRecord :=
  calls.foldl (fun record call => finalState (call.perform.run record)) (.create behaviorFlags)

theorem allStorable_recorded {behaviorFlags : UInt32} {calls : List Call}
    (hcalls : ∀ call ∈ calls, call.Fits) : AllStorable (recorded behaviorFlags calls) := by
  apply List.foldlRecOn calls _ (motive := AllStorable)
  · intro ev hmem
    cases hmem
  · intro record h call hmem
    exact keeps_perform (hcalls call hmem) record h

/-- Whatever was recorded, the file gives the same record. -/
theorem parse_serialize_recorded (behaviorFlags : UInt32) (calls : List Call)
    (hcalls : ∀ call ∈ calls, call.Fits)
    (hrandom : (recorded behaviorFlags calls).randomStream.length < 2 ^ 32) :
    ∃ data record, (recorded behaviorFlags calls).serialize = .ok data ∧
      BattleRecord.parse data = .ok record ∧ SameRecord record (recorded behaviorFlags calls) :=
  parse_serialize (allStorable_recorded hcalls) hrandom

theorem parse_serialize_recorded_leave : ∃ data record,
    (recorded 0 [.deletePlayer 1 2, .addCommand 3 .battleCommand [0xB4, 0x01],
      .addRandomData [5]]).serialize = .ok data ∧
      BattleRecord.parse data = .ok record ∧
      SameRecord record (recorded 0 [.deletePlayer 1 2, .addCommand 3 .battleCommand [0xB4, 0x01],
        .addRandomData [5]]) :=
  parse_serialize_recorded 0 [.deletePlayer 1 2, .addCommand 3 .battleCommand [0xB4, 0x01],
    .addRandomData [5]] (by simp [Call.Fits, HasData]) (by decide +kernel)

end HuntersGuild.BattleRecordFiles
