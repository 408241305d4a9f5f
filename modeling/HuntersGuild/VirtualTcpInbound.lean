import HuntersGuild.VirtualTcp

/-!
What a client sends on a connection arrives in the channel once and in order.
-/

namespace HuntersGuild.VirtualTcpInbound

open HuntersGuild.ByteStreams
open HuntersGuild.StatefulPrograms
open HuntersGuild.SequenceNumbers
open HuntersGuild.VirtualTcp

/-! ## Channels -/

/-- A reader waits only for what is not there. -/
structure WellFormed (channel : IPSSChannel) : Prop where
  connected : channel.connected = true
  waiting : ∀ size, channel.recvBuf = some size → 0 < size ∧ channel.inboundData = []

theorem takeInbound_of_le {size : Nat} (front : List UInt8) (blocks : List (List UInt8))
    (h : front.length ≤ size + 1) : takeInbound (size + 1) (front :: blocks) =
      (front ++ (takeInbound (size + 1 - front.length) blocks).1,
        (takeInbound (size + 1 - front.length) blocks).2) :=
  if_pos h

theorem takeInbound_of_lt {size : Nat} (front : List UInt8) (blocks : List (List UInt8))
    (h : size + 1 < front.length) : takeInbound (size + 1) (front :: blocks) =
      (front.take (size + 1), 0, front.drop (size + 1) :: blocks) :=
  if_neg (Nat.not_le.mpr h)

theorem takeInbound_spec (size : Nat) (blocks : List (List UInt8)) :
    (takeInbound size blocks).1 ++ (takeInbound size blocks).2.2.flatten = blocks.flatten ∧
      (0 < (takeInbound size blocks).2.1 → (takeInbound size blocks).2.2 = []) := by
  induction blocks generalizing size with
  | nil => cases size <;> exact ⟨rfl, fun _ => rfl⟩
  | cons front blocks ih =>
      cases size with
      | zero => exact ⟨rfl, fun h => absurd h (Nat.lt_irrefl 0)⟩
      | succ size =>
          rcases Nat.lt_or_ge (size + 1) front.length with hlt | hle
          · rw [takeInbound_of_lt front blocks hlt, List.flatten_cons, ← List.append_assoc,
              List.take_append_drop, List.flatten_cons]
            exact ⟨rfl, fun h => absurd h (Nat.lt_irrefl 0)⟩
          · obtain ⟨hdata, hleft⟩ := ih (size + 1 - front.length)
            rw [takeInbound_of_le front blocks hle, List.append_assoc, hdata]
            exact ⟨rfl, hleft⟩

/-- New data goes behind what is buffered, as far as no reader waits for it. -/
theorem addInboundData_spec {channel : IPSSChannel} (h : WellFormed channel) (data : List UInt8) :
    WellFormed (channel.addInboundData data).1 ∧
      (channel.addInboundData data).2 ++ (channel.addInboundData data).1.inboundData.flatten =
        channel.inboundData.flatten ++ data := by
  have hflatten : ∀ rest : List UInt8,
      (if rest = [] then channel.inboundData else channel.inboundData ++ [rest]).flatten =
        channel.inboundData.flatten ++ rest := by
    intro rest
    split_ifs with hrest
    · rw [hrest, List.append_nil]
    · rw [List.flatten_append, List.flatten_singleton]
  cases hbuf : channel.recvBuf with
  | none =>
      unfold IPSSChannel.addInboundData
      rw [hbuf]
      dsimp only [Option.getD_none]
      rw [Nat.zero_min, List.drop_zero, List.take_zero, hflatten]
      exact ⟨⟨h.connected, fun size hsize => nomatch hsize⟩, rfl⟩
  | some size =>
      obtain ⟨hsize, hempty⟩ := h.waiting size hbuf
      unfold IPSSChannel.addInboundData
      rw [hbuf]
      dsimp only [Option.getD_some]
      rw [hflatten, hempty, List.flatten_nil, List.nil_append, List.nil_append,
        List.take_append_drop]
      refine ⟨⟨h.connected, fun left hleft => ?_⟩, rfl⟩
      dsimp only at hleft ⊢
      split_ifs at hleft with hzero
      obtain rfl := Option.some.inj hleft
      have hall : data.drop (min size data.length) = [] := by
        rw [List.drop_eq_nil_iff]
        omega
      rw [if_pos hall]
      exact ⟨Nat.pos_of_ne_zero hzero, rfl⟩

/-! ## Positions -/

/-- The bytes of a payload that the server has seen. -/
theorem payloadSkipBytes_eq (base : UInt32) {start position size : Nat} (hsize : size < 2 ^ 16)
    (hahead : start ≤ position + 2 ^ 31) (hbehind : position ≤ start + 2 ^ 31) :
    payloadSkipBytes (after base start) (after base position) size =
      if start ≤ position then min (position - start) size else size := by
  have hend : after base start + UInt32.ofNat size = after base (start + size) :=
    after_add base start size
  have heq : after base start = after base position ↔ start = position := by
    rw [after_eq_after_iff]
    omega
  unfold payloadSkipBytes
  rcases Nat.lt_trichotomy start position with hlt | rfl | hgt
  · rw [if_neg (mt heq.mp (by omega)), if_pos (seqNumLess_of_lt base hlt (by omega)), if_pos hlt.le]
    dsimp only
    rw [hend]
    rcases Nat.lt_or_ge position (start + size) with hnew | hold
    · have hne : after base (start + size) ≠ after base position := by
        rw [ne_eq, after_eq_after_iff]
        omega
      have hgreater : seqNumLessOrEqual (after base (start + size)) (after base position) = false := by
        refine decide_eq_false (not_or.mpr ⟨hne, ?_⟩)
        rw [seqNumLess_of_le base hnew.le (by omega)]
        exact Bool.false_ne_true
      rw [hgreater, if_neg Bool.false_ne_true, toNat_sub_of_le base hnew.le (by omega)]
      omega
    · have hless : seqNumLessOrEqual (after base (start + size)) (after base position) = true := by
        refine decide_eq_true ?_
        rcases Nat.lt_or_ge (start + size) position with hlt' | hge
        · exact .inr (seqNumLess_of_lt base hlt' (by omega))
        · exact .inl (congrArg (after base) (Nat.le_antisymm hold hge))
      rw [if_pos hless]
      omega
  · rw [if_pos rfl, if_pos (Nat.le_refl start), Nat.sub_self, Nat.zero_min]
  · rw [if_neg (mt heq.mp (by omega)), if_neg (Nat.not_le.mpr hgt)]
    rcases Nat.lt_or_ge (start - position) (2 ^ 31) with hnear | hfar
    · rw [seqNumLess_of_le base hgt.le hnear, if_neg Bool.false_ne_true]
    · have hless : seqNumLessOrEqual (after base (start + size)) (after base position) = true :=
        decide_eq_true (.inr (seqNumLess_of_far base (by omega) (by omega)))
      rw [if_pos (seqNumLess_of_far base (by omega) (by omega))]
      dsimp only
      rw [hend, if_pos hless]

/-! ## The connection -/

def buffered (conn : TCPConnection) : List UInt8 :=
  (conn.serverChannel.map (·.inboundData.flatten)).getD []

/-- The fields with which a connection receives. -/
structure Receives (state : ServerState) (isn : UInt32) (data received : List UInt8)
    (conn : TCPConnection) : Prop where
  configured : state.isPortConfigured conn.serverPort = true
  nextClientSeq_eq : conn.nextClientSeq = after (isn + 1) data.length
  data_eq : received ++ buffered conn = data
  wellFormed : ∀ channel ∈ conn.serverChannel, WellFormed channel

/-- The client's data has arrived up to here. Nothing is pushed before there is
a channel. -/
structure Inbound (state : ServerState) (isn : UInt32) (data : List UInt8) (w : Network) : Prop where
  exists_conn : ∃ conn, w.conn = some conn ∧ Receives state isn data w.received conn ∧
    (conn.serverChannel = none → conn.resendPushTimer = false ∧ w.sendingPushes = 0)

variable {state : ServerState} {isn : UInt32} {data : List UInt8} {w : Network}
  {conn : TCPConnection}

/-- Sending a frame changes nothing but the list of what was sent. -/
theorem exists_finalState_sendTcpFrame (flags : UInt16) (payload : Option (List UInt8))
    (w : Network) : ∃ sent, finalState ((sendTcpFrame flags payload).run w) = { w with sent } := by
  obtain ⟨conn, sent, received, sendingPushes⟩ := w
  unfold sendTcpFrame
  split_ifs
  · exact ⟨sent, rfl⟩
  · cases conn with
    | none => exact ⟨sent, rfl⟩
    | some conn => exact ⟨_, rfl⟩

theorem keeps_sendTcpFrame {P : Network → Prop} (hP : ∀ w sent, P w → P { w with sent })
    (flags : UInt16) (payload : Option (List UInt8)) : Keeps P (sendTcpFrame flags payload) := by
  intro w h
  obtain ⟨sent, hsent⟩ := exists_finalState_sendTcpFrame flags payload w
  rw [hsent]
  exact hP w sent h

theorem Inbound.withSent (h : Inbound state isn data w) (sent : List ServerFrame) :
    Inbound state isn data { w with sent } := by
  obtain ⟨conn, hconn, hreceives, hquiet⟩ := h
  exact ⟨conn, hconn, hreceives, hquiet⟩

/-- What sending does not change of a connection. -/
structure SameInbound (conn conn' : TCPConnection) : Prop where
  serverPort : conn'.serverPort = conn.serverPort
  nextClientSeq : conn'.nextClientSeq = conn.nextClientSeq
  serverChannel : conn'.serverChannel = conn.serverChannel
  resendPushTimer : conn'.resendPushTimer = true → conn.resendPushTimer = true ∨
    conn.serverChannel ≠ none

theorem Inbound.setConn (h : Inbound state isn data w) (hconn : w.conn = some conn)
    {conn' : TCPConnection} (hsame : SameInbound conn conn') :
    Inbound state isn data { w with conn := some conn' } := by
  obtain ⟨conn₀, hconn₀, hreceives, hquiet⟩ := h
  obtain rfl : conn₀ = conn := Option.some.inj (hconn₀.symm.trans hconn)
  refine ⟨conn', rfl, ⟨?_, ?_, ?_, ?_⟩, fun hnone => ?_⟩
  · rw [hsame.serverPort]
    exact hreceives.configured
  · rw [hsame.nextClientSeq]
    exact hreceives.nextClientSeq_eq
  · unfold buffered
    rw [hsame.serverChannel]
    exact hreceives.data_eq
  · rw [hsame.serverChannel]
    exact hreceives.wellFormed
  · rw [hsame.serverChannel] at hnone
    obtain ⟨htimer, hpushes⟩ := hquiet hnone
    refine ⟨?_, hpushes⟩
    cases hset : conn'.resendPushTimer with
    | false => rfl
    | true =>
        rcases hsame.resendPushTimer hset with hold | hsome
        · rw [htimer] at hold
          cases hold
        · exact absurd hnone hsome

theorem exists_conn_of_inbound (h : Inbound state isn data w) : ∃ conn, w.conn = some conn := by
  obtain ⟨conn, hconn, -⟩ := h
  exact ⟨conn, hconn⟩

/-- The positions of the server do not touch what the client sends. -/
theorem keeps_advanceAckedSeq (ackDelta : UInt32) :
    Keeps (Inbound state isn data) (advanceAckedSeq ackDelta) := by
  intro w h
  obtain ⟨conn, hconn⟩ := exists_conn_of_inbound h
  unfold advanceAckedSeq
  rw [run_getConn_bind hconn]
  split_ifs with hlt
  · exact h
  · dsimp only
    split_ifs
    · exact h.setConn hconn ⟨rfl, rfl, rfl, .inl⟩
    · exact h.setConn hconn ⟨rfl, rfl, rfl, .inl⟩

theorem keeps_readAckNum (ackNum : UInt32) : Keeps (Inbound state isn data) (readAckNum ackNum) := by
  intro w h
  obtain ⟨conn, hconn⟩ := exists_conn_of_inbound h
  unfold readAckNum
  rw [run_getConn_bind hconn]
  split_ifs
  · exact h
  · exact h.setConn hconn ⟨rfl, rfl, rfl, .inl⟩
  · have hsame : SameInbound conn { conn with awaitingAck := false } := ⟨rfl, rfl, rfl, .inl⟩
    exact keeps_advanceAckedSeq _ _ (h.setConn hconn hsame)
  · exact h.setConn hconn ⟨rfl, rfl, rfl, .inl⟩
  · exact h.setConn hconn ⟨rfl, rfl, rfl, .inl⟩

/-- The data has arrived in a channel. -/
def Ready (state : ServerState) (isn : UInt32) (data : List UInt8) (w : Network) : Prop :=
  Inbound state isn data w ∧ HasChannel w

theorem ready_openServerConnection (hserver : state.hasGameServer = true)
    (h : Inbound state isn data w) (hconn : w.conn = some conn) (hnone : conn.serverChannel = none) :
    Ends (Ready state isn data) (Inbound state isn data) ((openServerConnection state).run w) := by
  obtain ⟨conn₀, hconn₀, hreceives, -⟩ := h
  obtain rfl : conn₀ = conn := Option.some.inj (hconn₀.symm.trans hconn)
  unfold openServerConnection
  rw [run_getConn_bind hconn, hnone, if_neg (by exact Bool.false_ne_true), hreceives.configured,
    hserver]
  refine ⟨⟨_, rfl, ⟨hreceives.configured, hreceives.nextClientSeq_eq, ?_, ?_⟩, nofun⟩, _, rfl, rfl⟩
  · have hdata := hreceives.data_eq
    unfold buffered at hdata ⊢
    rw [hnone] at hdata
    exact hdata
  · rintro channel ⟨⟩
    exact ⟨rfl, nofun⟩

theorem ready_onAck (hserver : state.hasGameServer = true) (fi : ClientFrame)
    (h : Inbound state isn data w) :
    Ends (Ready state isn data) (Inbound state isn data) ((onAck state fi).run w) := by
  unfold onAck
  refine Ends.bind (Q := Inbound state isn data) ?_ fun ackedSeqChanged w h => ?_
  · have hkept := keeps_readAckNum fi.ackNum w h
    cases hrun : (readAckNum fi.ackNum).run w <;> rwa [hrun] at hkept
  · obtain ⟨conn, hconn⟩ := exists_conn_of_inbound h
    rw [run_getConn_bind hconn]
    cases hchannel : conn.serverChannel with
    | some channel =>
        refine ⟨h, conn, hconn, ?_⟩
        rw [hchannel]
        rfl
    | none =>
        exact (ready_openServerConnection hserver h hconn hchannel).bind fun _ _ h => h

/-- All of a payload that is accepted is new. -/
theorem inbound_acceptPayload (h : Ready state isn data w) (payload : List UInt8) :
    Ends (Ready state isn (data ++ payload)) (Inbound state isn data)
      ((acceptPayload payload).run w) := by
  obtain ⟨⟨conn, hconn, hreceives, -⟩, conn₀, hconn₀, hchannel⟩ := h
  obtain rfl : conn = conn₀ := Option.some.inj (hconn.symm.trans hconn₀)
  obtain ⟨channel, hchannel⟩ := Option.isSome_iff_exists.mp hchannel
  have hwell := hreceives.wellFormed channel hchannel
  have hdata := hreceives.data_eq
  unfold buffered at hdata
  rw [hchannel] at hdata
  obtain ⟨hwell', hcopied⟩ := addInboundData_spec hwell payload
  unfold acceptPayload
  rw [run_getConn_bind hconn]
  dsimp only
  rw [hchannel]
  dsimp only
  rw [hwell.connected]
  refine ⟨⟨_, rfl, ⟨hreceives.configured, ?_, ?_, ?_⟩, nofun⟩, _, rfl, rfl⟩
  · dsimp only
    rw [hreceives.nextClientSeq_eq, after_add, List.length_append]
  · unfold buffered
    dsimp only [Option.map_some, Option.getD_some] at hdata ⊢
    rw [List.append_assoc, hcopied, ← List.append_assoc, hdata]
  · rintro channel' ⟨⟩
    exact hwell'

/-- A frame that carries a part of the client's stream, at most half the number
space away from what has arrived. -/
structure Carries (stream : List UInt8) (isn : UInt32) (position : Nat) (fi : ClientFrame) :
    Prop where
  isDataFrame : IsDataFrame fi
  payload_lt : fi.payload.length < 2 ^ 16
  exists_start : ∃ start, fi.seqNum = after (isn + 1) start ∧ fi.payload <+: stream.drop start ∧
    start ≤ position + 2 ^ 31 ∧ position ≤ start + 2 ^ 31

/-- What has arrived of a stream. -/
def Arrived (state : ServerState) (stream : List UInt8) (isn : UInt32) (w : Network) : Prop :=
  ∃ data, data <+: stream ∧ Inbound state isn data w

/-- What has arrived, in a channel. -/
def ArrivedReady (state : ServerState) (stream : List UInt8) (isn : UInt32) (w : Network) : Prop :=
  Arrived state stream isn w ∧ HasChannel w

theorem ArrivedReady.withSent {stream : List UInt8} (sent : List ServerFrame)
    (h : ArrivedReady state stream isn w) : ArrivedReady state stream isn { w with sent } := by
  obtain ⟨⟨data, hdata, hinbound⟩, hchannel⟩ := h
  exact ⟨⟨data, hdata, hinbound.withSent sent⟩, hchannel⟩

theorem ends_of_keeps {P Q R : Network → Prop} {x : Handler PUnit} (hx : Keeps P x) (h : P w)
    (hQ : ∀ w, P w → Q w) (hR : ∀ w, P w → R w) : Ends Q R (x.run w) := by
  have hkept := hx w h
  cases hrun : x.run w with
  | ok a w' =>
      rw [hrun] at hkept
      exact hQ w' hkept
  | error e w' =>
      rw [hrun] at hkept
      exact hR w' hkept

theorem arrived_onPayload {stream : List UInt8} {fi : ClientFrame} (hdata : data <+: stream)
    (h : Ready state isn data w) (hfi : Carries stream isn data.length fi) :
    Ends (ArrivedReady state stream isn) (Arrived state stream isn) ((onPayload fi).run w) := by
  obtain ⟨start, hseq, hpart, hahead, hbehind⟩ := hfi.exists_start
  obtain ⟨conn, hconn, hreceives, -⟩ := h.1
  have hskip := payloadSkipBytes_eq (isn + 1) hfi.payload_lt hahead hbehind
  have hsend : ∀ w, ArrivedReady state stream isn w →
      Ends (ArrivedReady state stream isn) (Arrived state stream isn)
        ((sendTcpFrame 0 none).run w) := fun w h =>
    ends_of_keeps (keeps_sendTcpFrame (fun _ => ArrivedReady.withSent) 0 none) h (fun _ h => h) fun _ h => h.1
  have hnothing : ArrivedReady state stream isn w := ⟨⟨data, hdata, h.1⟩, h.2⟩
  unfold onPayload
  rw [run_getConn_bind hconn]
  dsimp only
  rw [hseq, hreceives.nextClientSeq_eq, hskip]
  rcases Nat.lt_or_ge data.length start with hgap | hle
  · rw [if_neg (Nat.not_le.mpr hgap), if_neg (Nat.lt_irrefl _), if_neg (Nat.lt_irrefl _)]
    exact hsend w hnothing
  · rw [if_pos hle, if_neg (Nat.not_lt.mpr (Nat.min_le_right _ _))]
    rcases Nat.lt_or_ge (data.length - start) fi.payload.length with hnew | hold
    · rw [Nat.min_eq_left hnew.le, if_pos hnew]
      refine Ends.bind ((inbound_acceptPayload h _).mono ?_ ?_) fun _ => hsend
      · exact fun w hready => ⟨⟨_, append_isPrefix hdata hle hpart, hready.1⟩, hready.2⟩
      · exact fun w hinbound => ⟨data, hdata, hinbound⟩
    · rw [Nat.min_eq_right hold, if_neg (Nat.lt_irrefl _)]
      exact hsend w hnothing

theorem arrivedReady_schedule {stream : List UInt8} (ackedSeqChanged : Bool)
    (h : ArrivedReady state stream isn w) :
    Ends (Arrived state stream isn) (Arrived state stream isn)
      ((runIf ackedSeqChanged scheduleSendPendingPushFrame).run w) := by
  obtain ⟨⟨data, hdata, hinbound⟩, conn, hconn, hchannel⟩ := h
  cases ackedSeqChanged with
  | false => exact ⟨data, hdata, hinbound⟩
  | true =>
      change Ends _ _ (scheduleSendPendingPushFrame.run w)
      unfold scheduleSendPendingPushFrame
      rw [run_getConn_bind hconn]
      refine ⟨data, hdata, hinbound.setConn hconn ⟨rfl, rfl, rfl, fun _ => .inr ?_⟩⟩
      rw [ne_eq, ← Option.not_isSome_iff_eq_none, not_not]
      exact hchannel

theorem arrived_onData {stream : List UInt8} (hdata : data <+: stream)
    (h : Ready state isn data w) {fi : ClientFrame} (hfi : Carries stream isn data.length fi)
    (ackedSeqChanged : Bool) :
    Ends (Arrived state stream isn) (Arrived state stream isn)
      ((onData ackedSeqChanged fi).run w) := by
  obtain ⟨-, -, hrst, hfin⟩ := hfi.isDataFrame
  unfold onData
  rw [hrst, hfin]
  refine Ends.bind (Q := ArrivedReady state stream isn) ?_ fun _ _ => arrivedReady_schedule _
  unfold runIf
  split_ifs
  · exact arrived_onPayload hdata h hfi
  · exact ⟨⟨data, hdata, h.1⟩, h.2⟩

/-- A frame of the client adds the part of the stream that comes next, or
nothing. -/
theorem arrived_onClientTcpFrame (hserver : state.hasGameServer = true) {stream : List UInt8}
    (hdata : data <+: stream) (h : Inbound state isn data w) {fi : ClientFrame}
    (hfi : Carries stream isn data.length fi) (randomSeq : UInt32) (serverPort : UInt16) :
    Arrived state stream isn
      (finalState ((onClientTcpFrame state randomSeq serverPort fi).run w)) := by
  obtain ⟨hack, hsyn, -, -⟩ := hfi.isDataFrame
  obtain ⟨conn, hconn⟩ := exists_conn_of_inbound h
  have harrived : Arrived state stream isn w := ⟨data, hdata, h⟩
  unfold onClientTcpFrame
  rw [hack, hsyn, if_neg Bool.false_ne_true]
  split_ifs with _ hack
  · exact harrived
  · rw [run_get_bind, hconn]
    have hends : Ends (Arrived state stream isn) (Arrived state stream isn)
        ((onAck state fi >>= fun ackedSeqChanged => onData ackedSeqChanged fi).run w) := by
      refine Ends.bind ((ready_onAck hserver fi h).mono (fun _ h => h) ?_) fun _ _ hready => ?_
      · exact fun w h => ⟨data, hdata, h⟩
      · exact arrived_onData hdata hready hfi _
    exact hends.finalState (fun _ h => h) fun _ h => h
  · exact absurd rfl hack

/-! ## The other events -/

theorem inbound_recvRaw (h : Inbound state isn data w) (size : Nat) :
    Inbound state isn data (finalState ((recvRaw size).run w)) := by
  obtain ⟨conn, hconn, hreceives, hquiet⟩ := id h
  unfold recvRaw
  rw [run_getConn_bind hconn]
  cases hchannel : conn.serverChannel with
  | none => exact h
  | some channel =>
      have hdata := hreceives.data_eq
      unfold buffered at hdata
      rw [hchannel] at hdata
      dsimp only [Option.map_some, Option.getD_some] at hdata ⊢
      cases hbuf : channel.recvBuf with
      | some pending => exact h
      | none =>
          rw [Option.isSome_none, if_neg Bool.false_ne_true]
          obtain ⟨htaken, hleft⟩ := takeInbound_spec size channel.inboundData
          generalize takeInbound size channel.inboundData = taken at *
          obtain ⟨bytes, left, inboundData⟩ := taken
          dsimp only at htaken hleft ⊢
          have hset : Inbound state isn data
              { w with
                conn := some { conn with serverChannel := some { channel with
                  inboundData, recvBuf := if left = 0 then none else some left } }
                received := w.received ++ bytes } := by
            refine ⟨_, rfl, ⟨hreceives.configured, hreceives.nextClientSeq_eq, ?_, ?_⟩, nofun⟩
            · unfold buffered
              dsimp only [Option.map_some, Option.getD_some]
              rw [List.append_assoc, htaken, hdata]
            · rintro channel' ⟨⟩
              refine ⟨(hreceives.wellFormed channel hchannel).connected, fun pending hpending => ?_⟩
              dsimp only at hpending ⊢
              split_ifs at hpending with hzero
              obtain rfl := Option.some.inj hpending
              exact ⟨Nat.pos_of_ne_zero hzero, hleft (Nat.pos_of_ne_zero hzero)⟩
          cases hend : decide (0 < left) && !channel.connected with
          | false => exact hset
          | true => exact hset

theorem inbound_sendRaw (h : Inbound state isn data w) (hchannel : HasChannel w)
    (bytes : List UInt8) : Inbound state isn data (finalState ((sendRaw bytes).run w)) := by
  obtain ⟨conn, hconn, hchannel⟩ := hchannel
  have hsome : conn.serverChannel ≠ none := by
    rw [ne_eq, ← Option.not_isSome_iff_eq_none, not_not]
    exact hchannel
  unfold sendRaw
  rw [run_get_bind, hconn]
  dsimp only
  cases conn.awaitingAck with
  | true => exact h.setConn hconn ⟨rfl, rfl, rfl, .inl⟩
  | false => exact h.setConn hconn ⟨rfl, rfl, rfl, fun _ => .inr hsome⟩

theorem Ready.withSent (sent : List ServerFrame) (h : Ready state isn data w) :
    Ready state isn data { w with sent } :=
  ⟨h.1.withSent sent, h.2⟩

theorem keeps_countPush : Keeps (Ready state isn data)
    (modify fun w => { w with sendingPushes := w.sendingPushes + 1 } : Handler PUnit) := by
  rintro w ⟨⟨conn, hconn, hreceives, -⟩, conn₀, hconn₀, hchannel⟩
  obtain rfl : conn = conn₀ := Option.some.inj (hconn.symm.trans hconn₀)
  refine ⟨⟨conn, hconn, hreceives, fun hnone => ?_⟩, conn, hconn, hchannel⟩
  rw [hnone] at hchannel
  cases hchannel

theorem inbound_sendPendingPushFrame (h : Inbound state isn data w) (hchannel : HasChannel w) :
    Inbound state isn data (finalState ((sendPendingPushFrame state).run w)) := by
  obtain ⟨conn, hconn, hchannel⟩ := hchannel
  obtain ⟨conn₀, hconn₀, hreceives, -⟩ := id h
  obtain rfl : conn = conn₀ := Option.some.inj (hconn.symm.trans hconn₀)
  obtain ⟨channel, hchannel⟩ := Option.isSome_iff_exists.mp hchannel
  have hconnected := (hreceives.wellFormed channel hchannel).connected
  unfold sendPendingPushFrame
  rw [run_getConn_bind hconn]
  split_ifs with hempty hopen
  · exact h
  · exact absurd (by rw [hchannel]; exact hconnected) hopen
  · have hsame : SameInbound conn
        { conn with outboundData := linearizeOutboundData (bytesToSend state conn) conn.outboundData } :=
      ⟨rfl, rfl, rfl, .inl⟩
    have hset : Ready state isn data { w with conn := some _ } :=
      ⟨h.setConn hconn hsame, _, rfl, by rw [hsame.serverChannel, hchannel]; rfl⟩
    dsimp only
    generalize linearizeOutboundData (bytesToSend state conn) conn.outboundData = blocks at *
    refine (finalState_bind (P := Ready state isn data) (x := setConn _) (s := w) hset fun _ => ?_).1
    cases blocks with
    | nil => exact (readOnly_throw _).keeps
    | cons front blocks =>
        dsimp only
        split_ifs
        · exact (readOnly_throw _).keeps
        · exact (keeps_sendTcpFrame (fun _ => Ready.withSent) _ _).bind fun _ => keeps_countPush

theorem inbound_onResendPushTimer (h : Inbound state isn data w) :
    Inbound state isn data (finalState ((onResendPushTimer state).run w)) := by
  obtain ⟨conn, hconn, -, hquiet⟩ := id h
  unfold onResendPushTimer
  rw [run_get_bind, hconn]
  dsimp only
  cases htimer : conn.resendPushTimer with
  | false => exact h
  | true =>
      have hsome : conn.serverChannel.isSome = true := by
        cases hchannel : conn.serverChannel with
        | some channel => rfl
        | none =>
            rw [(hquiet hchannel).1] at htimer
            cases htimer
      have hsame : SameInbound conn { conn with resendPushTimer := false } := ⟨rfl, rfl, rfl, nofun⟩
      exact inbound_sendPendingPushFrame (h.setConn hconn hsame) ⟨_, rfl, hsome⟩

theorem inbound_finishPush (h : Inbound state isn data w) (hpushes : 0 < w.sendingPushes) :
    Inbound state isn data (finalState (finishPush.run w)) := by
  obtain ⟨conn, hconn, hreceives, hquiet⟩ := id h
  have hsome : conn.serverChannel ≠ none := by
    intro hnone
    rw [(hquiet hnone).2] at hpushes
    exact Nat.lt_irrefl 0 hpushes
  refine ⟨conn.backOff, ?_, ⟨hreceives.configured, hreceives.nextClientSeq_eq, hreceives.data_eq,
    hreceives.wellFormed⟩, fun hnone => absurd hnone hsome⟩
  change w.conn.map (·.backOff) = _
  rw [hconn]
  rfl

/-! ## Runs -/

/-- The events of a client that sends a stream, with all that the server does
on the same connection. -/
def Permitted (stream : List UInt8) (isn : UInt32) (w : Network) : Event → Prop
  | .clientFrame _ _ fi => ∀ conn ∈ w.conn, Carries stream isn (w.received ++ buffered conn).length fi
  | .recvRaw _ => HasChannel w
  | .sendRaw _ => HasChannel w
  | .resendPushTimer => True
  | .pushSent => 0 < w.sendingPushes

/-- What a SYN to a configured port opens. -/
def Opened (state : ServerState) (isn : UInt32) (w : Network) : Prop :=
  ∃ randomSeq serverPort fi, fi.seqNum = isn ∧ fi.flags &&& 0x0FFF = Flag.syn.value ∧
    state.isPortConfigured serverPort = true ∧
    w = finalState ((onClientTcpFrame state randomSeq serverPort fi).run {})

inductive Reaches (state : ServerState) (stream : List UInt8) (isn : UInt32) : Network → Prop
  | opened {w : Network} (h : Opened state isn w) : Reaches state stream isn w
  | step {w : Network} (event : Event) (h : Reaches state stream isn w)
      (hevent : Permitted stream isn w event) : Reaches state stream isn (next state w event)

theorem hasFlag_of_mask {flags : UInt16} (h : flags &&& 0x0FFF = Flag.syn.value) (flag : Flag) :
    hasFlag flags flag = decide (flag = .syn) := by
  have hmask : flags &&& flag.value = Flag.syn.value &&& flag.value := by
    rw [← h, UInt16.and_assoc]
    cases flag <;> rfl
  unfold hasFlag
  rw [hmask]
  cases flag <;> rfl

/-- A SYN leaves a connection behind whose next sequence number is its own, plus
one. -/
theorem inbound_opened (h : Opened state isn w) : Inbound state isn [] w := by
  obtain ⟨randomSeq, serverPort, fi, rfl, hflags, hport, rfl⟩ := h
  unfold onClientTcpFrame
  simp only [hasFlag_of_mask hflags, reduceCtorEq, decide_false, decide_true, Bool.or_self,
    Bool.false_eq_true, if_false, if_true]
  unfold onSyn
  rw [if_neg (not_not.mpr hflags)]
  refine ⟨_, rfl, ⟨hport, (after_zero _).symm, rfl, nofun⟩, fun _ => ⟨rfl, rfl⟩⟩

theorem arrived_of_reaches (hserver : state.hasGameServer = true) {stream : List UInt8}
    (h : Reaches state stream isn w) : Arrived state stream isn w := by
  induction h with
  | opened hopened => exact ⟨[], List.nil_prefix, inbound_opened hopened⟩
  | @step w event _ hevent ih =>
      obtain ⟨data, hdata, hinbound⟩ := ih
      cases event with
      | clientFrame randomSeq serverPort fi =>
          obtain ⟨conn, hconn, hreceives, -⟩ := id hinbound
          have hfi := hevent conn hconn
          rw [hreceives.data_eq] at hfi
          exact arrived_onClientTcpFrame hserver hdata hinbound hfi randomSeq serverPort
      | recvRaw size => exact ⟨data, hdata, inbound_recvRaw hinbound size⟩
      | sendRaw bytes => exact ⟨data, hdata, inbound_sendRaw hinbound hevent bytes⟩
      | resendPushTimer => exact ⟨data, hdata, inbound_onResendPushTimer hinbound⟩
      | pushSent => exact ⟨data, hdata, inbound_finishPush hinbound hevent⟩

/-- In every state that a client and the server reach, what was read and what is
still buffered is the beginning of the client's stream, and the next sequence
number is the one behind it. -/
theorem received_isPrefix (hserver : state.hasGameServer = true) {stream : List UInt8}
    (h : Reaches state stream isn w) :
    ∃ conn, w.conn = some conn ∧ w.received ++ buffered conn <+: stream ∧
      conn.nextClientSeq = isn + 1 + .ofNat (w.received ++ buffered conn).length := by
  obtain ⟨data, hdata, conn, hconn, hreceives, -⟩ := arrived_of_reaches hserver h
  rw [← hreceives.data_eq] at hdata
  refine ⟨conn, hconn, hdata, ?_⟩
  rw [hreceives.data_eq]
  exact hreceives.nextClientSeq_eq

def sampleState : ServerState := ⟨.ethernetTapserver, fun _ => true, true⟩

/-- A connection whose sequence numbers wrap around at the second byte. -/
def sampleOpened : Network :=
  finalState ((onClientTcpFrame sampleState 7 9100 ⟨0xFFFFFFFD, 0, 0x5002, 1400, []⟩).run {})

def sampleFrame : ClientFrame := ⟨0xFFFFFFFE, 8, 0x5018, 1400, [1, 2, 3]⟩

def sampleNetwork : Network :=
  next sampleState (next sampleState sampleOpened (.clientFrame 0 0 sampleFrame)) (.recvRaw 2)

theorem reaches_sampleNetwork : Reaches sampleState [1, 2, 3, 4] 0xFFFFFFFD sampleNetwork := by
  have hopened : Opened sampleState 0xFFFFFFFD sampleOpened := ⟨7, 9100, _, rfl, rfl, rfl, rfl⟩
  refine .step _ (.step _ (.opened hopened) ?_) ⟨_, rfl, rfl⟩
  rintro conn ⟨⟩
  exact ⟨⟨rfl, rfl, rfl, rfl⟩, by decide, 0, rfl, ⟨[4], rfl⟩, by decide, by decide⟩

theorem received_sampleNetwork :
    ∃ conn, sampleNetwork.conn = some conn ∧
      sampleNetwork.received ++ buffered conn <+: [1, 2, 3, 4] ∧
      conn.nextClientSeq =
        0xFFFFFFFD + 1 + .ofNat (sampleNetwork.received ++ buffered conn).length :=
  received_isPrefix rfl reaches_sampleNetwork

end HuntersGuild.VirtualTcpInbound
