import HuntersGuild.VirtualTcp

/-!
What the server sends on a connection arrives at a client that takes data in
order, over a network that loses, repeats and delays frames.
-/

namespace HuntersGuild.VirtualTcpOutbound

open HuntersGuild.ByteStreams
open HuntersGuild.StatefulPrograms
open HuntersGuild.SequenceNumbers
open HuntersGuild.VirtualTcp

/-! ## Blocks -/

theorem drainBlocks_of_le {size : Nat} (front : List UInt8) (blocks : List (List UInt8))
    (h : front.length ≤ size + 1) :
    drainBlocks (size + 1) (front :: blocks) = drainBlocks (size + 1 - front.length) blocks :=
  if_pos h

theorem drainBlocks_of_lt {size : Nat} (front : List UInt8) (blocks : List (List UInt8))
    (h : size + 1 < front.length) :
    drainBlocks (size + 1) (front :: blocks) = (0, front.drop (size + 1) :: blocks) :=
  if_neg (Nat.not_le.mpr h)

/-- As many bytes as there are can be drained. -/
theorem drainBlocks_spec (size : Nat) (blocks : List (List UInt8))
    (h : size ≤ blocks.flatten.length) :
    (drainBlocks size blocks).1 = 0 ∧
      (drainBlocks size blocks).2.flatten = blocks.flatten.drop size := by
  induction blocks generalizing size with
  | nil =>
      obtain rfl := Nat.le_zero.mp h
      exact ⟨rfl, rfl⟩
  | cons front blocks ih =>
      cases size with
      | zero => exact ⟨rfl, rfl⟩
      | succ size =>
          rw [List.flatten_cons, List.length_append] at h
          rw [List.flatten_cons]
          rcases Nat.lt_or_ge (size + 1) front.length with hlt | hle
          · rw [drainBlocks_of_lt front blocks hlt, List.drop_append_of_le_length hlt.le]
            exact ⟨rfl, rfl⟩
          · rw [drainBlocks_of_le front blocks hle, List.drop_append, List.drop_eq_nil_of_le hle,
              List.nil_append]
            exact ih _ (by omega)

theorem linearizeFront_spec (size : Nat) (front : List UInt8) (blocks : List (List UInt8))
    (h : size ≤ (front :: blocks).flatten.length) :
    ∃ first rest, linearizeFront size front blocks = first :: rest ∧ size ≤ first.length ∧
      (first :: rest).flatten = (front :: blocks).flatten := by
  induction blocks generalizing front with
  | nil =>
      rw [List.flatten_cons, List.flatten_nil, List.append_nil] at h
      exact ⟨front, [], rfl, h, rfl⟩
  | cons second blocks ih =>
      unfold linearizeFront
      split_ifs with hlt
      · have hflatten : ((front ++ second) :: blocks).flatten = (front :: second :: blocks).flatten :=
          List.append_assoc front second blocks.flatten
        rw [← hflatten] at h ⊢
        exact ih (front ++ second) h
      · exact ⟨front, second :: blocks, rfl, Nat.le_of_not_lt hlt, rfl⟩

/-- Enough bytes stand together once the blocks are joined. -/
theorem linearizeOutboundData_spec {size : Nat} {blocks : List (List UInt8)}
    (hne : blocks.flatten ≠ []) (h : size ≤ blocks.flatten.length) :
    ∃ first rest, linearizeOutboundData size blocks = first :: rest ∧ size ≤ first.length ∧
      (first :: rest).flatten = blocks.flatten := by
  cases blocks with
  | nil => exact absurd rfl hne
  | cons front blocks => exact linearizeFront_spec size front blocks h

/-! ## The connection -/

/-- The fields with which a connection sends: the queue is the stream from the
acknowledged position on. -/
structure Sends (base : UInt32) (stream : List UInt8) (acked : Nat) (conn : TCPConnection) :
    Prop where
  awaitingFirstAck : conn.awaitingFirstAck = false
  ackedServerSeq : conn.ackedServerSeq = after base acked
  flatten : conn.outboundData.flatten = stream.drop acked
  outboundDataBytes : conn.outboundDataBytes = stream.length - acked
  acked_le : acked ≤ stream.length
  connected : conn.serverChannel.any (·.connected) = true

/-- A frame that carries the bytes of the stream at its sequence number. -/
def CarriesAt (base : UInt32) (stream : List UInt8) (position : Nat) (frame : ServerFrame) : Prop :=
  frame.seqNum = after base position ∧ frame.payload <+: stream.drop position

/-- A state in which more frames were sent from the acknowledged position. -/
structure Outbound (base : UInt32) (stream : List UInt8) (acked : Nat) (sent : List ServerFrame)
    (w : Network) : Prop where
  exists_conn : ∃ conn, w.conn = some conn ∧ Sends base stream acked conn
  exists_new : ∃ frames, w.sent = sent ++ frames ∧
    ∀ frame ∈ frames, CarriesAt base stream acked frame

variable {state : ServerState} {base : UInt32} {stream : List UInt8} {acked : Nat}
  {sent : List ServerFrame} {w : Network} {conn : TCPConnection}

theorem Outbound.setConn (h : Outbound base stream acked sent w)
    (hconn : Sends base stream acked conn) :
    Outbound base stream acked sent { w with conn := some conn } :=
  ⟨⟨conn, rfl, hconn⟩, h.exists_new⟩

theorem run_sendTcpFrame (hconn : w.conn = some conn) {flags : UInt16}
    {payload : Option (List UInt8)} (hflags : payload.isSome = hasFlag flags .psh) :
    ∃ frame, (sendTcpFrame flags payload).run w = .ok ⟨⟩ { w with sent := w.sent ++ [frame] } ∧
      frame.seqNum = conn.ackedServerSeq ∧ frame.payload = payload.getD [] := by
  unfold sendTcpFrame
  rw [if_neg (not_not.mpr hflags), run_getConn_bind hconn]
  exact ⟨_, rfl, rfl, rfl⟩

theorem Outbound.run_sendTcpFrame (h : Outbound base stream acked sent w) (flags : UInt16)
    (payload : Option (List UInt8)) (hflags : payload.isSome = hasFlag flags .psh)
    (hpayload : payload.getD [] <+: stream.drop acked) :
    ∃ w', (sendTcpFrame flags payload).run w = .ok ⟨⟩ w' ∧ Outbound base stream acked sent w' := by
  obtain ⟨⟨conn, hconn, hsends⟩, frames, hframes, hcarry⟩ := h
  obtain ⟨frame, hrun, hseq, hdata⟩ := VirtualTcpOutbound.run_sendTcpFrame hconn hflags
  refine ⟨_, hrun, ⟨conn, hconn, hsends⟩, frames ++ [frame], ?_, ?_⟩
  · dsimp only
    rw [hframes, List.append_assoc]
  · intro frame' hframe'
    rcases List.mem_append.mp hframe' with hold | hnew
    · exact hcarry frame' hold
    · obtain rfl := List.mem_singleton.mp hnew
      refine ⟨hseq.trans hsends.ackedServerSeq, ?_⟩
      rw [hdata]
      exact hpayload

/-- An acknowledgement of data that was sent takes it from the queue. -/
theorem exists_advanceAckedSeq (h : Outbound base stream acked sent w) (hsent : w.sent = sent)
    {n : Nat} (hge : acked ≤ n) (hle : n ≤ stream.length) (hnear : n - acked < 2 ^ 32) :
    ∃ w', (advanceAckedSeq (after base n - after base acked)).run w = .ok true w' ∧
      w'.sent = sent ∧ Outbound base stream n sent w' := by
  obtain ⟨⟨conn, hconn, hsends⟩, -⟩ := h
  have hlength : conn.outboundData.flatten.length = stream.length - acked := by
    rw [hsends.flatten, List.length_drop]
  obtain ⟨hmissing, hrest⟩ := drainBlocks_spec (n - acked) conn.outboundData (by omega)
  unfold advanceAckedSeq
  rw [run_getConn_bind hconn, toNat_sub_of_le base hge hnear, hsends.outboundDataBytes,
    if_neg (by omega)]
  dsimp only
  rw [hmissing, if_neg (Nat.lt_irrefl 0)]
  refine ⟨_, rfl, hsent, ⟨_, rfl, ⟨hsends.awaitingFirstAck, ?_, ?_, ?_, hle, hsends.connected⟩⟩,
    [], by rw [List.append_nil]; exact hsent, nofun⟩
  · dsimp only
    rw [hsends.ackedServerSeq, UInt32.add_comm, UInt32.sub_add_cancel]
  · dsimp only
    rw [hrest, hsends.flatten, List.drop_drop, Nat.add_sub_cancel' hge]
  · dsimp only
    omega

/-- An ACK that does not go backwards, of data that was sent, is taken. -/
theorem exists_readAckNum (h : Outbound base stream acked sent w) (hsent : w.sent = sent)
    {n : Nat} (hge : acked ≤ n) (hle : n ≤ stream.length) (hnear : n - acked ≤ 2 ^ 31) :
    ∃ changed w', (readAckNum (after base n)).run w = .ok changed w' ∧
      w'.sent = sent ∧ Outbound base stream n sent w' := by
  obtain ⟨conn, hconn, hsends⟩ := h.exists_conn
  have hset : Outbound base stream acked sent
      { w with conn := some { conn with awaitingAck := false } } :=
    h.setConn ⟨hsends.awaitingFirstAck, hsends.ackedServerSeq, hsends.flatten,
      hsends.outboundDataBytes, hsends.acked_le, hsends.connected⟩
  have hfirst : ¬ conn.awaitingFirstAck = true := by
    rw [hsends.awaitingFirstAck]
    exact Bool.false_ne_true
  unfold readAckNum
  rw [run_getConn_bind hconn, if_neg hfirst]
  rcases Nat.eq_or_lt_of_le hge with rfl | hlt
  · have hgreater : seqNumGreater (after base acked) conn.ackedServerSeq = false := by
      rw [hsends.ackedServerSeq]
      exact seqNumLess_of_le base (Nat.le_refl acked) (by omega)
    have hless : seqNumLess (after base acked) conn.ackedServerSeq = false := by
      rw [hsends.ackedServerSeq]
      exact seqNumLess_of_le base (Nat.le_refl acked) (by omega)
    rw [hgreater, if_neg Bool.false_ne_true, hless, if_neg Bool.false_ne_true]
    exact ⟨_, _, rfl, hsent, hset⟩
  · have hgreater : seqNumGreater (after base n) conn.ackedServerSeq = true := by
      rw [hsends.ackedServerSeq]
      exact seqNumLess_of_lt base hlt hnear
    obtain ⟨w', hrun, hadvanced⟩ := exists_advanceAckedSeq hset hsent hge hle (by omega)
    rw [← hsends.ackedServerSeq] at hrun
    rw [if_pos hgreater]
    exact ⟨true, w', hrun, hadvanced⟩

/-- What a change of the receiving side, or of the timers, leaves as it is. -/
structure SameOutbound (conn conn' : TCPConnection) : Prop where
  awaitingFirstAck : conn'.awaitingFirstAck = conn.awaitingFirstAck
  ackedServerSeq : conn'.ackedServerSeq = conn.ackedServerSeq
  flatten : conn'.outboundData.flatten = conn.outboundData.flatten
  outboundDataBytes : conn'.outboundDataBytes = conn.outboundDataBytes
  connected : conn'.serverChannel.any (·.connected) = conn.serverChannel.any (·.connected)

theorem Outbound.update (h : Outbound base stream acked sent w) (hconn : w.conn = some conn)
    {conn' : TCPConnection} (hsame : SameOutbound conn conn') :
    Outbound base stream acked sent { w with conn := some conn' } := by
  obtain ⟨⟨conn₀, hconn₀, hsends⟩, hnew⟩ := h
  obtain rfl : conn = conn₀ := Option.some.inj (hconn.symm.trans hconn₀)
  exact ⟨⟨conn', rfl, hsame.awaitingFirstAck.trans hsends.awaitingFirstAck,
    hsame.ackedServerSeq.trans hsends.ackedServerSeq, hsame.flatten.trans hsends.flatten,
    hsame.outboundDataBytes.trans hsends.outboundDataBytes, hsends.acked_le,
    hsame.connected.trans hsends.connected⟩, hnew⟩

theorem Outbound.withReceived (h : Outbound base stream acked sent w) (received : List UInt8) :
    Outbound base stream acked sent { w with received } :=
  ⟨h.exists_conn, h.exists_new⟩

theorem Outbound.withPushes (h : Outbound base stream acked sent w) (sendingPushes : Nat) :
    Outbound base stream acked sent { w with sendingPushes } :=
  ⟨h.exists_conn, h.exists_new⟩

/-- The exceptions that say that a position of the stream was lost. -/
def IsPositionError (e : Exception) : Prop :=
  e = .logicError "attempted to drain more outbound data than was present" ∨
    e = .logicError "failed to linearize enough bytes before sending TCP PSH" ∨
    e = .runtimeError "client acknowledged beyond end of sent data"

/-- A call after which the queue is right, and that did not lose a position. -/
def Safe {α : Type} (base : UInt32) (stream : List UInt8) (acked : Nat) (sent : List ServerFrame) :
    EStateM.Result Exception Network α → Prop :=
  Finishes (Outbound base stream acked sent) fun e w =>
    Outbound base stream acked sent w ∧ ¬ IsPositionError e

theorem safe_sendTcpFrame (h : Outbound base stream acked sent w) {flags : UInt16}
    (hflags : hasFlag flags .psh = false) :
    Safe base stream acked sent ((sendTcpFrame flags none).run w) := by
  obtain ⟨w', hrun, hw'⟩ := h.run_sendTcpFrame flags none hflags.symm List.nil_prefix
  rw [hrun]
  exact hw'

theorem safe_acceptPayload (h : Outbound base stream acked sent w) (payload : List UInt8) :
    Safe base stream acked sent ((acceptPayload payload).run w) := by
  obtain ⟨conn, hconn, hsends⟩ := h.exists_conn
  have hconnected := hsends.connected
  unfold acceptPayload
  rw [run_getConn_bind hconn]
  cases hchannel : conn.serverChannel with
  | none =>
      rw [hchannel] at hconnected
      cases hconnected
  | some channel =>
      rw [hchannel] at hconnected
      have hopen : channel.connected = true := hconnected
      dsimp only
      have hsame : SameOutbound conn
          { conn with
            serverChannel := some (channel.addInboundData payload).1
            nextClientSeq := conn.nextClientSeq + UInt32.ofNat payload.length
            bytesReceived := conn.bytesReceived + payload.length } :=
        ⟨rfl, rfl, rfl, rfl, by rw [hchannel]; rfl⟩
      rw [if_pos hopen]
      exact (h.update hconn hsame).withReceived _

theorem safe_onPayload (h : Outbound base stream acked sent w) (fi : ClientFrame) :
    Safe base stream acked sent ((onPayload fi).run w) := by
  obtain ⟨conn, hconn, -⟩ := h.exists_conn
  unfold onPayload
  rw [run_getConn_bind hconn]
  dsimp only
  split_ifs
  · exact ⟨h, by unfold IsPositionError; simp⟩
  · exact (safe_acceptPayload h _).bind fun _ w h => safe_sendTcpFrame h rfl
  · exact safe_sendTcpFrame h rfl

theorem safe_schedule (h : Outbound base stream acked sent w) (condition : Bool) :
    Safe base stream acked sent ((runIf condition scheduleSendPendingPushFrame).run w) := by
  obtain ⟨conn, hconn, -⟩ := h.exists_conn
  cases condition with
  | false => exact h
  | true =>
      change Safe _ _ _ _ (scheduleSendPendingPushFrame.run w)
      unfold scheduleSendPendingPushFrame
      rw [run_getConn_bind hconn]
      exact h.update hconn ⟨rfl, rfl, rfl, rfl, rfl⟩

theorem safe_onData (h : Outbound base stream acked sent w) {fi : ClientFrame}
    (hfi : IsDataFrame fi) (changed : Bool) :
    Safe base stream acked sent ((onData changed fi).run w) := by
  obtain ⟨-, -, hrst, hfin⟩ := hfi
  unfold onData
  rw [hrst, hfin]
  refine Finishes.bind (Q := Outbound base stream acked sent) ?_ fun _ _ h => safe_schedule h changed
  unfold runIf
  split_ifs
  · exact safe_onPayload h fi
  · exact h

/-- A frame of the client moves the acknowledged position to the one it
acknowledges, unless it is refused as a whole. -/
theorem safe_onClientTcpFrame (h : Outbound base stream acked sent w) (hsent : w.sent = sent)
    {fi : ClientFrame} (hfi : IsDataFrame fi) {n : Nat} (hnum : fi.ackNum = after base n)
    (hge : acked ≤ n) (hle : n ≤ stream.length) (hnear : n - acked ≤ 2 ^ 31) (randomSeq : UInt32)
    (serverPort : UInt16) :
    ∃ acked', acked ≤ acked' ∧ acked' ≤ n ∧
      Safe base stream acked' sent ((onClientTcpFrame state randomSeq serverPort fi).run w) := by
  obtain ⟨hack, hsyn, -, -⟩ := id hfi
  obtain ⟨conn, hconn, -⟩ := h.exists_conn
  obtain ⟨changed, w', hrun, -, hw'⟩ := exists_readAckNum h hsent hge hle hnear
  obtain ⟨conn', hconn', hsends'⟩ := hw'.exists_conn
  have honAck : (onAck state fi).run w = .ok changed w' := by
    unfold onAck
    rw [hnum, run_bind_of_ok hrun, run_getConn_bind hconn', if_pos]
    · rfl
    · exact Option.isSome_of_any hsends'.connected
  unfold onClientTcpFrame
  rw [hack, hsyn, if_neg Bool.false_ne_true]
  split_ifs with _ hack
  · exact ⟨acked, Nat.le_refl acked, hge, h, by unfold IsPositionError; simp⟩
  · refine ⟨n, hge, Nat.le_refl n, ?_⟩
    rw [run_get_bind, hconn]
    change Safe _ _ _ _ ((onAck state fi >>= fun changed => onData changed fi).run w)
    rw [run_bind_of_ok honAck]
    exact safe_onData hw' hfi changed
  · exact absurd rfl hack

theorem safe_recvRaw (h : Outbound base stream acked sent w) (size : Nat) :
    Safe base stream acked sent ((recvRaw size).run w) := by
  obtain ⟨conn, hconn, hsends⟩ := h.exists_conn
  unfold recvRaw
  rw [run_getConn_bind hconn]
  cases hchannel : conn.serverChannel with
  | none => exact h
  | some channel =>
      dsimp only
      cases hbuf : channel.recvBuf with
      | some pending => exact ⟨h, by unfold IsPositionError; simp⟩
      | none =>
          rw [Option.isSome_none, if_neg Bool.false_ne_true]
          generalize takeInbound size channel.inboundData = taken
          obtain ⟨bytes, left, inboundData⟩ := taken
          have hsame : SameOutbound conn { conn with serverChannel := some { channel with
              inboundData, recvBuf := if left = 0 then none else some left } } :=
            ⟨rfl, rfl, rfl, rfl, by rw [hchannel]; rfl⟩
          have hset := (h.update hconn hsame).withReceived (w.received ++ bytes)
          dsimp only
          cases decide (0 < left) && !channel.connected with
          | false => exact hset
          | true => exact ⟨hset, by unfold IsPositionError; simp⟩

theorem CarriesAt.append {position : Nat} {frame : ServerFrame}
    (h : CarriesAt base stream position frame) (data : List UInt8) :
    CarriesAt base (stream ++ data) position frame := by
  refine ⟨h.1, h.2.trans ?_⟩
  rw [List.drop_append]
  exact List.prefix_append _ _

/-- New data goes to the end of the queue. -/
theorem safe_sendRaw (h : Outbound base stream acked sent w) (data : List UInt8) :
    Safe base (stream ++ data) acked sent ((sendRaw data).run w) := by
  obtain ⟨⟨conn, hconn, hsends⟩, frames, hframes, hcarry⟩ := h
  have hsends' : Sends base (stream ++ data) acked
      { conn with
        outboundDataBytes := conn.outboundDataBytes + data.length
        outboundData := conn.outboundData ++ [data] } := by
    refine ⟨hsends.awaitingFirstAck, hsends.ackedServerSeq, ?_, ?_, ?_, hsends.connected⟩
    · rw [List.flatten_append, hsends.flatten, List.drop_append_of_le_length hsends.acked_le,
        List.flatten_singleton]
    · have hle := hsends.acked_le
      dsimp only
      rw [hsends.outboundDataBytes, List.length_append]
      omega
    · rw [List.length_append]
      exact Nat.le_add_right_of_le hsends.acked_le
  have hset : Outbound base (stream ++ data) acked sent { w with conn := some _ } :=
    ⟨⟨_, rfl, hsends'⟩, frames, hframes, fun frame hframe => (hcarry frame hframe).append data⟩
  unfold sendRaw
  rw [run_get_bind, hconn]
  dsimp only
  rw [run_setConn_bind]
  exact safe_schedule hset (!conn.awaitingAck)

/-- A push carries the bytes that come next. -/
theorem safe_sendPendingPushFrame (h : Outbound base stream acked sent w) :
    Safe base stream acked sent ((sendPendingPushFrame state).run w) := by
  obtain ⟨conn, hconn, hsends⟩ := h.exists_conn
  have hlength : conn.outboundData.flatten.length = conn.outboundDataBytes := by
    rw [hsends.flatten, List.length_drop, hsends.outboundDataBytes]
  have hbytes : bytesToSend state conn ≤ conn.outboundData.flatten.length := by
    rw [hlength]
    unfold bytesToSend
    dsimp only
    split_ifs
    · exact (Nat.min_le_left _ _).trans (Nat.min_le_left _ _)
    · exact Nat.min_le_left _ _
  unfold sendPendingPushFrame
  rw [run_getConn_bind hconn]
  rcases Nat.eq_zero_or_pos conn.outboundDataBytes with hempty | hpos
  · rw [if_pos hempty, if_pos hsends.connected]
    exact h
  · have hne : conn.outboundData.flatten ≠ [] := List.length_pos_iff.mp (hlength ▸ hpos)
    obtain ⟨first, rest, hlinear, hfirst, hflatten⟩ := linearizeOutboundData_spec hne hbytes
    have hsame : SameOutbound conn { conn with outboundData := first :: rest } :=
      ⟨rfl, rfl, hflatten, rfl, rfl⟩
    have hpayload : first.take (bytesToSend state conn) <+: stream.drop acked := by
      rw [← hsends.flatten, ← hflatten]
      exact (List.take_prefix _ _).trans (List.prefix_append _ _)
    obtain ⟨w', hrun, hw'⟩ := (h.update hconn hsame).run_sendTcpFrame Flag.psh.value
      (some (first.take (bytesToSend state conn))) rfl hpayload
    rw [if_neg (Nat.ne_of_gt hpos)]
    dsimp only
    rw [hlinear, run_setConn_bind]
    dsimp only
    rw [if_neg (Nat.not_lt.mpr hfirst), run_bind_of_ok hrun]
    exact hw'.withPushes _

theorem safe_onResendPushTimer (h : Outbound base stream acked sent w) :
    Safe base stream acked sent ((onResendPushTimer state).run w) := by
  obtain ⟨conn, hconn, -⟩ := h.exists_conn
  have hsame : SameOutbound conn { conn with resendPushTimer := false } := ⟨rfl, rfl, rfl, rfl, rfl⟩
  unfold onResendPushTimer
  rw [run_get_bind, hconn]
  dsimp only
  cases conn.resendPushTimer with
  | false => exact h
  | true => exact safe_sendPendingPushFrame (h.update hconn hsame)

theorem safe_finishPush (h : Outbound base stream acked sent w) :
    Safe base stream acked sent (finishPush.run w) := by
  obtain ⟨conn, hconn, -⟩ := h.exists_conn
  have hsame : SameOutbound conn conn.backOff := ⟨rfl, rfl, rfl, rfl, rfl⟩
  have hset := (h.update hconn hsame).withPushes (w.sendingPushes - 1)
  have hbackOff : w.conn.map (·.backOff) = some conn.backOff := by
    rw [hconn]
    rfl
  rw [← hbackOff] at hset
  exact hset

end HuntersGuild.VirtualTcpOutbound
