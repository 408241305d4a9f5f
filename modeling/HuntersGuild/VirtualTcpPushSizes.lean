import HuntersGuild.VirtualTcp

/-!
How large the pushes of a connection get, for each largest size that a client allows.
-/

namespace HuntersGuild.VirtualTcpPushSizes

open HuntersGuild.ByteStreams
open HuntersGuild.StatefulPrograms
open HuntersGuild.VirtualTcp

/-- A frame with no more data than the client allows, all of which its IPv4 size counts. -/
def Fits (maxFrameSize : Nat) (frame : ServerFrame) : Prop :=
  frame.payload.length ≤ maxFrameSize ∧ frame.size.toNat = 40 + frame.payload.length

/-- The sizes for which backing off does not pass below 0, and the largest frame has an
IPv4 size. On a tapserver no push has more than 200 bytes. -/
def IsSafeSize (protocol : VirtualNetworkProtocol) (maxFrameSize : Nat) : Prop :=
  if protocol = .hdlcTapserver then 200 ≤ maxFrameSize
  else 0x100 ≤ maxFrameSize ∧ maxFrameSize ≤ 65495

/-- What the pushes of a connection are limited to. -/
structure Limited (protocol : VirtualNetworkProtocol) (maxFrameSize : Nat)
    (conn : TCPConnection) : Prop where
  maxFrameSize_eq : conn.maxFrameSize = maxFrameSize
  next_mem : protocol ≠ .hdlcTapserver →
    0x100 ≤ conn.nextPushMaxFrameSize ∧ conn.nextPushMaxFrameSize ≤ maxFrameSize

/-- A state whose connection is limited, and in which only frames that fit were sent. -/
structure AllFit (protocol : VirtualNetworkProtocol) (maxFrameSize : Nat) (w : Network) :
    Prop where
  limited : ∀ conn ∈ w.conn, Limited protocol maxFrameSize conn
  fits : ∀ frame ∈ w.sent, Fits maxFrameSize frame

section Handlers

variable {protocol : VirtualNetworkProtocol} {maxFrameSize : Nat} {state : ServerState}
  {conn : TCPConnection}

theorem Limited.initial (hsafe : IsSafeSize protocol maxFrameSize)
    (hmax : conn.maxFrameSize = maxFrameSize) (hnext : conn.nextPushMaxFrameSize = maxFrameSize) :
    Limited protocol maxFrameSize conn := by
  refine ⟨hmax, ?_⟩
  intro hprotocol
  rw [IsSafeSize, if_neg hprotocol] at hsafe
  rw [hnext]
  exact ⟨hsafe.1, Nat.le_refl _⟩

theorem Limited.backOff (hsafe : IsSafeSize protocol maxFrameSize)
    (h : Limited protocol maxFrameSize conn) : Limited protocol maxFrameSize conn.backOff := by
  refine ⟨h.maxFrameSize_eq, ?_⟩
  intro hprotocol
  rw [IsSafeSize, if_neg hprotocol] at hsafe
  have hnext := h.next_mem hprotocol
  unfold TCPConnection.backOff
  dsimp only
  omega

theorem Limited.bytesToSend_le (hsafe : IsSafeSize state.protocol maxFrameSize)
    (h : Limited state.protocol maxFrameSize conn) :
    bytesToSend state conn ≤ maxFrameSize ∧ bytesToSend state conn ≤ 65495 := by
  have hnext := h.next_mem
  unfold IsSafeSize at hsafe
  unfold bytesToSend
  dsimp only
  split_ifs with hprotocol
  · rw [if_pos hprotocol] at hsafe
    omega
  · rw [if_neg hprotocol] at hsafe
    have hnext := h.next_mem hprotocol
    omega

theorem fits_of_le {payload : List UInt8} (hmax : payload.length ≤ maxFrameSize)
    (hsize : payload.length ≤ 65495) (seqNum ackNum : UInt32) (flags : UInt16) :
    Fits maxFrameSize ⟨.ofNat (40 + payload.length), seqNum, ackNum, flags, payload⟩ := by
  refine ⟨hmax, ?_⟩
  dsimp only
  rw [UInt16.toNat_ofNat']
  exact Nat.mod_eq_of_lt (by omega)

theorem AllFit.setConn {w : Network} (h : AllFit protocol maxFrameSize w)
    (hconn : Limited protocol maxFrameSize conn) :
    AllFit protocol maxFrameSize { w with conn := some conn } := by
  refine ⟨?_, h.fits⟩
  rintro _ ⟨⟩
  exact hconn

theorem keeps_getConn_bind {α : Type} {f : TCPConnection → Handler α}
    (hf : ∀ conn, Limited protocol maxFrameSize conn →
      Keeps (AllFit protocol maxFrameSize) (f conn)) :
    Keeps (AllFit protocol maxFrameSize) (getConn >>= f) := by
  intro w h
  cases hconn : w.conn with
  | none =>
      unfold getConn
      rw [bind_assoc, run_get_bind, hconn]
      exact h
  | some conn =>
      rw [run_getConn_bind hconn]
      exact hf conn (h.limited conn hconn) w h

theorem keeps_setConn (hconn : Limited protocol maxFrameSize conn) :
    Keeps (AllFit protocol maxFrameSize) (setConn conn) := by
  intro w h
  exact h.setConn hconn

theorem keeps_throw {α : Type} {P : Network → Prop} (e : Exception) :
    Keeps P (throw e : Handler α) :=
  (readOnly_throw e).keeps

theorem keeps_pure {α : Type} {P : Network → Prop} (a : α) : Keeps P (pure a : Handler α) :=
  (readOnly_pure a).keeps

theorem keeps_runIf {P : Network → Prop} {condition : Bool} {x : Handler PUnit}
    (hx : Keeps P x) : Keeps P (runIf condition x) := by
  cases condition with
  | false => exact keeps_pure _
  | true => exact hx

theorem keeps_dropConn :
    Keeps (AllFit protocol maxFrameSize)
      (modify fun w => { w with conn := none } : Handler PUnit) := by
  intro w h
  exact ⟨nofun, h.fits⟩

theorem keeps_sendTcpFrame {flags : UInt16} {payload : Option (List UInt8)}
    (hmax : (payload.getD []).length ≤ maxFrameSize) (hsize : (payload.getD []).length ≤ 65495) :
    Keeps (AllFit protocol maxFrameSize) (sendTcpFrame flags payload) := by
  unfold sendTcpFrame
  split_ifs
  · exact keeps_throw _
  · apply keeps_getConn_bind
    intro conn _ w h
    refine ⟨h.limited, ?_⟩
    intro frame hframe
    obtain hold | hnew := List.mem_append.mp hframe
    · exact h.fits frame hold
    · obtain rfl := List.mem_singleton.mp hnew
      exact fits_of_le hmax hsize _ _ _

theorem keeps_sendEmptyFrame (flags : UInt16) :
    Keeps (AllFit protocol maxFrameSize) (sendTcpFrame flags none) :=
  keeps_sendTcpFrame (Nat.zero_le _) (Nat.zero_le _)

theorem keeps_closeTcpConnection : Keeps (AllFit protocol maxFrameSize) closeTcpConnection :=
  (keeps_sendEmptyFrame _).bind fun _ => keeps_dropConn

theorem keeps_setConn_bind {α : Type} {f : PUnit → Handler α}
    (hf : Keeps (AllFit protocol maxFrameSize) (f ⟨⟩)) (hconn : Limited protocol maxFrameSize conn) :
    Keeps (AllFit protocol maxFrameSize) (setConn conn >>= f) :=
  (keeps_setConn hconn).bind fun _ => hf

theorem keeps_schedule : Keeps (AllFit protocol maxFrameSize) scheduleSendPendingPushFrame := by
  apply keeps_getConn_bind
  intro conn hconn
  exact keeps_setConn ⟨hconn.maxFrameSize_eq, hconn.next_mem⟩

theorem keeps_openServerConnection :
    Keeps (AllFit protocol maxFrameSize) (openServerConnection state) := by
  apply keeps_getConn_bind
  intro conn hconn
  have hset (channel : IPSSChannel) :
      Limited protocol maxFrameSize { conn with serverChannel := some channel } :=
    ⟨hconn.maxFrameSize_eq, hconn.next_mem⟩
  split_ifs
  · exact keeps_throw _
  · exact keeps_closeTcpConnection
  · exact keeps_setConn_bind keeps_closeTcpConnection (hset _)
  · exact keeps_setConn (hset _)

theorem keeps_advanceAckedSeq (hsafe : IsSafeSize protocol maxFrameSize) (ackDelta : UInt32) :
    Keeps (AllFit protocol maxFrameSize) (advanceAckedSeq ackDelta) := by
  apply keeps_getConn_bind
  intro conn hconn
  split_ifs
  · exact keeps_throw _
  · dsimp only
    split_ifs
    · apply keeps_setConn_bind (keeps_throw _)
      exact ⟨hconn.maxFrameSize_eq, hconn.next_mem⟩
    · apply keeps_setConn_bind (keeps_pure _)
      exact .initial hsafe hconn.maxFrameSize_eq hconn.maxFrameSize_eq

theorem keeps_readAckNum (hsafe : IsSafeSize protocol maxFrameSize) (ackNum : UInt32) :
    Keeps (AllFit protocol maxFrameSize) (readAckNum ackNum) := by
  apply keeps_getConn_bind
  intro conn hconn
  split_ifs
  · exact keeps_throw _
  · apply keeps_setConn_bind (keeps_pure _)
    exact ⟨hconn.maxFrameSize_eq, hconn.next_mem⟩
  · apply keeps_setConn_bind (keeps_advanceAckedSeq hsafe _)
    exact ⟨hconn.maxFrameSize_eq, hconn.next_mem⟩
  · apply keeps_setConn_bind (keeps_throw _)
    exact ⟨hconn.maxFrameSize_eq, hconn.next_mem⟩
  · apply keeps_setConn_bind (keeps_pure _)
    exact ⟨hconn.maxFrameSize_eq, hconn.next_mem⟩

theorem keeps_onAck (hsafe : IsSafeSize protocol maxFrameSize) (fi : ClientFrame) :
    Keeps (AllFit protocol maxFrameSize) (onAck state fi) := by
  apply (keeps_readAckNum hsafe fi.ackNum).bind
  intro ackedSeqChanged
  apply keeps_getConn_bind
  intro conn _
  split_ifs
  · exact keeps_pure _
  · exact keeps_openServerConnection.bind fun _ => keeps_pure _

theorem keeps_addReceived (data : List UInt8) :
    Keeps (AllFit protocol maxFrameSize) (addReceived data) := by
  intro w h
  exact ⟨h.limited, h.fits⟩

theorem keeps_acceptPayload (payload : List UInt8) :
    Keeps (AllFit protocol maxFrameSize) (acceptPayload payload) := by
  apply keeps_getConn_bind
  intro conn hconn
  dsimp only
  split
  · apply keeps_setConn
    exact ⟨hconn.maxFrameSize_eq, hconn.next_mem⟩
  · split_ifs
    · apply keeps_setConn_bind (keeps_addReceived _)
      exact ⟨hconn.maxFrameSize_eq, hconn.next_mem⟩
    · apply keeps_setConn
      exact ⟨hconn.maxFrameSize_eq, hconn.next_mem⟩

theorem keeps_onPayload (fi : ClientFrame) :
    Keeps (AllFit protocol maxFrameSize) (onPayload fi) := by
  apply keeps_getConn_bind
  intro conn _
  dsimp only
  split_ifs
  · exact keeps_throw _
  · exact (keeps_acceptPayload _).bind fun _ => keeps_sendEmptyFrame _
  · exact keeps_sendEmptyFrame _

theorem keeps_onClose (fi : ClientFrame) :
    Keeps (AllFit protocol maxFrameSize) (onClose fi) := by
  unfold onClose
  split_ifs
  · exact keeps_throw _
  · exact (keeps_sendEmptyFrame _).bind fun _ => keeps_dropConn

theorem keeps_onSyn (hsafe : IsSafeSize protocol maxFrameSize) {fi : ClientFrame}
    (hfi : fi.maxFrameSize = maxFrameSize) (randomSeq : UInt32) (serverPort : UInt16) :
    Keeps (AllFit protocol maxFrameSize) (onSyn randomSeq serverPort fi) := by
  unfold onSyn
  split_ifs
  · exact keeps_throw _
  · apply keeps_get_bind
    intro w h
    split
    · apply keeps_setConn_bind (keeps_sendEmptyFrame _) _ w h
      exact .initial hsafe hfi hfi
    · split_ifs
      · exact keeps_sendEmptyFrame _ w h
      · exact keeps_throw _ w h

theorem keeps_onData (ackedSeqChanged : Bool) (fi : ClientFrame) :
    Keeps (AllFit protocol maxFrameSize) (onData ackedSeqChanged fi) := by
  unfold onData
  split_ifs
  · exact keeps_onClose fi
  · exact (keeps_runIf (keeps_onPayload fi)).bind fun _ => keeps_runIf keeps_schedule

theorem keeps_onClientTcpFrame (hsafe : IsSafeSize protocol maxFrameSize) {fi : ClientFrame}
    (hfi : hasFlag fi.flags .syn = true → fi.maxFrameSize = maxFrameSize) (randomSeq : UInt32)
    (serverPort : UInt16) :
    Keeps (AllFit protocol maxFrameSize) (onClientTcpFrame state randomSeq serverPort fi) := by
  unfold onClientTcpFrame
  split_ifs with _ hsyn
  · exact keeps_throw _
  · exact keeps_onSyn hsafe (hfi hsyn) randomSeq serverPort
  · apply keeps_get_bind
    intro w h
    split
    · exact h
    · exact ((keeps_onAck hsafe fi).bind fun changed => keeps_onData changed fi) w h
  · apply keeps_get_bind
    intro w h
    split
    · exact h
    · exact keeps_onData false fi w h

theorem keeps_recvRaw (size : Nat) : Keeps (AllFit protocol maxFrameSize) (recvRaw size) := by
  apply keeps_getConn_bind
  intro conn hconn
  split
  · exact keeps_pure _
  · split_ifs
    · exact keeps_throw _
    · apply keeps_setConn_bind
      · exact (keeps_addReceived _).bind fun _ => keeps_runIf (keeps_throw _)
      · exact ⟨hconn.maxFrameSize_eq, hconn.next_mem⟩

theorem keeps_sendRaw (data : List UInt8) :
    Keeps (AllFit protocol maxFrameSize) (sendRaw data) := by
  apply keeps_get_bind
  intro w h
  split
  · exact h
  · case h_2 conn hconn =>
      apply keeps_setConn_bind (keeps_runIf keeps_schedule) _ w h
      exact ⟨(h.limited conn hconn).maxFrameSize_eq, (h.limited conn hconn).next_mem⟩

theorem keeps_countPush : Keeps (AllFit protocol maxFrameSize)
    (modify fun w => { w with sendingPushes := w.sendingPushes + 1 } : Handler PUnit) := by
  intro w h
  exact ⟨h.limited, h.fits⟩

theorem keeps_sendPendingPushFrame (hsafe : IsSafeSize state.protocol maxFrameSize) :
    Keeps (AllFit state.protocol maxFrameSize) (sendPendingPushFrame state) := by
  apply keeps_getConn_bind
  intro conn hconn
  have hpush (front : List UInt8) : Keeps (AllFit state.protocol maxFrameSize)
      (sendTcpFrame Flag.psh.value (some (front.take (bytesToSend state conn)))) := by
    obtain ⟨hmax, hsize⟩ := hconn.bytesToSend_le hsafe
    have hlength := List.length_take_le (bytesToSend state conn) front
    exact keeps_sendTcpFrame (hlength.trans hmax) (hlength.trans hsize)
  split_ifs
  · exact keeps_pure _
  · exact keeps_closeTcpConnection
  · dsimp only
    apply keeps_setConn_bind
    · split
      · exact keeps_throw _
      · split_ifs
        · exact keeps_throw _
        · exact (hpush _).bind fun _ => keeps_countPush
    · exact ⟨hconn.maxFrameSize_eq, hconn.next_mem⟩

theorem keeps_onResendPushTimer (hsafe : IsSafeSize state.protocol maxFrameSize) :
    Keeps (AllFit state.protocol maxFrameSize) (onResendPushTimer state) := by
  apply keeps_get_bind
  intro w h
  split
  · exact h
  · case h_2 conn hconn =>
      split_ifs
      · apply keeps_setConn_bind (keeps_sendPendingPushFrame hsafe) _ w h
        exact ⟨(h.limited conn hconn).maxFrameSize_eq, (h.limited conn hconn).next_mem⟩
      · exact h

theorem keeps_finishPush (hsafe : IsSafeSize protocol maxFrameSize) :
    Keeps (AllFit protocol maxFrameSize) finishPush := by
  intro w h
  refine ⟨?_, h.fits⟩
  intro conn hconn
  obtain ⟨conn, hold, rfl⟩ := Option.map_eq_some_iff.mp hconn
  exact (h.limited conn hold).backOff hsafe

end Handlers

/-! ## Runs -/

/-- Every SYN allows frames of one size. -/
def Announces (maxFrameSize : Nat) : Event → Prop
  | .clientFrame _ _ fi => hasFlag fi.flags .syn = true → fi.maxFrameSize = maxFrameSize
  | _ => True

section Runs

variable {maxFrameSize : Nat} {state : ServerState}

theorem keeps_perform (hsafe : IsSafeSize state.protocol maxFrameSize) {event : Event}
    (hevent : Announces maxFrameSize event) :
    Keeps (AllFit state.protocol maxFrameSize) (perform state event) := by
  cases event with
  | clientFrame randomSeq serverPort fi =>
      exact keeps_onClientTcpFrame hsafe hevent randomSeq serverPort
  | recvRaw size => exact keeps_recvRaw size
  | sendRaw data => exact keeps_sendRaw data
  | resendPushTimer => exact keeps_onResendPushTimer hsafe
  | pushSent => exact keeps_finishPush hsafe

theorem allFit_empty {protocol : VirtualNetworkProtocol} : AllFit protocol maxFrameSize {} :=
  ⟨fun _ h => absurd h (Option.not_mem_none _), fun _ h => absurd h List.not_mem_nil⟩

theorem allFit_run (hsafe : IsSafeSize state.protocol maxFrameSize) {events : List Event}
    (hevents : ∀ event ∈ events, Announces maxFrameSize event) {w : Network}
    (h : AllFit state.protocol maxFrameSize w) :
    AllFit state.protocol maxFrameSize (events.foldl (next state) w) := by
  induction events generalizing w with
  | nil => exact h
  | cons event events ih =>
      have hevent := hevents event List.mem_cons_self
      exact ih (fun event hmem => hevents event (List.mem_cons_of_mem _ hmem))
        (keeps_perform hsafe hevent w h)

end Runs

/-! ## A client that does not answer -/

section Unanswered

variable {maxFrameSize : Nat} {state : ServerState} {data : List UInt8} {w : Network}
  {conn : TCPConnection}

def pushFrame (conn : TCPConnection) (payload : List UInt8) : ServerFrame :=
  { size := .ofNat (40 + payload.length)
    seqNum := conn.ackedServerSeq
    ackNum := conn.nextClientSeq
    flags := 0x5000 ||| Flag.ack.value ||| Flag.psh.value
    payload }

/-- A push of data that stand in one block. -/
theorem run_sendPendingPushFrame (hconn : w.conn = some conn)
    (hblocks : conn.outboundData = [data]) (hbytes : conn.outboundDataBytes = data.length)
    (hne : data.length ≠ 0) :
    (sendPendingPushFrame state).run w =
      .ok ⟨⟩
        { w with
          conn := some { conn with outboundData := [data] }
          sent := w.sent ++ [pushFrame conn (data.take (bytesToSend state conn))]
          sendingPushes := w.sendingPushes + 1 } := by
  have hle : ¬data.length < bytesToSend state conn := by
    unfold bytesToSend
    dsimp only
    split_ifs <;> omega
  have hlinear : linearizeOutboundData (bytesToSend state conn) conn.outboundData = [data] := by
    rw [hblocks]
    rfl
  unfold sendPendingPushFrame
  rw [run_getConn_bind hconn]
  dsimp only
  rw [hbytes, if_neg hne, hlinear, run_setConn_bind]
  dsimp only
  rw [if_neg hle]
  rfl

theorem next_resendPushTimer (hconn : w.conn = some conn) (htimer : conn.resendPushTimer = true)
    (hblocks : conn.outboundData = [data]) (hbytes : conn.outboundDataBytes = data.length)
    (hne : data.length ≠ 0) :
    next state w .resendPushTimer =
      { w with
        conn := some { conn with resendPushTimer := false, outboundData := [data] }
        sent := w.sent ++ [pushFrame conn (data.take (bytesToSend state conn))]
        sendingPushes := w.sendingPushes + 1 } := by
  unfold next perform onResendPushTimer
  dsimp only
  rw [run_get_bind, hconn]
  dsimp only
  rw [if_pos htimer, run_setConn_bind]
  have hset : ({ w with conn := some { conn with resendPushTimer := false } } : Network).conn =
    some { conn with resendPushTimer := false } := rfl
  rw [run_sendPendingPushFrame hset hblocks hbytes hne]
  rfl

def openingSyn (maxFrameSize : Nat) : ClientFrame := ⟨0, 0, 0x0002, maxFrameSize, []⟩

def openingAck : ClientFrame := ⟨1, 1, 0x0010, 1400, []⟩

/-- A client opens a connection and answers no push of the data that the server sends. -/
def unansweredRun (maxFrameSize : Nat) (data : List UInt8) : List Event :=
  [.clientFrame 0 9100 (openingSyn maxFrameSize), .clientFrame 0 9100 openingAck, .sendRaw data,
    .resendPushTimer, .pushSent, .resendPushTimer]

theorem announces_unansweredRun (maxFrameSize : Nat) (data : List UInt8) :
    ∀ event ∈ unansweredRun maxFrameSize data, Announces maxFrameSize event := by
  intro event hevent
  simp only [unansweredRun, List.mem_cons, List.not_mem_nil, or_false] at hevent
  obtain rfl | rfl | rfl | rfl | rfl | rfl := hevent
  · intro _
    rfl
  · intro hsyn
    exact absurd hsyn (by decide)
  all_goals trivial

def serving (protocol : VirtualNetworkProtocol) : ServerState := ⟨protocol, fun _ => true, true⟩

/-- The connection after the first frame of the client. -/
def openedConn (maxFrameSize : Nat) : TCPConnection :=
  { serverPort := 9100
    nextClientSeq := 1
    ackedServerSeq := 0
    nextPushMaxFrameSize := maxFrameSize
    maxFrameSize }

/-- The connection before the first push. -/
def waitingConn (maxFrameSize : Nat) (data : List UInt8) : TCPConnection :=
  { serverChannel := some {}
    awaitingFirstAck := false
    serverPort := 9100
    nextClientSeq := 1
    ackedServerSeq := 1
    nextPushMaxFrameSize := maxFrameSize
    maxFrameSize
    outboundDataBytes := data.length
    outboundData := [data]
    resendPushTimer := true }

theorem next_openingSyn (maxFrameSize : Nat) :
    (next state {} (.clientFrame 0 9100 (openingSyn maxFrameSize))).conn =
      some (openedConn maxFrameSize) := by
  unfold next perform onClientTcpFrame onSyn openingSyn
  dsimp only
  rw [if_neg (by decide), if_pos (by decide), if_neg (by decide)]
  rfl

theorem next_openingAck {protocol : VirtualNetworkProtocol}
    (hconn : w.conn = some (openedConn maxFrameSize)) :
    (next (serving protocol) w (.clientFrame 0 9100 openingAck)).conn =
      some { openedConn maxFrameSize with
        serverChannel := some {}, awaitingFirstAck := false, ackedServerSeq := 1 } := by
  obtain ⟨conn, sent, received, sendingPushes⟩ := w
  cases hconn
  rfl

theorem next_sendRaw {conn : TCPConnection} (hconn : w.conn = some conn)
    (hack : conn.awaitingAck = false) :
    (next state w (.sendRaw data)).conn =
      some { conn with
        outboundDataBytes := conn.outboundDataBytes + data.length
        outboundData := conn.outboundData ++ [data]
        resendPushTimer := true } := by
  unfold next perform sendRaw
  dsimp only
  rw [run_get_bind, hconn]
  dsimp only
  rw [run_setConn_bind, hack]
  rfl

theorem exists_waiting (protocol : VirtualNetworkProtocol) (maxFrameSize : Nat)
    (data : List UInt8) :
    ∃ w : Network, w.conn = some (waitingConn maxFrameSize data) ∧
      (unansweredRun maxFrameSize data).foldl (next (serving protocol)) {} =
        next (serving protocol) (next (serving protocol)
          (next (serving protocol) w .resendPushTimer) .pushSent) .resendPushTimer := by
  refine ⟨_, ?_, rfl⟩
  rw [next_sendRaw (next_openingAck (next_openingSyn maxFrameSize)) rfl]
  unfold waitingConn openedConn
  dsimp only
  rw [Nat.zero_add]
  rfl

theorem pushes_unansweredRun (protocol : VirtualNetworkProtocol) (maxFrameSize : Nat)
    {data : List UInt8} (hne : data.length ≠ 0) :
    ∀ conn ∈ [waitingConn maxFrameSize data, (waitingConn maxFrameSize data).backOff],
      pushFrame conn (data.take (bytesToSend (serving protocol) conn)) ∈
        ((unansweredRun maxFrameSize data).foldl (next (serving protocol)) {}).sent := by
  obtain ⟨w, hconn, hrun⟩ := exists_waiting protocol maxFrameSize data
  have hsent : ∃ pushed : Network, next (serving protocol)
      (next (serving protocol) w .resendPushTimer) .pushSent = pushed ∧
        pushed.conn = some (waitingConn maxFrameSize data).backOff ∧
        pushFrame (waitingConn maxFrameSize data)
          (data.take (bytesToSend (serving protocol) (waitingConn maxFrameSize data))) ∈
            pushed.sent := by
    rw [next_resendPushTimer hconn rfl rfl rfl hne]
    exact ⟨_, rfl, rfl, List.mem_append_right _ List.mem_cons_self⟩
  obtain ⟨pushed, hpushed, hbackOff, hfirst⟩ := hsent
  rw [hrun, hpushed, next_resendPushTimer hbackOff rfl rfl rfl hne]
  intro conn hmem
  obtain rfl | hmem := List.mem_cons.mp hmem
  · exact List.mem_append_left _ hfirst
  · obtain rfl := List.mem_singleton.mp hmem
    exact List.mem_append_right _ List.mem_cons_self

/-- For every other size there is a push that does not fit: after the first push that is
not answered the limit is passed, or the first push is too large for an IPv4 size. -/
theorem exists_not_fits {protocol : VirtualNetworkProtocol}
    (h : ¬IsSafeSize protocol maxFrameSize) :
    ∃ data, ∃ frame ∈ ((unansweredRun maxFrameSize data).foldl (next (serving protocol)) {}).sent,
      ¬Fits maxFrameSize frame := by
  by_cases hlarge : protocol ≠ .hdlcTapserver ∧ 65495 < maxFrameSize
  · have hlength : (List.replicate maxFrameSize (0 : UInt8)).length = maxFrameSize :=
      List.length_replicate
    have hpush := pushes_unansweredRun protocol maxFrameSize
      (show (List.replicate maxFrameSize (0 : UInt8)).length ≠ 0 by omega) _ List.mem_cons_self
    refine ⟨_, _, hpush, ?_⟩
    have hbytes : bytesToSend (serving protocol)
        (waitingConn maxFrameSize (List.replicate maxFrameSize 0)) = maxFrameSize := by
      unfold bytesToSend serving waitingConn
      dsimp only
      rw [if_neg hlarge.1, hlength, Nat.min_self]
    rintro ⟨-, hsize⟩
    rw [hbytes, List.take_of_length_le (Nat.le_of_eq hlength)] at hsize
    unfold pushFrame at hsize
    dsimp only at hsize
    rw [hlength, UInt16.toNat_ofNat'] at hsize
    omega
  · have hpush := pushes_unansweredRun protocol maxFrameSize
      (show (List.replicate 256 (0 : UInt8)).length ≠ 0 by rw [List.length_replicate]; decide) _
      (List.mem_cons_of_mem _ List.mem_cons_self)
    refine ⟨_, _, hpush, ?_⟩
    rintro ⟨hmax, -⟩
    unfold pushFrame at hmax
    dsimp only at hmax
    rw [List.length_take, List.length_replicate] at hmax
    unfold IsSafeSize at h
    unfold bytesToSend serving waitingConn TCPConnection.backOff at hmax
    dsimp only at hmax
    rw [List.length_replicate] at hmax
    split_ifs at h hmax with hprotocol
    · omega
    · have hsmall : maxFrameSize < 0x100 := by
        by_contra hge
        exact h ⟨by omega, by_contra fun hgt => hlarge ⟨hprotocol, by omega⟩⟩
      omega

end Unanswered

/-- In every run each push fits the size that the client allows exactly when that size
is safe. -/
theorem allFit_iff_isSafeSize (protocol : VirtualNetworkProtocol) (maxFrameSize : Nat) :
    (∀ state : ServerState, state.protocol = protocol → ∀ events : List Event,
      (∀ event ∈ events, Announces maxFrameSize event) →
        ∀ frame ∈ (events.foldl (next state) {}).sent, Fits maxFrameSize frame) ↔
      IsSafeSize protocol maxFrameSize := by
  constructor
  · intro h
    by_contra hsafe
    obtain ⟨data, frame, hframe, hnot⟩ := exists_not_fits hsafe
    exact hnot (h (serving protocol) rfl _ (announces_unansweredRun maxFrameSize data) frame hframe)
  · rintro hsafe state rfl events hevents
    exact (allFit_run hsafe hevents allFit_empty).fits

/-- A client that allows 128 bytes gets a push of 256. -/
theorem not_allFit_small :
    ¬ ∀ (state : ServerState) (maxFrameSize : Nat), 0 < maxFrameSize → maxFrameSize < 2 ^ 16 →
      ∀ events : List Event, (∀ event ∈ events, Announces maxFrameSize event) →
        ∀ frame ∈ (events.foldl (next state) {}).sent, Fits maxFrameSize frame := by
  intro h
  have hsafe : ¬IsSafeSize .hdlcRaw 128 := by
    unfold IsSafeSize
    simp
  obtain ⟨data, frame, hframe, hnot⟩ := exists_not_fits hsafe
  exact hnot (h (serving .hdlcRaw) 128 (by decide) (by decide) _
    (announces_unansweredRun 128 data) frame hframe)

end HuntersGuild.VirtualTcpPushSizes
