import HuntersGuild.VirtualTcpOutbound

/-!
A connection together with its client: over any run the client has taken a
beginning of what the server sent, as long as no frame is older than the
sequence numbers allow.
-/

namespace HuntersGuild.VirtualTcpDelivery

open HuntersGuild.ByteStreams
open HuntersGuild.StatefulPrograms
open HuntersGuild.SequenceNumbers
open HuntersGuild.VirtualTcp
open HuntersGuild.VirtualTcpOutbound

/-- The server, what was given to `send_raw`, what the client accepted and the
position it acknowledged last. For each frame that was sent, `sentAt` says how
many bytes the client had accepted by then. -/
structure Link where
  net : Network
  sentAt : List Nat := []
  stream : List UInt8 := []
  accepted : List UInt8 := []
  acked : Nat := 0

inductive Action where
  | sendRaw (data : List UInt8)
  | recvRaw (size : Nat)
  | resendPushTimer
  | pushSent
  | ack (randomSeq : UInt32) (serverPort : UInt16) (fi : ClientFrame) (acked : Nat)
  | deliver (index skip count : Nat)

/-- What the server does. -/
def Action.event : Action → Option Event
  | .sendRaw data => some (.sendRaw data)
  | .recvRaw size => some (.recvRaw size)
  | .resendPushTimer => some .resendPushTimer
  | .pushSent => some .pushSent
  | .ack randomSeq serverPort fi _ => some (.clientFrame randomSeq serverPort fi)
  | .deliver _ _ _ => none

def Link.advance (l : Link) (net : Network) : Link :=
  { l with
    net
    sentAt := l.sentAt ++
      List.replicate (net.sent.length - l.net.sent.length) l.accepted.length }

def Link.step (state : ServerState) (l : Link) : Action → Link
  | .sendRaw data =>
    { l.advance (next state l.net (.sendRaw data)) with stream := l.stream ++ data }
  | .recvRaw size => l.advance (next state l.net (.recvRaw size))
  | .resendPushTimer => l.advance (next state l.net .resendPushTimer)
  | .pushSent => l.advance (next state l.net .pushSent)
  | .ack randomSeq serverPort fi acked =>
    { l.advance (next state l.net (.clientFrame randomSeq serverPort fi)) with acked }
  | .deliver index skip count =>
    let payload := (l.net.sent[index]?.map (·.payload)).getD []
    { l with accepted := l.accepted ++ (payload.drop skip).take count }

/-- A frame that the client can read has the size that its header gives. -/
def IsReadable (frame : ServerFrame) : Prop :=
  frame.size.toNat = 40 + frame.payload.length

/-- The client takes data only at its next sequence number, acknowledges what it
has taken and does not go backwards. The network delivers a frame that was sent,
any number of times; `lifetime` says how many bytes the client may have accepted
since. -/
def Permitted (base : UInt32) (lifetime : Nat → Prop) (l : Link) : Action → Prop
  | .sendRaw _ => True
  | .recvRaw _ => True
  | .resendPushTimer => True
  | .pushSent => 0 < l.net.sendingPushes
  | .ack _ _ fi acked =>
    IsDataFrame fi ∧ fi.ackNum = after base acked ∧ l.acked ≤ acked ∧ acked ≤ l.accepted.length
  | .deliver index skip _ => ∃ frame sentAt, l.net.sent[index]? = some frame ∧
    l.sentAt[index]? = some sentAt ∧ IsReadable frame ∧ skip ≤ frame.payload.length ∧
    frame.seqNum + .ofNat skip = after base l.accepted.length ∧
    lifetime (l.accepted.length - sentAt)

/-- A connection after the first ACK, on which nothing was sent. -/
def IsOpen (base : UInt32) (net : Network) : Prop :=
  net.sent = [] ∧ ∃ conn, net.conn = some conn ∧ conn.awaitingFirstAck = false ∧
    conn.ackedServerSeq = base ∧ conn.outboundData = [] ∧ conn.outboundDataBytes = 0 ∧
    conn.serverChannel.any (·.connected) = true

inductive Reaches (state : ServerState) (base : UInt32) (lifetime : Nat → Prop) : Link → Prop
  | opened {net : Network} (h : IsOpen base net) : Reaches state base lifetime { net }
  | step {l : Link} (action : Action) (h : Reaches state base lifetime l)
      (haction : Permitted base lifetime l action) :
      Reaches state base lifetime (l.step state action)

/-- Fewer bytes than there are sequence numbers, less the largest frame. -/
def InTime (age : Nat) : Prop := age < 2 ^ 32 - 2 ^ 16

/-! ## Invariant -/

/-- Everything that was sent carries the stream, and the client is at most one
frame ahead of the acknowledged position. -/
structure Consistent (base : UInt32) (acked : Nat) (l : Link) : Prop where
  outbound : Outbound base l.stream acked l.net.sent l.net
  acked_le : acked ≤ l.acked
  le_accepted : l.acked ≤ l.accepted.length
  accepted_le : l.accepted.length ≤ acked + 2 ^ 16
  accepted_isPrefix : l.accepted <+: l.stream
  length_eq : l.sentAt.length = l.net.sent.length
  frames : ∀ (i : Nat) (frame : ServerFrame) (sentAt : Nat), l.net.sent[i]? = some frame → l.sentAt[i]? = some sentAt →
    ∃ position, CarriesAt base l.stream position frame ∧ position ≤ acked ∧ position ≤ sentAt ∧
      sentAt ≤ position + 2 ^ 16 ∧ sentAt ≤ l.accepted.length

variable {state : ServerState} {base : UInt32} {acked : Nat} {l : Link}

theorem consistent_opened {net : Network} (h : IsOpen base net) : Consistent base 0 { net } := by
  obtain ⟨hsent, conn, hconn, hfirst, hacked, hdata, hbytes, hconnected⟩ := h
  refine ⟨⟨⟨conn, hconn, hfirst, ?_, ?_, hbytes, Nat.le_refl 0, hconnected⟩,
    [], (List.append_nil _).symm, nofun⟩, Nat.le_refl 0, Nat.le_refl 0, Nat.zero_le _,
    List.prefix_rfl, ?_, ?_⟩
  · rw [hacked, after_zero]
  · rw [hdata]
    rfl
  · dsimp only
    rw [hsent]
    rfl
  · intro i frame sentAt hframe
    dsimp only at hframe
    rw [hsent] at hframe
    cases hframe

/-- What the server does keeps the invariant, whatever it sends. -/
theorem Consistent.advance (h : Consistent base acked l) {net : Network} {data : List UInt8}
    {acked' last : Nat} (hout : Outbound base (l.stream ++ data) acked' l.net.sent net)
    (hge : acked ≤ acked') (hlast : acked' ≤ last) (hle : last ≤ l.accepted.length) :
    Consistent base acked' { l.advance net with stream := l.stream ++ data, acked := last } := by
  obtain ⟨hconn, frames, hframes, hcarry⟩ := hout
  have hlength : net.sent.length - l.net.sent.length = frames.length := by
    rw [hframes, List.length_append, Nat.add_sub_cancel_left]
  have hbound := h.accepted_le
  refine ⟨⟨hconn, [], (List.append_nil _).symm, nofun⟩, hlast, hle, hbound.trans (by omega),
    h.accepted_isPrefix.trans (List.prefix_append _ _), ?_, ?_⟩
  · change (l.sentAt ++ List.replicate _ _).length = net.sent.length
    rw [hlength, List.length_append, List.length_replicate, h.length_eq, hframes,
      List.length_append]
  · intro i frame sentAt hframe hsentAt
    change net.sent[i]? = some frame at hframe
    change (l.sentAt ++ List.replicate _ _)[i]? = some sentAt at hsentAt
    rw [hframes] at hframe
    rcases Nat.lt_or_ge i l.net.sent.length with hlt | hnew
    · rw [List.getElem?_append_left hlt] at hframe
      rw [List.getElem?_append_left (h.length_eq ▸ hlt)] at hsentAt
      obtain ⟨position, hposition, hposition', hrest⟩ := h.frames i frame sentAt hframe hsentAt
      exact ⟨position, hposition.append data, hposition'.trans hge, hrest⟩
    · rw [List.getElem?_append_right hnew] at hframe
      rw [List.getElem?_append_right (h.length_eq ▸ hnew), List.getElem?_replicate] at hsentAt
      split_ifs at hsentAt
      obtain rfl := Option.some.inj hsentAt
      refine ⟨acked', hcarry frame (List.mem_of_getElem? hframe), Nat.le_refl _,
        hlast.trans hle, by omega, Nat.le_refl _⟩

/-- What a frame that is not too old carries for the client's next sequence
number is what comes next. -/
theorem Consistent.deliver (h : Consistent base acked l) {index skip : Nat} (count : Nat)
    (hdeliver : Permitted base InTime l (.deliver index skip count)) :
    Consistent base acked (l.step state (.deliver index skip count)) := by
  obtain ⟨frame, sentAt, hframe, hsentAt, hreadable, hskip, hseq, hage⟩ := hdeliver
  obtain ⟨position, ⟨hposition, hpayload⟩, hle, hle', hnear, hsent⟩ :=
    h.frames index frame sentAt hframe hsentAt
  have hsize : 40 + frame.payload.length < 2 ^ 16 := hreadable ▸ frame.size.toNat_lt
  have hnext : l.accepted.length = position + skip := by
    rw [hposition, after_add, after_eq_after_iff] at hseq
    unfold InTime at hage
    omega
  have hstep : l.step state (.deliver index skip count) =
      { l with accepted := l.accepted ++ (frame.payload.drop skip).take count } := by
    dsimp only [Link.step]
    rw [hframe]
    rfl
  have hextended := append_isPrefix h.accepted_isPrefix (by omega) hpayload
  rw [hnext, Nat.add_sub_cancel_left] at hextended
  have hprefix : l.accepted ++ (frame.payload.drop skip).take count <+:
      l.accepted ++ frame.payload.drop skip :=
    (List.prefix_append_right_inj l.accepted).mpr (List.take_prefix _ _)
  have hlength : (l.accepted ++ (frame.payload.drop skip).take count).length ≤
      position + frame.payload.length := by
    rw [List.length_append, hnext, List.length_take, List.length_drop]
    omega
  have hgrows : l.accepted.length ≤ (l.accepted ++ (frame.payload.drop skip).take count).length :=
    (List.prefix_append _ _).length_le
  rw [hstep]
  refine ⟨h.outbound, h.acked_le, h.le_accepted.trans hgrows, hlength.trans (by omega),
    hprefix.trans hextended, h.length_eq, fun i frame' sentAt' hframe' hsentAt' => ?_⟩
  obtain ⟨position', hcarry, hle₁, hle₂, hle₃, hle₄⟩ := h.frames i frame' sentAt' hframe' hsentAt'
  exact ⟨position', hcarry, hle₁, hle₂, hle₃, hle₄.trans hgrows⟩

/-! ## Runs -/

/-- The exception of a call that loses no position. -/
theorem not_isPositionError {r : EStateM.Result Exception Network PUnit} {stream : List UInt8}
    {sent : List ServerFrame} (h : Safe base stream acked sent r) {e : Exception}
    (he : outcome r = .error e) : ¬ IsPositionError e := by
  cases r with
  | ok a w => cases he
  | error e' w =>
      obtain rfl := Except.error.inj he
      exact h.2

theorem outbound_finalState {r : EStateM.Result Exception Network PUnit} {stream : List UInt8}
    {sent : List ServerFrame} (h : Safe base stream acked sent r) :
    Outbound base stream acked sent (finalState r) := by
  cases r with
  | ok a w => exact h
  | error e w => exact h.1

/-- Every call of the server is safe, at an acknowledged position between the
old one and the client's. -/
theorem exists_safe (state : ServerState) (h : Consistent base acked l) {lifetime : Nat → Prop} {action : Action}
    (haction : Permitted base lifetime l action) {event : Event} (hevent : action.event = some event) :
    ∃ acked', acked ≤ acked' ∧ acked' ≤ (l.step state action).acked ∧
      Safe base (l.step state action).stream acked' l.net.sent
        ((perform state event).run l.net) := by
  cases action with
  | sendRaw data =>
      obtain rfl := Option.some.inj hevent
      exact ⟨acked, Nat.le_refl acked, h.acked_le, safe_sendRaw h.outbound data⟩
  | recvRaw size =>
      obtain rfl := Option.some.inj hevent
      exact ⟨acked, Nat.le_refl acked, h.acked_le, safe_recvRaw h.outbound size⟩
  | resendPushTimer =>
      obtain rfl := Option.some.inj hevent
      exact ⟨acked, Nat.le_refl acked, h.acked_le, safe_onResendPushTimer h.outbound⟩
  | pushSent =>
      obtain rfl := Option.some.inj hevent
      exact ⟨acked, Nat.le_refl acked, h.acked_le, safe_finishPush h.outbound⟩
  | ack randomSeq serverPort fi n =>
      obtain rfl := Option.some.inj hevent
      obtain ⟨hfi, hnum, hge, hle⟩ := haction
      have hnear := h.accepted_le
      exact safe_onClientTcpFrame h.outbound rfl hfi hnum (h.acked_le.trans hge)
        (hle.trans h.accepted_isPrefix.length_le) (by omega) randomSeq serverPort
  | deliver index skip count => cases hevent

theorem exists_consistent_step (h : Consistent base acked l) {action : Action}
    (haction : Permitted base InTime l action) :
    ∃ acked', Consistent base acked' (l.step state action) := by
  have hserver : ∀ {event : Event}, action.event = some event →
      (∃ data last, l.step state action =
        { l.advance (next state l.net event) with stream := l.stream ++ data, acked := last } ∧
        last ≤ l.accepted.length) → ∃ acked', Consistent base acked' (l.step state action) := by
    rintro event hevent ⟨data, last, hstep, hle⟩
    obtain ⟨acked', hge, hlast, hsafe⟩ := exists_safe state h haction hevent
    rw [hstep] at hlast hsafe ⊢
    exact ⟨acked', h.advance (outbound_finalState hsafe) hge hlast hle⟩
  cases action with
  | sendRaw data => exact hserver rfl ⟨data, l.acked, rfl, h.le_accepted⟩
  | recvRaw size => exact hserver rfl ⟨[], l.acked, by rw [List.append_nil]; rfl, h.le_accepted⟩
  | resendPushTimer =>
      exact hserver rfl ⟨[], l.acked, by rw [List.append_nil]; rfl, h.le_accepted⟩
  | pushSent => exact hserver rfl ⟨[], l.acked, by rw [List.append_nil]; rfl, h.le_accepted⟩
  | ack randomSeq serverPort fi n =>
      exact hserver rfl ⟨[], n, by rw [List.append_nil]; rfl, haction.2.2.2⟩
  | deliver index skip count => exact ⟨acked, h.deliver count haction⟩

theorem exists_consistent (h : Reaches state base InTime l) : ∃ acked, Consistent base acked l := by
  induction h with
  | opened hopen => exact ⟨0, consistent_opened hopen⟩
  | step action _ haction ih =>
      obtain ⟨acked, hconsistent⟩ := ih
      exact exists_consistent_step hconsistent haction

/-- In every state that is reached the queue is what follows the acknowledged
position, every frame carries the stream at its sequence number, the client has
accepted a beginning of the stream, and no call loses a position. -/
theorem accepted_isPrefix (h : Reaches state base InTime l) :
    (∃ conn acked, l.net.conn = some conn ∧
      conn.outboundDataBytes = (conn.outboundData.map List.length).sum ∧
      acked ≤ l.stream.length ∧ conn.ackedServerSeq = base + .ofNat acked ∧
      conn.outboundData.flatten = l.stream.drop acked) ∧
    (∀ frame ∈ l.net.sent, ∃ position, frame.seqNum = base + .ofNat position ∧
      frame.payload <+: l.stream.drop position) ∧
    l.accepted <+: l.stream ∧
    ∀ action event e, Permitted base InTime l action → action.event = some event →
      outcome ((perform state event).run l.net) = .error e → ¬ IsPositionError e := by
  obtain ⟨acked, hconsistent⟩ := exists_consistent h
  obtain ⟨conn, hconn, hsends⟩ := hconsistent.outbound.exists_conn
  refine ⟨⟨conn, acked, hconn, ?_, hsends.acked_le, hsends.ackedServerSeq, hsends.flatten⟩,
    fun frame hframe => ?_, hconsistent.accepted_isPrefix, fun action event e haction hevent he => ?_⟩
  · rw [← List.length_flatten, hsends.flatten, List.length_drop, hsends.outboundDataBytes]
  · obtain ⟨i, hi⟩ := List.mem_iff_getElem?.mp hframe
    obtain ⟨hlt, -⟩ := List.getElem?_eq_some_iff.mp hi
    obtain ⟨sentAt, hsentAt⟩ : ∃ sentAt, l.sentAt[i]? = some sentAt :=
      ⟨_, List.getElem?_eq_getElem (hconsistent.length_eq ▸ hlt)⟩
    obtain ⟨position, hcarry, -⟩ := hconsistent.frames i frame sentAt hi hsentAt
    exact ⟨position, hcarry⟩
  · obtain ⟨acked', -, -, hsafe⟩ := exists_safe state hconsistent haction hevent
    exact not_isPositionError hsafe he

def sampleState : ServerState := ⟨.ethernetTapserver, fun _ => true, true⟩

def openConn : TCPConnection :=
  { serverChannel := some {}
    awaitingFirstAck := false
    serverPort := 9100
    nextClientSeq := 1
    ackedServerSeq := 0
    nextPushMaxFrameSize := 1024
    maxFrameSize := 1024 }

/-- A push of three bytes, of which the client has taken two. -/
def sampleLink : Link :=
  (((⟨{ conn := some openConn }, [], [], [], 0⟩ : Link).step sampleState (.sendRaw [1, 2, 3])).step
    sampleState .resendPushTimer).step sampleState (.deliver 0 0 2)

theorem reaches_sampleLink : Reaches sampleState 0 InTime sampleLink := by
  have hopen : IsOpen 0 { conn := some openConn } := ⟨rfl, openConn, rfl, rfl, rfl, rfl, rfl, rfl⟩
  refine .step _ (.step _ (.step _ (.opened hopen) trivial) trivial) ?_
  exact ⟨_, _, rfl, rfl, rfl, Nat.zero_le _, rfl, by unfold InTime; decide⟩

theorem accepted_sampleLink :
    sampleLink.accepted = [1, 2] ∧ sampleLink.accepted <+: sampleLink.stream :=
  ⟨rfl, (accepted_isPrefix reaches_sampleLink).2.2.1⟩

/-! ## A frame that is too old -/

/-- A connection that sends a stream in frames of 1024 bytes. -/
def cycleConn (stream : List UInt8) (acked : Nat) : TCPConnection :=
  { serverChannel := some {}
    awaitingFirstAck := false
    serverPort := 9100
    nextClientSeq := 1
    ackedServerSeq := after 0 acked
    nextPushMaxFrameSize := 1024
    maxFrameSize := 1024
    outboundDataBytes := stream.length - acked
    outboundData := [stream.drop acked]
    resendPushTimer := true }

def cycleFrame (stream : List UInt8) (acked : Nat) : ServerFrame :=
  { size := .ofNat (40 + ((stream.drop acked).take 1024).length)
    seqNum := after 0 acked
    ackNum := 1
    flags := 0x5018
    payload := (stream.drop acked).take 1024 }

def cycleLink (stream : List UInt8) (acked : Nat) (sent : List ServerFrame) (sentAt : List Nat)
    (sendingPushes : Nat) : Link :=
  { net := { conn := some (cycleConn stream acked), sent, sendingPushes }
    sentAt
    stream
    accepted := stream.take acked
    acked }

variable {stream : List UInt8} {sent : List ServerFrame} {sentAt : List Nat} {pushes n : Nat}

/-- A push from a queue of one block. -/
theorem run_push (state : ServerState) {w : Network} (conn : TCPConnection) {block : List UInt8}
    (bytes : Nat) (hconn : w.conn = some conn) (hdata : conn.outboundData = [block])
    (hbytes : bytesToSend state conn = bytes) (hpos : conn.outboundDataBytes ≠ 0)
    (hle : bytes ≤ block.length) :
    (sendPendingPushFrame state).run w = .ok ⟨⟩
      { w with
        conn := some conn
        sent := w.sent ++ [
          { size := .ofNat (40 + (block.take bytes).length)
            seqNum := conn.ackedServerSeq
            ackNum := conn.nextClientSeq
            flags := 0x5018
            payload := block.take bytes }]
        sendingPushes := w.sendingPushes + 1 } := by
  have hsame : { conn with outboundData := linearizeOutboundData bytes conn.outboundData } = conn := by
    cases conn
    dsimp only at hdata
    rw [hdata]
    rfl
  unfold sendPendingPushFrame
  rw [run_getConn_bind hconn, if_neg hpos, hbytes]
  dsimp only
  rw [hsame, run_setConn_bind, hdata]
  dsimp only [linearizeOutboundData, linearizeFront]
  rw [if_neg (Nat.not_lt.mpr hle)]
  rfl

/-- The connection while a push is on its way. -/
def pushedConn (stream : List UInt8) (acked : Nat) : TCPConnection :=
  { cycleConn stream acked with resendPushTimer := false }

/-- The state after a push, of whose frame the client has accepted so much. -/
def pushedLink (stream : List UInt8) (acked count : Nat) (sent : List ServerFrame)
    (sentAt : List Nat) (sendingPushes : Nat) : Link :=
  { net :=
      { conn := some (pushedConn stream acked)
        sent := sent ++ [cycleFrame stream acked]
        sendingPushes := sendingPushes + 1 }
    sentAt := sentAt ++ [acked]
    stream
    accepted := stream.take (acked + count)
    acked }

theorem step_push (h : n + 1024 < stream.length) :
    (cycleLink stream n sent sentAt pushes).step sampleState .resendPushTimer =
      pushedLink stream n 0 sent sentAt pushes := by
  have hrun := run_push sampleState (pushedConn stream n) 1024
    (w := { conn := some (pushedConn stream n), sent, sendingPushes := pushes }) rfl rfl
    (by change min (stream.length - n) 1024 = 1024; omega)
    (by change stream.length - n ≠ 0; omega)
    (by rw [List.length_drop]; omega)
  have hnext : next sampleState (cycleLink stream n sent sentAt pushes).net .resendPushTimer =
      (pushedLink stream n 0 sent sentAt pushes).net := congrArg finalState hrun
  have hlength : (stream.take n).length = n := by
    rw [List.length_take]
    omega
  have hsent : (sent ++ [cycleFrame stream n]).length - sent.length = 1 := by
    rw [List.length_append, Nat.add_sub_cancel_left]
    rfl
  change Link.advance _ (next _ _ _) = _
  rw [hnext]
  unfold Link.advance
  change (⟨_, sentAt ++ List.replicate ((sent ++ [cycleFrame stream n]).length - sent.length)
    (stream.take n).length, _, _, _⟩ : Link) = _
  rw [hsent, hlength]
  rfl

theorem step_deliver :
    (pushedLink stream n 0 sent sentAt pushes).step sampleState (.deliver sent.length 0 1024) =
      pushedLink stream n 1024 sent sentAt pushes := by
  have hframe : (sent ++ [cycleFrame stream n])[sent.length]? = some (cycleFrame stream n) := by
    rw [List.getElem?_append_right (Nat.le_refl _), Nat.sub_self]
    rfl
  have haccepted : stream.take (n + 0) ++ (((stream.drop n).take 1024).drop 0).take 1024 =
      stream.take (n + 1024) := by
    rw [Nat.add_zero, List.drop_zero, List.take_take, Nat.min_self, List.take_add]
  dsimp only [Link.step, pushedLink]
  rw [hframe]
  dsimp only [Option.map_some, Option.getD_some, cycleFrame]
  rw [haccepted]

def cycleAck (n : Nat) : ClientFrame := ⟨1, after 0 (n + 1024), 0x5010, 1400, []⟩

theorem flags_cycleAck (n : Nat) : (cycleAck n).flags = 0x5010 := rfl

theorem isDataFrame_cycleAck (n : Nat) : IsDataFrame (cycleAck n) := by
  unfold IsDataFrame
  rw [flags_cycleAck]
  decide

theorem run_readAckNum_cycle (h : n + 1024 < stream.length) {w : Network}
    (hconn : w.conn = some (pushedConn stream n)) :
    (readAckNum (after 0 (n + 1024))).run w =
      .ok true { w with conn := some (pushedConn stream (n + 1024)) } := by
  have hgreater : seqNumGreater (after 0 (n + 1024)) (after 0 n) = true :=
    seqNumLess_of_lt 0 (by omega) (by omega)
  have hdelta : (after 0 (n + 1024) - after 0 n).toNat = 1024 := by
    rw [toNat_sub_of_le 0 (by omega) (by omega)]
    omega
  have hdrain : drainBlocks 1024 [stream.drop n] = (0, [stream.drop (n + 1024)]) := by
    rw [drainBlocks_of_lt _ _ (by rw [List.length_drop]; omega), List.drop_drop]
  have hacked : after 0 n + (after 0 (n + 1024) - after 0 n) = after 0 (n + 1024) := by
    rw [UInt32.add_comm, UInt32.sub_add_cancel]
  have hbytes : stream.length - n - 1024 = stream.length - (n + 1024) := Nat.sub_sub _ _ _
  have hset : (advanceAckedSeq (after 0 (n + 1024) - after 0 n)).run
      { w with conn := some (pushedConn stream n) } =
      .ok true { w with conn := some (pushedConn stream (n + 1024)) } := by
    unfold advanceAckedSeq
    rw [run_getConn_bind rfl, hdelta]
    have hle : ¬ (pushedConn stream n).outboundDataBytes < 1024 := by
      change ¬ stream.length - n < 1024
      omega
    rw [if_neg hle]
    dsimp only [pushedConn, cycleConn]
    rw [hdrain, hacked, hbytes]
    rfl
  unfold readAckNum
  rw [run_getConn_bind hconn]
  change ((if seqNumGreater (after 0 (n + 1024)) (after 0 n) then
    advanceAckedSeq (after 0 (n + 1024) - after 0 n) else _ : Handler Bool)).run
      { w with conn := some (pushedConn stream n) } = _
  rw [if_pos hgreater, hset]

theorem step_ack (h : n + 1024 < stream.length) :
    (pushedLink stream n 1024 sent sentAt pushes).step sampleState
        (.ack 0 0 (cycleAck n) (n + 1024)) =
      cycleLink stream (n + 1024) (sent ++ [cycleFrame stream n]) (sentAt ++ [n]) (pushes + 1) := by
  have hread := run_readAckNum_cycle h
    (w := (pushedLink stream n 1024 sent sentAt pushes).net) rfl
  have honAck : (onAck sampleState (cycleAck n)).run
      (pushedLink stream n 1024 sent sentAt pushes).net =
      .ok true { (pushedLink stream n 1024 sent sentAt pushes).net with
        conn := some (pushedConn stream (n + 1024)) } := by
    change (readAckNum (after 0 (n + 1024)) >>= fun changed => _).run _ = _
    rw [run_bind_of_ok hread]
    rfl
  have hrun : (onClientTcpFrame sampleState 0 0 (cycleAck n)).run
      (pushedLink stream n 1024 sent sentAt pushes).net = .ok ⟨⟩
        { (pushedLink stream n 1024 sent sentAt pushes).net with
          conn := some (cycleConn stream (n + 1024)) } := by
    have hack : hasFlag 0x5010 .ack = true := by decide
    have hsyn : ¬ hasFlag 0x5010 .syn = true := by decide
    have hother : ¬ (hasFlag 0x5010 .ns || hasFlag 0x5010 .cwr || hasFlag 0x5010 .ece ||
        hasFlag 0x5010 .urg) = true := by decide
    unfold onClientTcpFrame
    rw [flags_cycleAck, if_neg hother, if_neg hsyn, hack, run_get_bind]
    change (onAck sampleState (cycleAck n) >>= fun changed => onData changed (cycleAck n)).run _ = _
    rw [run_bind_of_ok honAck]
    unfold onData
    rw [flags_cycleAck]
    rfl
  have hnext : next sampleState (pushedLink stream n 1024 sent sentAt pushes).net
      (.clientFrame 0 0 (cycleAck n)) = _ := congrArg finalState hrun
  dsimp only [Link.step, Link.advance]
  rw [hnext]
  change (⟨_, (sentAt ++ [n]) ++ List.replicate ((sent ++ [cycleFrame stream n]).length -
    (sent ++ [cycleFrame stream n]).length) _, _, _, _⟩ : Link) = _
  rw [Nat.sub_self, List.replicate_zero, List.append_nil]
  rfl

/-- One round takes the connection 1024 bytes further. -/
theorem reaches_cycle (hlt : n + 1024 < stream.length) (hlength : sentAt.length = sent.length)
    (h : Reaches sampleState 0 (fun _ => True) (cycleLink stream n sent sentAt pushes)) :
    Reaches sampleState 0 (fun _ => True)
      (cycleLink stream (n + 1024) (sent ++ [cycleFrame stream n]) (sentAt ++ [n])
        (pushes + 1)) := by
  have hpush := h.step .resendPushTimer trivial
  rw [step_push hlt] at hpush
  have hpayload : ((stream.drop n).take 1024).length = 1024 := by
    rw [List.length_take, List.length_drop]
    omega
  have hdeliver := hpush.step (.deliver sent.length 0 1024) <| by
    refine ⟨cycleFrame stream n, n, ?_, ?_, ?_, Nat.zero_le _, ?_, trivial⟩
    · change (sent ++ [cycleFrame stream n])[sent.length]? = _
      rw [List.getElem?_append_right (Nat.le_refl _), Nat.sub_self]
      rfl
    · change (sentAt ++ [n])[sent.length]? = _
      rw [← hlength, List.getElem?_append_right (Nat.le_refl _), Nat.sub_self]
      rfl
    · change (UInt16.ofNat (40 + ((stream.drop n).take 1024).length)).toNat =
        40 + ((stream.drop n).take 1024).length
      rw [hpayload]
      rfl
    · change after 0 n + UInt32.ofNat 0 = after 0 (stream.take n).length
      rw [after_add, Nat.add_zero, List.length_take, Nat.min_eq_left (by omega)]
  rw [step_deliver] at hdeliver
  have hack := hdeliver.step (.ack 0 0 (cycleAck n) (n + 1024)) <| by
    refine ⟨isDataFrame_cycleAck n, rfl, Nat.le_add_right n 1024, ?_⟩
    change n + 1024 ≤ (stream.take (n + 1024)).length
    rw [List.length_take]
    omega
  rw [step_ack hlt] at hack
  exact hack

theorem reaches_start (stream : List UInt8) :
    Reaches sampleState 0 (fun _ => True) (cycleLink stream 0 [] [] 0) := by
  have hopen : IsOpen 0 { conn := some openConn } := ⟨rfl, openConn, rfl, rfl, rfl, rfl, rfl, rfl⟩
  have hopened : Reaches sampleState 0 (fun _ => True) { net := { conn := some openConn } } :=
    .opened hopen
  have hsend := hopened.step (.sendRaw stream) trivial
  have hstart : (⟨{ conn := some openConn }, [], [], [], 0⟩ : Link).step sampleState (.sendRaw stream) =
      cycleLink stream 0 [] [] 0 := by
    have hbytes : openConn.outboundDataBytes + stream.length = stream.length - 0 := Nat.zero_add _
    have hrun : next sampleState { conn := some openConn } (.sendRaw stream) =
        (cycleLink stream 0 [] [] 0).net := by
      change (⟨some { openConn with
        outboundDataBytes := openConn.outboundDataBytes + stream.length
        outboundData := openConn.outboundData ++ [stream]
        resendPushTimer := true }, [], [], 0⟩ : Network) = _
      rw [hbytes]
      rfl
    dsimp only [Link.step, Link.advance]
    rw [hrun]
    rfl
  rw [hstart] at hsend
  exact hsend

/-- After some rounds the first frame can still be delivered. -/
theorem exists_cycle (stream : List UInt8) (rounds : Nat) (h : 1024 * (rounds + 1) < stream.length) :
    ∃ sent sentAt pushes, sentAt.length = sent.length ∧
      Reaches sampleState 0 (fun _ => True) (cycleLink stream (1024 * (rounds + 1))
        (cycleFrame stream 0 :: sent) (0 :: sentAt) pushes) := by
  induction rounds with
  | zero => exact ⟨[], [], 1, rfl, reaches_cycle h rfl (reaches_start stream)⟩
  | succ rounds ih =>
      obtain ⟨sent, sentAt, pushes, hlength, hreaches⟩ := ih (by omega)
      have hlength' : (0 :: sentAt).length = (cycleFrame stream 0 :: sent).length :=
        congrArg Nat.succ hlength
      refine ⟨sent ++ [cycleFrame stream (1024 * (rounds + 1))],
        sentAt ++ [1024 * (rounds + 1)], pushes + 1, ?_, reaches_cycle h hlength' hreaches⟩
      rw [List.length_append, List.length_append, hlength]
      rfl

/-- A frame that is delivered once all sequence numbers were used brings its
first byte again. -/
theorem exists_wrapped (rounds : Nat) (hrounds : 1024 * (rounds + 1) = 2 ^ 32) :
    ∃ l, Reaches sampleState 0 (fun _ => True) l ∧ ¬ l.accepted <+: l.stream := by
  obtain ⟨zeros, hzeros⟩ : ∃ zeros, zeros = 1024 * (rounds + 1) := ⟨_, rfl⟩
  obtain ⟨stream, hstream⟩ : ∃ stream : List UInt8, stream = List.replicate zeros 0 ++ [1] :=
    ⟨_, rfl⟩
  have hlength : stream.length = zeros + 1 := by
    rw [hstream, List.length_append, List.length_replicate]
    rfl
  have htake : stream.take zeros = List.replicate zeros 0 := by
    rw [hstream, List.take_left' List.length_replicate]
  obtain ⟨sent, sentAt, pushes, -, hreaches⟩ := exists_cycle stream rounds (by omega)
  rw [← hzeros] at hreaches
  have hpayload : ((stream.drop 0).take 1024).length = 1024 := by
    rw [List.length_take, List.length_drop]
    omega
  have hdeliver := hreaches.step (.deliver 0 0 1) <| by
    refine ⟨cycleFrame stream 0, 0, rfl, rfl, ?_, Nat.zero_le _, ?_, trivial⟩
    · change (UInt16.ofNat (40 + ((stream.drop 0).take 1024).length)).toNat =
        40 + ((stream.drop 0).take 1024).length
      rw [hpayload]
      rfl
    · change after 0 0 + UInt32.ofNat 0 = after 0 (stream.take zeros).length
      rw [htake, List.length_replicate, after_add, after_eq_after_iff]
      omega
  refine ⟨_, hdeliver, fun hprefix => ?_⟩
  have hfirst : (((stream.drop 0).take 1024).drop 0).take 1 = [0] := by
    obtain ⟨rest, hrest⟩ : ∃ rest, zeros = rest + 1 := ⟨zeros - 1, by omega⟩
    rw [hstream, hrest, List.replicate_succ]
    rfl
  have haccepted : stream.take zeros ++ (((stream.drop 0).take 1024).drop 0).take 1 <+: stream :=
    hprefix
  rw [hfirst, htake, hstream, List.prefix_append_right_inj] at haccepted
  exact absurd haccepted (by decide)

/-- Without a limit on the age of frames the client may accept what the server
did not send. -/
theorem exists_not_isPrefix :
    ∃ l, Reaches sampleState 0 (fun _ => True) l ∧ ¬ l.accepted <+: l.stream :=
  exists_wrapped 4194303 (by decide)

end HuntersGuild.VirtualTcpDelivery
