import HuntersGuild.ByteStreams
import HuntersGuild.SequenceNumbers
import HuntersGuild.StatefulPrograms

/-!
A TCP connection of a virtual network: the frames of the client, the channel
through which a game server reads and sends, and the pushes to the client.
-/

namespace HuntersGuild.VirtualTcp

open HuntersGuild.ByteStreams
open HuntersGuild.StatefulPrograms
open HuntersGuild.SequenceNumbers

/-! ## Frames -/

inductive Flag where
  | ns
  | cwr
  | ece
  | urg
  | ack
  | psh
  | rst
  | syn
  | fin
  deriving DecidableEq

def Flag.value : Flag → UInt16
  | .ns => 0x0100
  | .cwr => 0x0080
  | .ece => 0x0040
  | .urg => 0x0020
  | .ack => 0x0010
  | .psh => 0x0008
  | .rst => 0x0004
  | .syn => 0x0002
  | .fin => 0x0001

def hasFlag (flags : UInt16) (flag : Flag) : Bool := flags &&& flag.value ≠ 0

/-- A TCP frame of the client. The largest frame is what its options say. -/
structure ClientFrame where
  seqNum : UInt32
  ackNum : UInt32
  flags : UInt16
  maxFrameSize : Nat := 1400
  payload : List UInt8 := []
  deriving DecidableEq

/-- A TCP frame to the client, with the size that its IPv4 header gives. -/
structure ServerFrame where
  size : UInt16
  seqNum : UInt32
  ackNum : UInt32
  flags : UInt16
  payload : List UInt8
  deriving DecidableEq

def seqNumLess (a b : UInt32) : Bool := (a - b) &&& 0x80000000 ≠ 0

def seqNumLessOrEqual (a b : UInt32) : Bool := a = b ∨ seqNumLess a b

def seqNumGreater (a b : UInt32) : Bool := (b - a) &&& 0x80000000 ≠ 0

theorem seqNumLess_of_le (base : UInt32) {n m : Nat} (h : m ≤ n) (hlt : n - m < 2 ^ 31) :
    seqNumLess (after base n) (after base m) = false :=
  decide_eq_false (not_not.mpr (highBit_sub_of_le base h hlt))

theorem seqNumLess_of_lt (base : UInt32) {n m : Nat} (h : n < m) (hle : m - n ≤ 2 ^ 31) :
    seqNumLess (after base n) (after base m) = true :=
  decide_eq_true (highBit_sub_of_lt base h hle)

/-- From half the number space on, what is ahead counts as behind. -/
theorem seqNumLess_of_far (base : UInt32) {n m : Nat} (h : m + 2 ^ 31 ≤ n) (hlt : n - m < 2 ^ 32) :
    seqNumLess (after base n) (after base m) = true := by
  refine decide_eq_true ((highBit_iff _).mpr ?_)
  rw [toNat_sub_of_le base (by omega) hlt]
  omega

/-! ## State -/

/-- `recvBuf` is the number of bytes for which a call of `recv_raw` waits. -/
structure IPSSChannel where
  connected : Bool := true
  inboundData : List (List UInt8) := []
  recvBuf : Option Nat := none
  deriving DecidableEq

def defaultResendPushUsecs : Nat := 200000

/-- `resendPushTimer` says whether a push is scheduled. -/
structure TCPConnection where
  serverChannel : Option IPSSChannel := none
  awaitingFirstAck : Bool := true
  awaitingAck : Bool := false
  serverPort : UInt16
  nextClientSeq : UInt32
  ackedServerSeq : UInt32
  resendPushUsecs : Nat := defaultResendPushUsecs
  nextPushMaxFrameSize : Nat
  maxFrameSize : Nat
  bytesReceived : Nat := 0
  outboundDataBytes : Nat := 0
  outboundData : List (List UInt8) := []
  resendPushTimer : Bool := false
  deriving DecidableEq

inductive VirtualNetworkProtocol where
  | ethernetTapserver
  | hdlcTapserver
  | hdlcRaw
  deriving DecidableEq

/-- What the handlers read of the server. -/
structure ServerState where
  protocol : VirtualNetworkProtocol
  isPortConfigured : UInt16 → Bool
  hasGameServer : Bool

/-- One connection of a client, if there is one, the frames that were sent on
it, the bytes that `recv_raw` copied, and the number of pushes whose frames are
still being sent. -/
structure Network where
  conn : Option TCPConnection := none
  sent : List ServerFrame := []
  received : List UInt8 := []
  sendingPushes : Nat := 0
  deriving DecidableEq

abbrev Handler (α : Type) := EStateM Exception Network α

/-! ## Outbound data -/

/-- The blocks that are left, and the number of bytes that were missing. -/
def drainBlocks : Nat → List (List UInt8) → Nat × List (List UInt8)
  | size, [] => (size, [])
  | 0, blocks => (0, blocks)
  | size, front :: blocks =>
    if front.length ≤ size then drainBlocks (size - front.length) blocks
    else (0, front.drop size :: blocks)

def linearizeFront (size : Nat) (front : List UInt8) : List (List UInt8) → List (List UInt8)
  | [] => [front]
  | second :: blocks =>
    if front.length < size then linearizeFront size (front ++ second) blocks
    else front :: second :: blocks

def linearizeOutboundData (size : Nat) : List (List UInt8) → List (List UInt8)
  | [] => []
  | front :: blocks => linearizeFront size front blocks

/-! ## Channels -/

/-- The channel with more data, and what was copied to a waiting reader. -/
def IPSSChannel.addInboundData (self : IPSSChannel) (data : List UInt8) :
    IPSSChannel × List UInt8 :=
  let recvBufSize := self.recvBuf.getD 0
  let directSize := min recvBufSize data.length
  let rest := data.drop directSize
  ({ self with
      recvBuf := if recvBufSize - directSize = 0 then none else some (recvBufSize - directSize)
      inboundData := if rest = [] then self.inboundData else self.inboundData ++ [rest] },
    data.take directSize)

/-- The bytes taken from the blocks, how many more are wanted, and the blocks
that are left. -/
def takeInbound : Nat → List (List UInt8) → List UInt8 × Nat × List (List UInt8)
  | 0, blocks => ([], 0, blocks)
  | size, [] => ([], size, [])
  | size, front :: blocks =>
    if front.length ≤ size then
      let (data, left, blocks) := takeInbound (size - front.length) blocks
      (front ++ data, left, blocks)
    else (front.take size, 0, front.drop size :: blocks)

/-! ## Handlers -/

/-- A statement under a condition. -/
def runIf (condition : Bool) (x : Handler PUnit) : Handler PUnit :=
  if condition then x else pure ⟨⟩

/-- The connection that a handler refers to. When it has been erased, the
reference is no longer valid. -/
def getConn : Handler TCPConnection := do
  match (← get).conn with
  | some conn => pure conn
  | none => throw .undefined

theorem run_getConn_bind {α : Type} {w : Network} {conn : TCPConnection}
    (h : w.conn = some conn) (f : TCPConnection → Handler α) :
    (getConn >>= f).run w = (f conn).run w := by
  refine run_bind_of_ok ?_
  unfold getConn
  rw [run_get_bind, h]
  rfl

def setConn (conn : TCPConnection) : Handler PUnit :=
  modify fun w => { w with conn := some conn }

theorem run_setConn_bind {α : Type} (conn : TCPConnection) (f : PUnit → Handler α) (w : Network) :
    (setConn conn >>= f).run w = (f ⟨⟩).run { w with conn := some conn } := rfl

def addReceived (data : List UInt8) : Handler PUnit :=
  modify fun w => { w with received := w.received ++ data }

/-- The ACK flag is always added. -/
def sendTcpFrame (flags : UInt16) (payload : Option (List UInt8)) : Handler PUnit := do
  if payload.isSome ≠ hasFlag flags .psh then
    throw (.logicError "data should be given if and only if PSH is given")
  else
    let conn ← getConn
    let data := payload.getD []
    let frame : ServerFrame :=
      { size := .ofNat (40 + data.length)
        seqNum := conn.ackedServerSeq
        ackNum := conn.nextClientSeq
        flags := 0x5000 ||| Flag.ack.value ||| flags
        payload := data }
    modify fun w => { w with sent := w.sent ++ [frame] }

def closeTcpConnection : Handler PUnit := do
  sendTcpFrame Flag.rst.value none
  modify fun w => { w with conn := none }

def scheduleSendPendingPushFrame : Handler PUnit := do
  let conn ← getConn
  setConn { conn with resendPushTimer := true }

def openServerConnection (state : ServerState) : Handler PUnit := do
  let conn ← getConn
  if conn.serverChannel.isSome then
    throw (.logicError "server connection is already open")
  else if !state.isPortConfigured conn.serverPort then
    closeTcpConnection
  else if !state.hasGameServer then do
    setConn { conn with serverChannel := some {} }
    closeTcpConnection
  else
    setConn { conn with serverChannel := some {} }

/-- `drain_outbound_data` and what follows it. -/
def advanceAckedSeq (ackDelta : UInt32) : Handler Bool := do
  let conn ← getConn
  if conn.outboundDataBytes < ackDelta.toNat then
    throw (.runtimeError "client acknowledged beyond end of sent data")
  else
    let (missing, outboundData) := drainBlocks ackDelta.toNat conn.outboundData
    let conn :=
      { conn with outboundData, outboundDataBytes := conn.outboundDataBytes - ackDelta.toNat }
    if 0 < missing then do
      setConn conn
      throw (.logicError "attempted to drain more outbound data than was present")
    else
      setConn
        { conn with
          ackedServerSeq := conn.ackedServerSeq + ackDelta
          resendPushUsecs := defaultResendPushUsecs
          nextPushMaxFrameSize := conn.maxFrameSize }
      return true

/-- Whether the acknowledged position moved. -/
def readAckNum (ackNum : UInt32) : Handler Bool := do
  let conn ← getConn
  if conn.awaitingFirstAck then
    if ackNum ≠ conn.ackedServerSeq + 1 then
      throw (.runtimeError "first ack_num was not acked_server_seq + 1")
    else do
      setConn { conn with ackedServerSeq := conn.ackedServerSeq + 1, awaitingFirstAck := false }
      return false
  else do
    setConn { conn with awaitingAck := false }
    if seqNumGreater ackNum conn.ackedServerSeq then
      advanceAckedSeq (ackNum - conn.ackedServerSeq)
    else if seqNumLess ackNum conn.ackedServerSeq then
      throw (.runtimeError "client sent lower ack num than previous frame")
    else return false

def onAck (state : ServerState) (fi : ClientFrame) : Handler Bool := do
  let ackedSeqChanged ← readAckNum fi.ackNum
  let conn ← getConn
  if conn.serverChannel.isSome then
    return ackedSeqChanged
  else do
    openServerConnection state
    return ackedSeqChanged

/-- How many bytes of a payload are not new, in `size_t`. -/
def payloadSkipBytes (seqNum nextClientSeq : UInt32) (payloadSize : Nat) : Nat :=
  if seqNum = nextClientSeq then 0
  else if seqNumLess seqNum nextClientSeq then
    let endSeq := seqNum + UInt32.ofNat payloadSize
    if seqNumLessOrEqual endSeq nextClientSeq then payloadSize
    else (payloadSize + 2 ^ 64 - (endSeq - nextClientSeq).toNat) % 2 ^ 64
  else payloadSize

/-- The new bytes of a payload go to the channel; a channel that is missing or
disconnected loses them. -/
def acceptPayload (payload : List UInt8) : Handler PUnit := do
  let conn ← getConn
  let conn :=
    { conn with
      nextClientSeq := conn.nextClientSeq + UInt32.ofNat payload.length
      bytesReceived := conn.bytesReceived + payload.length }
  match conn.serverChannel with
  | none => setConn conn
  | some channel =>
    if channel.connected then do
      let (channel, copied) := channel.addInboundData payload
      setConn { conn with serverChannel := some channel }
      addReceived copied
    else setConn conn

def onPayload (fi : ClientFrame) : Handler PUnit := do
  let conn ← getConn
  let skip := payloadSkipBytes fi.seqNum conn.nextClientSeq fi.payload.length
  if fi.payload.length < skip then
    throw (.logicError "payload skip bytes too large")
  else if skip < fi.payload.length then do
    acceptPayload (fi.payload.drop skip)
    sendTcpFrame 0 none
  else sendTcpFrame 0 none

/-- A client's RST or FIN. -/
def onClose (fi : ClientFrame) : Handler PUnit := do
  if hasFlag fi.flags .rst && hasFlag fi.flags .fin then
    throw (.runtimeError "client sent TCP FIN+RST")
  else do
    sendTcpFrame (fi.flags &&& (Flag.rst.value ||| Flag.fin.value)) none
    modify fun w => { w with conn := none }

/-- The sequence number of the server is random. -/
def onSyn (randomSeq : UInt32) (serverPort : UInt16) (fi : ClientFrame) : Handler PUnit := do
  if fi.flags &&& 0x0FFF ≠ Flag.syn.value then
    throw (.runtimeError "TCP SYN contains extra flags")
  else
    match (← get).conn with
    | none => do
      setConn
        { serverPort
          nextClientSeq := fi.seqNum + 1
          ackedServerSeq := randomSeq
          nextPushMaxFrameSize := fi.maxFrameSize
          maxFrameSize := fi.maxFrameSize }
      sendTcpFrame Flag.syn.value none
    | some conn =>
      if conn.awaitingFirstAck then sendTcpFrame Flag.syn.value none
      else throw (.logicError "SYN received on already-open connection after initial phase")

/-- What a frame other than a SYN does once its ACK number was read. -/
def onData (ackedSeqChanged : Bool) (fi : ClientFrame) : Handler PUnit := do
  if hasFlag fi.flags .rst || hasFlag fi.flags .fin then
    onClose fi
  else do
    runIf (!fi.payload.isEmpty) (onPayload fi)
    runIf ackedSeqChanged scheduleSendPendingPushFrame

def onClientTcpFrame (state : ServerState) (randomSeq : UInt32) (serverPort : UInt16)
    (fi : ClientFrame) : Handler PUnit := do
  if hasFlag fi.flags .ns || hasFlag fi.flags .cwr || hasFlag fi.flags .ece ||
      hasFlag fi.flags .urg then
    throw (.runtimeError "unsupported flag in TCP packet")
  else if hasFlag fi.flags .syn then
    onSyn randomSeq serverPort fi
  else
    match (← get).conn with
    | none => return
    | some _ =>
      if hasFlag fi.flags .ack then do
        let ackedSeqChanged ← onAck state fi
        onData ackedSeqChanged fi
      else onData false fi

/-- `recv_raw`, up to where it waits for more data. -/
def recvRaw (size : Nat) : Handler PUnit := do
  let conn ← getConn
  match conn.serverChannel with
  | none => return
  | some channel =>
    if channel.recvBuf.isSome then
      throw (.logicError "recv_raw called again when it was already pending")
    else
      let (data, left, inboundData) := takeInbound size channel.inboundData
      setConn
        { conn with
          serverChannel := some
            { channel with inboundData, recvBuf := if left = 0 then none else some left } }
      addReceived data
      runIf (0 < left && !channel.connected) (throw (.runtimeError "IPSS channel closed"))

def sendRaw (data : List UInt8) : Handler PUnit := do
  match (← get).conn with
  | none => return
  | some conn => do
    setConn
      { conn with
        outboundDataBytes := conn.outboundDataBytes + data.length
        outboundData := conn.outboundData ++ [data] }
    runIf (!conn.awaitingAck) scheduleSendPendingPushFrame

def bytesToSend (state : ServerState) (conn : TCPConnection) : Nat :=
  let bytes := min conn.outboundDataBytes conn.nextPushMaxFrameSize
  if state.protocol = .hdlcTapserver then min bytes 200 else bytes

/-- `send_pending_push_frame`, up to where it waits for its frame to be sent. -/
def sendPendingPushFrame (state : ServerState) : Handler PUnit := do
  let conn ← getConn
  if conn.outboundDataBytes = 0 then
    if conn.serverChannel.any (·.connected) then return else closeTcpConnection
  else
    let bytes := bytesToSend state conn
    let outboundData := linearizeOutboundData bytes conn.outboundData
    setConn { conn with outboundData }
    match outboundData with
    | [] => throw (.logicError "failed to linearize enough bytes before sending TCP PSH")
    | front :: _ =>
      if front.length < bytes then
        throw (.logicError "failed to linearize enough bytes before sending TCP PSH")
      else do
        sendTcpFrame Flag.psh.value (some (front.take bytes))
        modify fun w => { w with sendingPushes := w.sendingPushes + 1 }

/-- The rest of `send_pending_push_frame`. The largest size is a `size_t`. -/
def TCPConnection.backOff (self : TCPConnection) : TCPConnection :=
  { self with
    awaitingAck := true
    resendPushTimer := true
    resendPushUsecs := min (self.resendPushUsecs * 2) 5000000
    nextPushMaxFrameSize := max 0x100 ((self.nextPushMaxFrameSize + 2 ^ 64 - 0x100) % 2 ^ 64) }

def finishPush : Handler PUnit :=
  modify fun w => { w with conn := w.conn.map (·.backOff), sendingPushes := w.sendingPushes - 1 }

/-- The timer has no effect once the connection is gone. -/
def onResendPushTimer (state : ServerState) : Handler PUnit := do
  match (← get).conn with
  | none => return
  | some conn =>
    if conn.resendPushTimer then do
      setConn { conn with resendPushTimer := false }
      sendPendingPushFrame state
    else return

/-! ## Events -/

/-- What can happen on a connection between two points where the server waits.
A frame of the client meets the random number of the moment. -/
inductive Event where
  | clientFrame (randomSeq : UInt32) (serverPort : UInt16) (fi : ClientFrame)
  | recvRaw (size : Nat)
  | sendRaw (data : List UInt8)
  | resendPushTimer
  | pushSent
  deriving DecidableEq

def perform (state : ServerState) : Event → Handler PUnit
  | .clientFrame randomSeq serverPort fi => onClientTcpFrame state randomSeq serverPort fi
  | .recvRaw size => recvRaw size
  | .sendRaw data => sendRaw data
  | .resendPushTimer => onResendPushTimer state
  | .pushSent => finishPush

/-- Exceptions are caught where frames are received. -/
def next (state : ServerState) (w : Network) (event : Event) : Network :=
  finalState ((perform state event).run w)

def HasChannel (w : Network) : Prop :=
  ∃ conn ∈ w.conn, conn.serverChannel.isSome = true

/-- The frames that a client sends on an open connection. -/
def IsDataFrame (fi : ClientFrame) : Prop :=
  hasFlag fi.flags .ack = true ∧ hasFlag fi.flags .syn = false ∧ hasFlag fi.flags .rst = false ∧
    hasFlag fi.flags .fin = false

end HuntersGuild.VirtualTcp
