import HuntersGuild.StringReaders

/-!
The headers of a frame on a virtual network, and how a frame is taken apart.
-/

namespace HuntersGuild.NetworkFrames

open HuntersGuild.ByteStreams
open HuntersGuild.ExceptionRules
open HuntersGuild.StringReaders
open HuntersGuild.WordBytes

/-! ## Headers -/

inductive LinkType where
  | ethernet
  | hdlc
  deriving DecidableEq

inductive Protocol where
  | none
  | lcp
  | pap
  | ipcp
  | ipv4
  | arp
  deriving DecidableEq

structure HDLCHeader where
  startSentinel1 : UInt8
  address : UInt8
  control : UInt8
  protocol : UInt16
  deriving DecidableEq

structure LCPHeader where
  command : UInt8
  requestId : UInt8
  size : UInt16
  deriving DecidableEq

/-- `PAPHeader` and `IPCPHeader` have the fields of an `LCPHeader`. -/
abbrev PAPHeader := LCPHeader

abbrev IPCPHeader := LCPHeader

structure EthernetHeader where
  destMac : Parray 6
  srcMac : Parray 6
  protocol : UInt16
  deriving DecidableEq

structure ARPHeader where
  hardwareType : UInt16
  protocolType : UInt16
  hwaddrLen : UInt8
  paddrLen : UInt8
  operation : UInt16
  deriving DecidableEq

structure IPv4Header where
  versionIhl : UInt8
  tos : UInt8
  size : UInt16
  id : UInt16
  fragOffset : UInt16
  ttl : UInt8
  protocol : UInt8
  checksum : UInt16
  srcAddr : UInt32
  destAddr : UInt32
  deriving DecidableEq

structure UDPHeader where
  srcPort : UInt16
  destPort : UInt16
  size : UInt16
  checksum : UInt16
  deriving DecidableEq

structure TCPHeader where
  srcPort : UInt16
  destPort : UInt16
  seqNum : UInt32
  ackNum : UInt32
  flags : UInt16
  window : UInt16
  checksum : UInt16
  urgentPtr : UInt16
  deriving DecidableEq

/-! ## Reading -/

def getU16b : Reader UInt16 := do
  let word ← getParray 2
  return .ofNat (fromBigEndian word.bytes)

def putU16b (v : UInt16) : List UInt8 := bigEndian 2 v.toNat

def skip (bytes : Nat) : Reader Unit := fun r =>
  if bytes ≤ r.remaining.length then .ok ((), ⟨r.remaining.drop bytes, r.offset + bytes⟩)
  else .error (.outOfRange "skip beyond end of string")

/-- `getv`: as many bytes as there are to be. -/
def getv (size : Nat) : Reader (List UInt8) := fun r =>
  if size ≤ r.remaining.length then
    .ok (r.remaining.take size, ⟨r.remaining.drop size, r.offset + size⟩)
  else .error (.outOfRange "end of string")

def getHDLCHeader : Reader HDLCHeader := do
  let startSentinel1 ← getU8
  let address ← getU8
  let control ← getU8
  let protocol ← getU16b
  return { startSentinel1, address, control, protocol }

def getLCPHeader : Reader LCPHeader := do
  let command ← getU8
  let requestId ← getU8
  let size ← getU16b
  return { command, requestId, size }

def getEthernetHeader : Reader EthernetHeader := do
  let destMac ← getParray 6
  let srcMac ← getParray 6
  let protocol ← getU16b
  return { destMac, srcMac, protocol }

def getARPHeader : Reader ARPHeader := do
  let hardwareType ← getU16b
  let protocolType ← getU16b
  let hwaddrLen ← getU8
  let paddrLen ← getU8
  let operation ← getU16b
  return { hardwareType, protocolType, hwaddrLen, paddrLen, operation }

def getIPv4Header : Reader IPv4Header := do
  let versionIhl ← getU8
  let tos ← getU8
  let size ← getU16b
  let id ← getU16b
  let fragOffset ← getU16b
  let ttl ← getU8
  let protocol ← getU8
  let checksum ← getU16b
  let srcAddr ← getU32b
  let destAddr ← getU32b
  return { versionIhl, tos, size, id, fragOffset, ttl, protocol, checksum, srcAddr, destAddr }

def getUDPHeader : Reader UDPHeader := do
  let srcPort ← getU16b
  let destPort ← getU16b
  let size ← getU16b
  let checksum ← getU16b
  return { srcPort, destPort, size, checksum }

def getTCPHeader : Reader TCPHeader := do
  let srcPort ← getU16b
  let destPort ← getU16b
  let seqNum ← getU32b
  let ackNum ← getU32b
  let flags ← getU16b
  let window ← getU16b
  let checksum ← getU16b
  let urgentPtr ← getU16b
  return { srcPort, destPort, seqNum, ackNum, flags, window, checksum, urgentPtr }

/-! ## Frames -/

/-- `total_size` is the length of the bytes from `header_start`, and `payload_size` that
of the payload. -/
structure FrameInfo where
  linkType : LinkType
  headerStart : List UInt8
  ether : Option EthernetHeader := none
  etherProtocol : UInt16 := 0
  hdlc : Option HDLCHeader := none
  hdlcChecksum : UInt16 := 0
  lcp : Option LCPHeader := none
  pap : Option PAPHeader := none
  ipcp : Option IPCPHeader := none
  ipv4 : Option IPv4Header := none
  arp : Option ARPHeader := none
  udp : Option UDPHeader := none
  tcp : Option TCPHeader := none
  tcpOptionsSize : Nat := 0
  payload : List UInt8 := []
  deriving DecidableEq

/-- Sizes are `size_t`: below 0 they wrap. -/
def sizeT (size : Int) : Nat := (if size < 0 then size + 2 ^ 64 else size).toNat

@[simp] theorem sizeT_natCast (size : Nat) : sizeT size = size := by
  unfold sizeT
  rw [if_neg (by omega), Int.toNat_natCast]

/-- Every VLAN tag takes four bytes. -/
def unwrapVlanTags : Nat → FrameInfo → Int → Reader (FrameInfo × Int)
  | 0, _, _ => throw .nonterminating
  | fuel + 1, fi, payloadSize =>
    if fi.etherProtocol = 0x8100 ∨ fi.etherProtocol = 0x88A8 then do
      skip 2
      let etherProtocol ← getU16b
      unwrapVlanTags fuel { fi with etherProtocol } (payloadSize - 4)
    else return (fi, payloadSize)

/-- The link layer's header, the size of what is after it, and the protocol of that. -/
def readLinkHeader (fi : FrameInfo) : Reader (FrameInfo × Int × Protocol) :=
  match fi.linkType with
  | .ethernet => do
      let ether ← getEthernetHeader
      let (fi, payloadSize) ← unwrapVlanTags fi.headerStart.length
        { fi with ether := some ether, etherProtocol := ether.protocol }
        (fi.headerStart.length - 0x0E)
      let proto : Protocol :=
        match fi.etherProtocol.toNat with
        | 0x0800 => .ipv4
        | 0x0806 => .arp
        | _ => .none
      return (fi, payloadSize, proto)
  | .hdlc => do
      -- The checksum and the last sentinel are not part of the payload.
      let payloadSize : Int := fi.headerStart.length - (5 + 3)
      let hdlc ← getHDLCHeader
      let r ← get
      let hdlcChecksum ← pget getU16b fi.headerStart (sizeT (r.offset + payloadSize))
      let proto : Protocol :=
        match hdlc.protocol.toNat with
        | 0xC021 => .lcp
        | 0xC023 => .pap
        | 0x8021 => .ipcp
        | 0x0021 => .ipv4
        | _ => .none
      return ({ fi with hdlc := some hdlc, hdlcChecksum }, payloadSize, proto)

/-- What comes after an IPv4 header. -/
def readTransportHeader (fi : FrameInfo) (ipv4 : IPv4Header) (payloadSize : Int) :
    Reader (FrameInfo × Int) :=
  if ipv4.protocol = 0x06 then do
    let tcp ← getTCPHeader
    let tcpHeaderSize := (tcp.flags >>> 12).toNat * 4
    if tcpHeaderSize < 0x14 ∨ sizeT payloadSize < tcpHeaderSize then
      throw (.invalidArgument "frame is too small for tcp4 header with options")
    else do
      skip (tcpHeaderSize - 0x14)
      return ({ fi with tcp := some tcp, tcpOptionsSize := tcpHeaderSize - 0x14 },
        payloadSize - tcpHeaderSize)
  else if ipv4.protocol = 0x11 then do
    let udp ← getUDPHeader
    return ({ fi with udp := some udp }, payloadSize - 8)
  else return (fi, payloadSize)

def readInnerHeaders (fi : FrameInfo) (payloadSize : Int) : Protocol → Reader (FrameInfo × Int)
  | .none => throw (.runtimeError "unknown protocol")
  | .lcp => do
      let lcp ← getLCPHeader
      return ({ fi with lcp := some lcp }, payloadSize - 4)
  | .pap => do
      let pap ← getLCPHeader
      return ({ fi with pap := some pap }, payloadSize - 4)
  | .ipcp => do
      let ipcp ← getLCPHeader
      return ({ fi with ipcp := some ipcp }, payloadSize - 4)
  | .ipv4 => do
      let ipv4 ← getIPv4Header
      if sizeT payloadSize < ipv4.size.toNat then
        throw (.invalidArgument "ipv4 header specifies size larger than frame")
      else
        readTransportHeader { fi with ipv4 := some ipv4 } ipv4 (ipv4.size.toNat - 0x14)
  | .arp => do
      let arp ← getARPHeader
      return ({ fi with arp := some arp }, payloadSize - 8)

def readFrame (fi : FrameInfo) : Reader FrameInfo := do
  let (fi, payloadSize, proto) ← readLinkHeader fi
  let (fi, payloadSize) ← readInnerHeaders fi payloadSize proto
  let payload ← getv (sizeT payloadSize)
  return { fi with payload }

/-- `FrameInfo::FrameInfo`. -/
def FrameInfo.ofBytes (linkType : LinkType) (headerStart : List UInt8) :
    Except Exception FrameInfo := do
  let (fi, _) ← readFrame { linkType, headerStart } (.ofBytes headerStart)
  return fi

/-! ## HDLC checksums -/

/-- One bit of a byte. -/
def shiftCrc (crc : UInt16) : UInt16 :=
  if crc &&& 1 ≠ 0 then (crc >>> 1) ^^^ 0x8408 else crc >>> 1

def addToCrc (crc : UInt16) (ch : UInt8) : UInt16 :=
  Nat.repeat shiftCrc 8 (crc ^^^ ch.toUInt16)

/-- `FrameInfo::computed_hdlc_checksum` of some bytes. -/
def computedHdlcChecksum (data : List UInt8) : UInt16 := ~~~ data.foldl addToCrc 0xFFFF

/-- Of the bytes from the address to the end of the payload. -/
def FrameInfo.computedHdlcChecksum (self : FrameInfo) : Except Exception UInt16 :=
  match self.hdlc with
  | none => .error (.logicError "cannot compute HDLC checksum for non-HDLC frame")
  | some _ =>
    .ok (NetworkFrames.computedHdlcChecksum
      ((self.headerStart.drop 1).take (self.headerStart.length - 4)))

def FrameInfo.storedHdlcChecksum (self : FrameInfo) : UInt16 :=
  .ofNat (fromLittleEndian ((self.headerStart.drop (self.headerStart.length - 3)).take 2))

end HuntersGuild.NetworkFrames
