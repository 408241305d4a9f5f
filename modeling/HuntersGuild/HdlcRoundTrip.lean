import HuntersGuild.HdlcFrames
import HuntersGuild.NetworkFrames

/-!
HDLC frames that the server sends: they are escaped, and what unescapes and takes them
apart finds the checksum and the payload that were sent.
-/

namespace HuntersGuild.HdlcRoundTrip

open HuntersGuild.ByteStreams
open HuntersGuild.ExceptionRules
open HuntersGuild.HdlcFrames
open HuntersGuild.NetworkFrames
open HuntersGuild.StringReaders
open HuntersGuild.WordBytes

/-! ## Sending -/

/-- The control characters to be escaped are the bits of `flags`. -/
def isEscaped (flags : UInt32) (ch : UInt8) : Bool :=
  ch = 0x7D ∨ ch = 0x7E ∨ ch < 0x20 ∧ (flags >>> ch.toUInt32) &&& 1 ≠ 0

def escapeBody (flags : UInt32) : List UInt8 → List UInt8
  | [] => []
  | ch :: rest =>
    if isEscaped flags ch then 0x7D :: (ch ^^^ 0x20) :: escapeBody flags rest
    else ch :: escapeBody flags rest

def escapeHdlcFrame (data : List UInt8) (flags : UInt32) : Except Exception (List UInt8) :=
  if data.length < 2 then
    .error (.runtimeError "HDLC frame too small for start and end sentinels")
  else if data.getLast? ≠ some 0x7E then
    .error (.runtimeError "HDLC frame does not end with 7E")
  else if data.head? ≠ some 0x7E then
    .error (.runtimeError "HDLC frame does not begin with 7E")
  else .ok (0x7E :: (escapeBody flags (data.drop 1).dropLast ++ [0x7E]))

/-- The protocol number of an `HDLCHeader`. -/
def hdlcProtocol : Protocol → Except Exception UInt16
  | .none => .error (.logicError "layer 3 protocol not specified")
  | .lcp => .ok 0xC021
  | .pap => .ok 0xC023
  | .ipcp => .ok 0x8021
  | .ipv4 => .ok 0x0021
  | .arp => .error (.runtimeError "cannot send ARP packets over HDLC")

/-- The frame of `send_hdlc_frame` before it is escaped. -/
def hdlcFrame (proto : Protocol) (data : List UInt8) : Except Exception (List UInt8) := do
  let protocol ← hdlcProtocol proto
  let w := [0x7E, 0xFF, 0x03] ++ putU16b protocol ++ data
  return w ++ putU16l (computedHdlcChecksum (w.drop 1)) ++ [0x7E]

/-- `send_hdlc_frame`: the bytes that are written, after their number unless the network
is a raw one. -/
def sendHdlcFrame (flags : UInt32) (proto : Protocol) (data : List UInt8) (isRaw : Bool) :
    Except Exception (List UInt8) := do
  let w ← hdlcFrame proto data
  let escaped ← escapeHdlcFrame w flags
  if isRaw then return escaped else return putU16l (.ofNat escaped.length) ++ escaped

/-! ## Escaping -/

section Escaping

variable {flags : UInt32} {ch : UInt8}

theorem ne_escape_of_not_isEscaped (h : isEscaped flags ch = false) : ch ≠ 0x7D ∧ ch ≠ 0x7E := by
  have hnot := of_decide_eq_false h
  exact ⟨fun heq => hnot (.inl heq), fun heq => hnot (.inr (.inl heq))⟩

/-- No escaped byte is a sentinel. -/
theorem xor_ne_sentinel (h : isEscaped flags ch = true) : ch ^^^ 0x20 ≠ 0x7E := by
  intro hxor
  have hch : ch = 0x5E := by
    have hback := congrArg (· ^^^ (0x20 : UInt8)) hxor
    rw [UInt8.xor_assoc, UInt8.xor_self, UInt8.xor_zero] at hback
    exact hback
  obtain rfl := hch
  obtain heq | heq | ⟨hlt, -⟩ := of_decide_eq_true h
  · exact absurd heq (by decide)
  · exact absurd heq (by decide)
  · exact absurd hlt (by decide)

theorem sentinel_notMem_escapeBody (body : List UInt8) : 0x7E ∉ escapeBody flags body := by
  induction body with
  | nil => exact List.not_mem_nil
  | cons ch body ih =>
      unfold escapeBody
      split_ifs with hescaped
      · intro hmem
        obtain heq | hmem := List.mem_cons.mp hmem
        · exact absurd heq (by decide)
        · obtain heq | hmem := List.mem_cons.mp hmem
          · exact xor_ne_sentinel hescaped heq.symm
          · exact ih hmem
      · intro hmem
        obtain heq | hmem := List.mem_cons.mp hmem
        · exact (ne_escape_of_not_isEscaped (Bool.eq_false_iff.mpr hescaped)).2 heq.symm
        · exact ih hmem

theorem unescapeBody_escapeBody (flags : UInt32) (body : List UInt8) :
    unescapeBody (escapeBody flags body) = some body := by
  induction body with
  | nil => rfl
  | cons ch body ih =>
      unfold escapeBody
      split_ifs with hescaped
      · change (unescapeBody (escapeBody flags body)).map ((ch ^^^ 0x20 ^^^ 0x20) :: ·) = _
        rw [ih, UInt8.xor_assoc, UInt8.xor_self, UInt8.xor_zero]
        rfl
      · rw [unescapeBody_cons (ne_escape_of_not_isEscaped (Bool.eq_false_iff.mpr hescaped)).1, ih]
        rfl

theorem escapeHdlcFrame_frame (flags : UInt32) (body : List UInt8) :
    escapeHdlcFrame (frame body) flags = .ok (frame (escapeBody flags body)) := by
  have hlong : ¬(frame body).length < 2 := by
    rw [length_frame]
    omega
  have hlast : (frame body).getLast? = some 0x7E := by
    unfold frame
    rw [← List.cons_append, List.getLast?_concat]
  have hfirst : (frame body).head? = some 0x7E := rfl
  unfold escapeHdlcFrame
  rw [if_neg hlong, if_neg (not_not.mpr hlast), if_neg (not_not.mpr hfirst)]
  unfold frame
  rw [List.drop_one, List.tail_cons, List.dropLast_concat]

end Escaping

/-! ## Taking a frame apart -/

section Parsing

/-- What the checksum of a frame covers. -/
def covered (protocol : UInt16) (data : List UInt8) : List UInt8 :=
  [0xFF, 0x03] ++ putU16b protocol ++ data

def hdlcBody (protocol : UInt16) (data : List UInt8) : List UInt8 :=
  covered protocol data ++ putU16l (computedHdlcChecksum (covered protocol data))

theorem hdlcFrame_of_protocol {proto : Protocol} {protocol : UInt16}
    (h : hdlcProtocol proto = .ok protocol) (data : List UInt8) :
    hdlcFrame proto data = .ok (frame (hdlcBody protocol data)) := by
  unfold hdlcFrame
  rw [h]
  rfl

theorem reader_bind_eq_ok {α β : Type} {p : Reader α} {f : α → Reader β} {r : StringReader}
    {result : β × StringReader} :
    (p >>= f) r = .ok result ↔ ∃ a r', p r = .ok (a, r') ∧ f a r' = .ok result := by
  change (p r >>= fun x => f x.1 x.2) = .ok result ↔ _
  rw [bind_eq_ok]
  simp only [Prod.exists]

theorem reader_bind_of_ok {α β : Type} {p : Reader α} {f : α → Reader β} {r r' : StringReader}
    {a : α} {result : Except Exception (β × StringReader)} (hp : p r = .ok (a, r'))
    (hf : f a r' = result) : (p >>= f) r = result :=
  bind_of_ok hp hf

/-- Reading what is inside of a frame does not touch what was read of the link layer. -/
def SameLink (fi fi' : FrameInfo) : Prop :=
  fi'.headerStart = fi.headerStart ∧ fi'.hdlc = fi.hdlc

theorem sameLink_readTransportHeader {fi fi' : FrameInfo} {ipv4 : IPv4Header}
    {payloadSize payloadSize' : Int} {r r' : StringReader}
    (h : readTransportHeader fi ipv4 payloadSize r = .ok ((fi', payloadSize'), r')) :
    SameLink fi fi' := by
  unfold readTransportHeader at h
  split at h
  · obtain ⟨tcp, _, -, h⟩ := reader_bind_eq_ok.mp h
    split at h
    · exact nomatch h
    · obtain ⟨_, _, -, h⟩ := reader_bind_eq_ok.mp h
      cases h
      exact ⟨rfl, rfl⟩
  · split at h
    · obtain ⟨udp, _, -, h⟩ := reader_bind_eq_ok.mp h
      cases h
      exact ⟨rfl, rfl⟩
    · cases h
      exact ⟨rfl, rfl⟩

theorem sameLink_readInnerHeaders {fi fi' : FrameInfo} {payloadSize payloadSize' : Int}
    {proto : Protocol} {r r' : StringReader}
    (h : readInnerHeaders fi payloadSize proto r = .ok ((fi', payloadSize'), r')) :
    SameLink fi fi' := by
  cases proto with
  | none => exact nomatch h
  | lcp | pap | ipcp | arp =>
      obtain ⟨_, _, -, h⟩ := reader_bind_eq_ok.mp h
      cases h
      exact ⟨rfl, rfl⟩
  | ipv4 =>
      obtain ⟨ipv4, _, -, h⟩ := reader_bind_eq_ok.mp h
      split at h
      · exact nomatch h
      · have hsame := sameLink_readTransportHeader h
        exact ⟨hsame.1, hsame.2⟩

theorem readLinkHeader_hdlc {fi fi' : FrameInfo} (hlink : fi.linkType = .hdlc)
    {payloadSize : Int} {proto : Protocol} {r r' : StringReader}
    (h : readLinkHeader fi r = .ok ((fi', payloadSize, proto), r')) :
    fi'.headerStart = fi.headerStart ∧ fi'.hdlc.isSome = true := by
  unfold readLinkHeader at h
  rw [hlink] at h
  obtain ⟨hdlc, _, -, h⟩ := reader_bind_eq_ok.mp h
  obtain ⟨_, _, -, h⟩ := reader_bind_eq_ok.mp h
  obtain ⟨checksum, _, -, h⟩ := reader_bind_eq_ok.mp h
  cases h
  exact ⟨rfl, rfl⟩

theorem ofBytes_hdlc {headerStart : List UInt8} {fi : FrameInfo}
    (h : FrameInfo.ofBytes .hdlc headerStart = .ok fi) :
    fi.headerStart = headerStart ∧ fi.hdlc.isSome = true := by
  obtain ⟨⟨_, _⟩, h, hfi⟩ := bind_eq_ok.mp h
  cases hfi
  obtain ⟨⟨fi₁, payloadSize, proto⟩, _, hlink, h⟩ := reader_bind_eq_ok.mp h
  obtain ⟨⟨fi₂, payloadSize'⟩, _, hinner, h⟩ := reader_bind_eq_ok.mp h
  obtain ⟨payload, _, -, h⟩ := reader_bind_eq_ok.mp h
  cases h
  obtain ⟨hstart, hsome⟩ := readLinkHeader_hdlc rfl hlink
  obtain ⟨hstart', hhdlc⟩ := sameLink_readInnerHeaders hinner
  refine ⟨hstart'.trans hstart, ?_⟩
  dsimp only
  rw [hhdlc]
  exact hsome

theorem checksum_hdlcBody {protocol : UInt16} {data : List UInt8} {fi : FrameInfo}
    (h : FrameInfo.ofBytes .hdlc (frame (hdlcBody protocol data)) = .ok fi) :
    fi.computedHdlcChecksum = .ok fi.storedHdlcChecksum := by
  obtain ⟨hstart, hsome⟩ := ofBytes_hdlc h
  obtain ⟨hdlc, hhdlc⟩ := Option.isSome_iff_exists.mp hsome
  generalize hbytes : covered protocol data = bytes at hstart
  generalize hcrc : putU16l (computedHdlcChecksum bytes) = crc
  have hcrclength : crc.length = 2 := hcrc ▸ length_littleEndian 2 _
  have hframe : fi.headerStart = 0x7E :: (bytes ++ (crc ++ [0x7E])) := by
    rw [hstart, frame, hdlcBody, hbytes, hcrc, List.append_assoc]
  have hlength : fi.headerStart.length = bytes.length + 4 := by
    rw [hframe]
    simp only [List.length_cons, List.length_append, hcrclength, List.length_nil]
  have hcomputed : (fi.headerStart.drop 1).take (fi.headerStart.length - 4) = bytes := by
    rw [hlength, hframe, Nat.add_sub_cancel]
    exact List.take_left
  have hstored : (fi.headerStart.drop (fi.headerStart.length - 3)).take 2 = crc := by
    rw [hlength, hframe, show bytes.length + 4 - 3 = bytes.length + 1 from rfl,
      List.drop_succ_cons, List.drop_left, ← hcrclength, List.take_left]
  unfold FrameInfo.computedHdlcChecksum FrameInfo.storedHdlcChecksum
  rw [hhdlc, hcomputed, hstored, ← hcrc, ofNat_putU16l]

theorem reads_getU16b (v : UInt16) : Reads getU16b (putU16b v) v := by
  have hword : Reads getU16b (putU16b v) (UInt16.ofNat (fromBigEndian (putU16b v))) :=
    (reads_getParray ⟨putU16b v, length_bigEndian 2 v.toNat⟩).map
  rwa [putU16b, fromBigEndian_bigEndian_of_lt v.toNat_lt, UInt16.ofNat_toNat] at hword

theorem reads_getHDLCHeader (protocol : UInt16) :
    Reads getHDLCHeader ([0x7E, 0xFF, 0x03] ++ putU16b protocol) ⟨0x7E, 0xFF, 0x03, protocol⟩ :=
  (reads_getU8 0x7E).bind ((reads_getU8 0xFF).bind ((reads_getU8 0x03).bind
    (reads_getU16b protocol).map))

theorem exists_pget_getU16b {data : List UInt8} {offset : Nat} (h : offset + 2 ≤ data.length) :
    ∃ v, pget getU16b data offset = .ok v := by
  have hle : 2 ≤ (data.drop offset).length := by
    rw [List.length_drop]
    omega
  have hword : getParray 2 (.ofBytes (data.drop offset)) = .ok
      (⟨(data.drop offset).take 2, List.length_take_of_le hle⟩,
        ⟨(data.drop offset).drop 2, 0 + 2⟩) := dif_pos hle
  refine ⟨_, bind_of_ok (bind_of_ok hword rfl) rfl⟩

theorem length_hdlcFrame (protocol : UInt16) (data : List UInt8) :
    (frame (hdlcBody protocol data)).length = data.length + 8 := by
  simp [hdlcBody, covered, putU16b, putU16l]
  omega

/-- What follows the payload of a frame. -/
def trailer (protocol : UInt16) (data : List UInt8) : List UInt8 :=
  putU16l (computedHdlcChecksum (covered protocol data)) ++ [0x7E]

/-- After the link layer's header comes the payload. -/
theorem exists_readLinkHeader {proto : Protocol} {protocol : UInt16}
    (hprotocol : hdlcProtocol proto = .ok protocol) (data : List UInt8) :
    ∃ hdlcChecksum,
      readLinkHeader { linkType := .hdlc, headerStart := frame (hdlcBody protocol data) }
        (.ofBytes (frame (hdlcBody protocol data))) =
          .ok (({ linkType := .hdlc
                  headerStart := frame (hdlcBody protocol data)
                  hdlc := some ⟨0x7E, 0xFF, 0x03, protocol⟩
                  hdlcChecksum }, (data.length : Int), proto),
            ⟨data ++ trailer protocol data, 5⟩) := by
  have hlength := length_hdlcFrame protocol data
  obtain ⟨checksum, hchecksum⟩ := exists_pget_getU16b
    (show data.length + 5 + 2 ≤ (frame (hdlcBody protocol data)).length by omega)
  have hbytes : frame (hdlcBody protocol data) =
      [0x7E, 0xFF, 0x03] ++ putU16b protocol ++ (data ++ trailer protocol data) := by
    simp [frame, hdlcBody, covered, trailer]
  have hheader := reads_getHDLCHeader protocol (data ++ trailer protocol data) 0
  rw [← hbytes, List.length_append, putU16b, length_bigEndian] at hheader
  have hposition : sizeT (((5 : Nat) : Int) + ((frame (hdlcBody protocol data)).length - (5 + 3))) =
      data.length + 5 := by
    rw [hlength, ← sizeT_natCast (data.length + 5)]
    congr 1
    omega
  have hsize : ((frame (hdlcBody protocol data)).length : Int) - (5 + 3) = data.length := by
    omega
  refine ⟨checksum, ?_⟩
  unfold readLinkHeader
  refine reader_bind_of_ok hheader (reader_bind_of_ok rfl ?_)
  dsimp only [List.length_cons, List.length_nil]
  rw [hposition, hchecksum, hsize]
  cases proto with
  | none | arp => cases hprotocol
  | lcp | pap | ipcp | ipv4 =>
      cases hprotocol
      rfl

/-- The protocols whose header is four bytes. -/
def IsControl (proto : Protocol) : Prop := proto = .lcp ∨ proto = .pap ∨ proto = .ipcp

theorem reads_getLCPHeader (command requestId high low : UInt8) :
    Reads getLCPHeader [command, requestId, high, low]
      ⟨command, requestId, .ofNat (fromBigEndian [high, low])⟩ :=
  (reads_getU8 command).bind ((reads_getU8 requestId).bind
    (Reads.map (Reads.map (reads_getParray ⟨[high, low], rfl⟩))))

theorem exists_readInnerHeaders {proto : Protocol} (hproto : IsControl proto) (fi : FrameInfo)
    {data : List UInt8} (hdata : 4 ≤ data.length) (tail : List UInt8) :
    ∃ fi', readInnerHeaders fi data.length proto ⟨data ++ tail, 5⟩ =
      .ok ((fi', ((data.drop 4).length : Int)), ⟨data.drop 4 ++ tail, 9⟩) := by
  have hsize : (data.length : Int) - 4 = (data.drop 4).length := by
    rw [List.length_drop]
    omega
  obtain ⟨header, hheader⟩ : ∃ header, getLCPHeader ⟨data ++ tail, 5⟩ =
      .ok (header, ⟨data.drop 4 ++ tail, 9⟩) := by
    match data, hdata with
    | command :: requestId :: high :: low :: rest, _ =>
        exact ⟨_, reads_getLCPHeader command requestId high low (rest ++ tail) 5⟩
  unfold readInnerHeaders
  rw [hsize]
  obtain rfl | rfl | rfl := hproto
  · exact ⟨{ fi with lcp := some header }, reader_bind_of_ok hheader rfl⟩
  · exact ⟨{ fi with pap := some header }, reader_bind_of_ok hheader rfl⟩
  · exact ⟨{ fi with ipcp := some header }, reader_bind_of_ok hheader rfl⟩

theorem getv_append (data tail : List UInt8) (offset : Nat) :
    getv data.length ⟨data ++ tail, offset⟩ = .ok (data, ⟨tail, offset + data.length⟩) := by
  unfold getv
  rw [if_pos (by rw [List.length_append]; exact Nat.le_add_right _ _)]
  dsimp only
  rw [List.take_left, List.drop_left]

theorem exists_ofBytes_of_control {proto : Protocol} (hproto : IsControl proto)
    {protocol : UInt16} (hprotocol : hdlcProtocol proto = .ok protocol) {data : List UInt8}
    (hdata : 4 ≤ data.length) :
    ∃ fi, FrameInfo.ofBytes .hdlc (frame (hdlcBody protocol data)) = .ok fi ∧
      fi.payload = data.drop 4 := by
  obtain ⟨checksum, hlink⟩ := exists_readLinkHeader hprotocol data
  generalize frame (hdlcBody protocol data) = bytes at hlink ⊢
  obtain ⟨fi, hinner⟩ := exists_readInnerHeaders hproto
    { linkType := .hdlc
      headerStart := bytes
      hdlc := some ⟨0x7E, 0xFF, 0x03, protocol⟩
      hdlcChecksum := checksum } hdata (trailer protocol data)
  have hpayload := getv_append (data.drop 4) (trailer protocol data) 9
  refine ⟨{ fi with payload := data.drop 4 }, ?_, rfl⟩
  unfold FrameInfo.ofBytes
  refine bind_of_ok (a := ({ fi with payload := data.drop 4 },
    ⟨trailer protocol data, 9 + (data.drop 4).length⟩)) ?_ rfl
  unfold readFrame
  refine reader_bind_of_ok hlink (reader_bind_of_ok hinner ?_)
  dsimp only
  rw [sizeT_natCast]
  exact reader_bind_of_ok hpayload rfl

/-- What arrives of a frame that was sent: its sentinels are the only ones, it is unescaped
to what was sent, the checksum is right whenever the frame can be taken apart, and that is
so for a control frame with its header. -/
structure Arrives (flags : UInt32) (proto : Protocol) (data : List UInt8) (body : List UInt8) :
    Prop where
  hdlcFrame_eq : hdlcFrame proto data = .ok (frame body)
  exists_escaped : ∃ escaped, 0x7E ∉ escaped ∧
    sendHdlcFrame flags proto data true = .ok (frame escaped) ∧
    ∃ buffer, unescapeHdlcFrameInplace (frame escaped) = .ok (buffer, (frame body).length) ∧
      buffer.take (frame body).length = frame body
  checksum : ∀ fi, FrameInfo.ofBytes .hdlc (frame body) = .ok fi →
    fi.computedHdlcChecksum = .ok fi.storedHdlcChecksum
  payload : IsControl proto → 4 ≤ data.length →
    ∃ fi, FrameInfo.ofBytes .hdlc (frame body) = .ok fi ∧ fi.payload = data.drop 4

end Parsing

/-- Every frame that can be sent over HDLC arrives. -/
theorem exists_arrives (flags : UInt32) (proto : Protocol) (data : List UInt8)
    (hproto : proto ≠ .none ∧ proto ≠ .arp) : ∃ body, Arrives flags proto data body := by
  obtain ⟨protocol, hprotocol⟩ : ∃ protocol, hdlcProtocol proto = .ok protocol := by
    cases proto with
    | none => exact absurd rfl hproto.1
    | arp => exact absurd rfl hproto.2
    | lcp | pap | ipcp | ipv4 => exact ⟨_, rfl⟩
  have hframe := hdlcFrame_of_protocol hprotocol data
  refine ⟨hdlcBody protocol data, hframe, ?_, ?_, ?_⟩
  · refine ⟨escapeBody flags (hdlcBody protocol data), sentinel_notMem_escapeBody _, ?_, ?_⟩
    · exact bind_of_ok hframe (bind_of_ok (escapeHdlcFrame_frame flags _) rfl)
    · obtain ⟨buffer, hrun, htake, -⟩ :=
        unescape_of_some (unescapeBody_escapeBody flags (hdlcBody protocol data))
      rw [length_frame]
      exact ⟨buffer, hrun, htake⟩
  · intro fi hfi
    exact checksum_hdlcBody hfi
  · intro hcontrol hdata
    exact exists_ofBytes_of_control hcontrol hprotocol hdata

theorem exists_arrives_lcp : ∃ body, Arrives 0xFFFFFFFF .lcp [0x01, 0x00, 0x00, 0x04] body :=
  exists_arrives 0xFFFFFFFF .lcp [0x01, 0x00, 0x00, 0x04] ⟨by decide, by decide⟩

/-- A frame without its protocol's header is refused. -/
theorem not_parses_empty :
    ¬ ∀ (proto : Protocol) (data : List UInt8), proto ≠ .none ∧ proto ≠ .arp →
      ∀ bytes, hdlcFrame proto data = .ok bytes →
        ∃ fi, FrameInfo.ofBytes .hdlc bytes = .ok fi ∧
          fi.computedHdlcChecksum = .ok fi.storedHdlcChecksum := by
  intro h
  obtain ⟨fi, hfi, -⟩ := h .lcp [] ⟨by decide, by decide⟩ _ rfl
  have herror : FrameInfo.ofBytes .hdlc (frame (hdlcBody 0xC021 [])) =
      .error (.outOfRange "end of string") := by
    decide
  exact nomatch hfi.symm.trans herror

end HuntersGuild.HdlcRoundTrip
