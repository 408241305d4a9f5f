import HuntersGuild.FuelLoop
import HuntersGuild.StringReaders

/-!
WebSocket messages of the HTTP server: the frames that are received and sent.
-/

namespace HuntersGuild.WebSockets

open HuntersGuild.ByteStreams
open HuntersGuild.ExceptionRules
open HuntersGuild.FuelLoop (Step)
open HuntersGuild.StringReaders
open HuntersGuild.WordBytes

structure WebSocketMessage where
  header : UInt8 × UInt8 := (0, 0)
  opcode : UInt8 := 0x01
  maskKey : List UInt8 := [0, 0, 0, 0]
  data : List UInt8 := []
  deriving DecidableEq

/-- `r` holds the bytes that the peer has sent. -/
structure HTTPClient where
  r : StringReader
  isOpen : Bool
  sent : List UInt8
  deriving DecidableEq

/-- `read_data` and `read_data_into`, which wait until there are `size` bytes. A peer that
sends fewer has closed the connection. -/
def readData (size : Nat) : Reader (List UInt8) := fun r =>
  if size ≤ r.remaining.length then
    .ok (r.remaining.take size, ⟨r.remaining.drop size, r.offset + size⟩)
  else .error (.runtimeError "End of file")

def sendWebsocketMessage (data : List UInt8) (opcode : UInt8) (self : HTTPClient) : HTTPClient :=
  let size := data.length
  let length : List UInt8 :=
    if size > 0xFFFF then 0x7F :: bigEndian 8 size
    else if size > 0x7D then 0x7E :: bigEndian 2 size
    else [.ofNat size]
  { self with sent := self.sent ++ ((0x80 ||| (opcode &&& 0x0F)) :: length ++ data) }

def readPayloadSize (header1 : UInt8) : Reader Nat := do
  let payloadSize := (header1 &&& 0x7F).toNat
  if payloadSize = 0x7F then
    let wireSize ← readData 8
    return fromBigEndian wireSize
  else if payloadSize = 0x7E then
    let wireSize ← readData 2
    return fromBigEndian wireSize
  else
    return payloadSize

def unmask (maskKey data : List UInt8) : List UInt8 :=
  data.mapIdx fun x b => b ^^^ maskKey.getD (x &&& 3) 0

def hasMask (header1 : UInt8) : Bool := header1 &&& 0x80 ≠ 0

/-- A message without a mask keeps the key it begins with. -/
def readMaskKey (header1 : UInt8) : Reader (List UInt8) :=
  if hasMask header1 then readData 4 else pure [0, 0, 0, 0]

/-- A frame with its data unmasked. -/
def readFrame (maxDataSize : Nat) : Reader WebSocketMessage := do
  let header ← readData 2
  let header0 := header.getD 0 0
  let header1 := header.getD 1 0
  let payloadSize ← readPayloadSize header1
  if payloadSize > maxDataSize then
    throw (.runtimeError "Incoming WebSocket message exceeds size limit")
  else
    let maskKey ← readMaskKey header1
    let data ← readData payloadSize
    return {
      header := (header0, header1)
      maskKey := maskKey
      data := if hasMask header1 then unmask maskKey data else data }

/-- The variables of the loop in `recv_websocket_message`. -/
structure Receiving where
  self : HTTPClient
  prevMsg : WebSocketMessage
  prevMsgPresent : Bool

abbrev Received := Except Exception WebSocketMessage × HTTPClient

/-- What is done with a frame. -/
def handleFrame (msg : WebSocketMessage) (s : Receiving) : Step Receiving Received :=
  let opcode := msg.header.1 &&& 0x0F
  let close (self : HTTPClient) : HTTPClient := { self with isOpen := false }
  if opcode &&& 0x08 ≠ 0 then
    if opcode = 0x0A then .next s
    else if opcode = 0x08 then
      .next { s with self := close (sendWebsocketMessage msg.data msg.opcode s.self) }
    else if opcode = 0x09 then .next { s with self := sendWebsocketMessage msg.data 0x0A s.self }
    else .next { s with self := close s.self }
  else if s.prevMsgPresent = decide (opcode ≠ 0) then .next { s with self := close s.self }
  else
    -- `prevMsgPresent` is never set.
    let prevMsg :=
      if !s.prevMsgPresent then msg
      else
        { header := msg.header
          opcode := if opcode ≠ 0 then msg.opcode else s.prevMsg.opcode
          maskKey := if hasMask msg.header.2 then msg.maskKey else s.prevMsg.maskKey
          data := s.prevMsg.data ++ msg.data }
    if prevMsg.header.1 &&& 0x80 ≠ 0 then .done (.ok prevMsg, s.self)
    else .next { s with prevMsg := prevMsg }

def recvBody (maxDataSize : Nat) (s : Receiving) : Step Receiving Received :=
  if s.self.isOpen then
    match readFrame maxDataSize s.self.r with
    | .error e => .done (.error e, s.self)
    | .ok (msg, r) => handleFrame msg { s with self := { s.self with r := r } }
  else .done (.error (.logicError "failed to receive websocket message"), s.self)

/-- Every frame has at least two bytes, so that the fuel lasts. -/
def recvWebsocketMessage (maxDataSize : Nat) (self : HTTPClient) : Received :=
  (FuelLoop.run (recvBody maxDataSize) (self.r.remaining.length + 2) ⟨self, {}, false⟩).getD
    (.error .nonterminating, self)

/-- The part of `handle_client` behind `enable_websockets`, for a handler that returns.
The fuel bounds the messages. -/
def recvMessages (maxDataSize : Nat) : Nat → HTTPClient → List WebSocketMessage × HTTPClient
  | 0, self => ([], self)
  | fuel + 1, self =>
      match recvWebsocketMessage maxDataSize self with
      | (.error _, self) => ([], self)
      | (.ok msg, self) =>
          let (msgs, self) := recvMessages maxDataSize fuel self
          (msg :: msgs, self)

/-! Frames on the wire. -/

/-- How the size of the data is written. -/
inductive SizeForm where
  | short
  | word
  | quad
  deriving DecidableEq

def SizeForm.code (form : SizeForm) (size : Nat) : Nat :=
  match form with
  | .short => size
  | .word => 0x7E
  | .quad => 0x7F

def SizeForm.bytes (form : SizeForm) (size : Nat) : List UInt8 :=
  match form with
  | .short => []
  | .word => bigEndian 2 size
  | .quad => bigEndian 8 size

def SizeForm.Fits (form : SizeForm) (size : Nat) : Prop :=
  match form with
  | .short => size < 0x7E
  | .word => size < 2 ^ 16
  | .quad => size < 2 ^ 64

instance : (form : SizeForm) → (size : Nat) → Decidable (form.Fits size)
  | .short, size => inferInstanceAs (Decidable (size < 0x7E))
  | .word, size => inferInstanceAs (Decidable (size < 2 ^ 16))
  | .quad, size => inferInstanceAs (Decidable (size < 2 ^ 64))

/-- A frame that a peer sends. -/
structure Frame where
  header0 : UInt8
  form : SizeForm
  maskKey : Option (List UInt8)
  data : List UInt8
  deriving DecidableEq

namespace Frame

def header1 (f : Frame) : UInt8 :=
  .ofNat (f.form.code f.data.length + if f.maskKey.isSome then 128 else 0)

def key (f : Frame) : List UInt8 := f.maskKey.getD [0, 0, 0, 0]

def bytes (f : Frame) : List UInt8 :=
  [f.header0, f.header1] ++ (f.form.bytes f.data.length ++
    (f.maskKey.getD [] ++ if f.maskKey.isSome then unmask f.key f.data else f.data))

structure Valid (maxDataSize : Nat) (f : Frame) : Prop where
  fits : f.form.Fits f.data.length
  key_length : ∀ key, f.maskKey = some key → key.length = 4
  size_le : f.data.length ≤ maxDataSize

/-- The message that the frame is read as. -/
def message (f : Frame) : WebSocketMessage where
  header := (f.header0, f.header1)
  maskKey := f.key
  data := f.data

end Frame

variable {maxDataSize : Nat} {f : Frame}

theorem header1_unmasked : ∀ code < 128, hasMask (.ofNat (code + 0)) = false ∧
    (UInt8.ofNat (code + 0) &&& 0x7F).toNat = code := by decide +kernel

theorem header1_masked : ∀ code < 128, hasMask (.ofNat (code + 128)) = true ∧
    (UInt8.ofNat (code + 128) &&& 0x7F).toNat = code := by decide +kernel

theorem Frame.code_lt (h : f.form.Fits f.data.length) : f.form.code f.data.length < 128 := by
  cases hform : f.form with
  | short =>
      rw [hform] at h
      exact h.trans (by decide)
  | word => exact (by decide : 0x7E < 128)
  | quad => exact (by decide : 0x7F < 128)

theorem Frame.hasMask_header1 (h : f.form.Fits f.data.length) :
    hasMask f.header1 = f.maskKey.isSome ∧ (f.header1 &&& 0x7F).toNat = f.form.code f.data.length := by
  unfold Frame.header1
  cases f.maskKey.isSome with
  | true => exact header1_masked _ (f.code_lt h)
  | false => exact header1_unmasked _ (f.code_lt h)

theorem unmask_unmask (key data : List UInt8) : unmask key (unmask key data) = data := by
  unfold unmask
  apply List.ext_getElem?
  intro i
  rw [List.getElem?_mapIdx, List.getElem?_mapIdx, Option.map_map]
  have hid : ((fun b => b ^^^ key.getD (i &&& 3) 0) ∘ fun b => b ^^^ key.getD (i &&& 3) 0) = id := by
    funext b
    change b ^^^ _ ^^^ _ = b
    rw [UInt8.xor_assoc, UInt8.xor_self, UInt8.xor_zero]
  rw [hid, Option.map_id]
  rfl

theorem length_unmask (key data : List UInt8) : (unmask key data).length = data.length :=
  List.length_mapIdx

theorem reads_readData {size : Nat} {data : List UInt8} (h : data.length = size) :
    Reads (readData size) data data := by
  intro remaining offset
  have hle : size ≤ (data ++ remaining).length := by
    rw [List.length_append, h]
    exact Nat.le_add_right _ _
  rw [readData, if_pos hle, List.take_left' h, List.drop_left' h, h]

theorem reads_readPayloadSize (h : f.form.Fits f.data.length) :
    Reads (readPayloadSize f.header1) (f.form.bytes f.data.length) f.data.length := by
  have hcode := (f.hasMask_header1 h).2
  unfold readPayloadSize
  dsimp only
  cases hform : f.form with
  | short =>
      rw [hform] at hcode h
      have hlt : f.data.length < 0x7E := h
      rw [hcode, SizeForm.code, if_neg (by omega), if_neg (by omega)]
      exact reads_pure _
  | word =>
      rw [hform] at hcode h
      have hword : Reads (readData 2) (bigEndian 2 f.data.length) (bigEndian 2 f.data.length) :=
        reads_readData (length_bigEndian 2 _)
      have hvalue : fromBigEndian (bigEndian 2 f.data.length) = f.data.length :=
        fromBigEndian_bigEndian_of_lt h
      rw [hcode, SizeForm.code, if_neg (by decide), if_pos rfl]
      have hmap := hword.map (f := fromBigEndian)
      rwa [hvalue] at hmap
  | quad =>
      rw [hform] at hcode h
      have hword : Reads (readData 8) (bigEndian 8 f.data.length) (bigEndian 8 f.data.length) :=
        reads_readData (length_bigEndian 8 _)
      have hvalue : fromBigEndian (bigEndian 8 f.data.length) = f.data.length :=
        fromBigEndian_bigEndian_of_lt h
      rw [hcode, SizeForm.code, if_pos rfl]
      have hmap := hword.map (f := fromBigEndian)
      rwa [hvalue] at hmap

theorem reads_readMaskKey (h : f.Valid maxDataSize) :
    Reads (readMaskKey f.header1) (f.maskKey.getD []) f.key := by
  rw [readMaskKey, (f.hasMask_header1 h.fits).1, Frame.key]
  cases hkey : f.maskKey with
  | none => exact reads_pure _
  | some key => exact reads_readData (h.key_length key hkey)

/-- A frame is read as its message. -/
theorem reads_readFrame (h : f.Valid maxDataSize) : Reads (readFrame maxDataSize) f.bytes f.message := by
  have hheader : Reads (readData 2) [f.header0, f.header1] [f.header0, f.header1] := reads_readData rfl
  let wire := if f.maskKey.isSome then unmask f.key f.data else f.data
  have hwire : wire.length = f.data.length := by
    dsimp only [wire]
    split_ifs
    · exact length_unmask _ _
    · rfl
  have hdata : (if hasMask f.header1 then unmask f.key wire else wire) = f.data := by
    dsimp only [wire]
    rw [(f.hasMask_header1 h.fits).1]
    split_ifs
    · exact unmask_unmask _ _
    · rfl
  refine hheader.bind ((reads_readPayloadSize h.fits).bind ?_)
  rw [if_neg (Nat.not_lt.mpr h.size_le)]
  refine (reads_readMaskKey h).bind ?_
  have hmessage := (reads_readData hwire).map (f := fun data => ({
    header := (f.header0, f.header1)
    maskKey := f.key
    data := if hasMask f.header1 then unmask f.key data else data } : WebSocketMessage))
  rw [hdata] at hmessage
  exact hmessage

/-! The loop ends: every frame has at least two bytes. -/

/-- What takes at least `n` bytes. -/
def Takes {α : Type} (n : Nat) (p : Reader α) : Prop :=
  ∀ r a r', p r = .ok (a, r') → r'.remaining.length + n ≤ r.remaining.length

theorem Takes.bind {α β : Type} {m n : Nat} {p : Reader α} {q : α → Reader β} (hp : Takes m p)
    (hq : ∀ a, Takes n (q a)) : Takes (m + n) (p >>= q) := by
  intro r b r' h
  obtain ⟨⟨a, mid⟩, hfirst, hsecond⟩ := bind_eq_ok.mp (show (p r >>= fun x => q x.1 x.2) = .ok (b, r') from h)
  have hm := hp r a mid hfirst
  have hn := hq a mid b r' hsecond
  omega

theorem takes_pure {α : Type} (a : α) : Takes 0 (pure a) := by
  intro r b r' h
  obtain ⟨-, rfl⟩ := Prod.mk.inj (Except.ok.inj h)
  exact Nat.le_refl _

theorem Takes.zero {α : Type} {n : Nat} {p : Reader α} (h : Takes n p) : Takes 0 p :=
  fun r a r' hok => (Nat.le_add_right _ n).trans (h r a r' hok)

theorem takes_readData (size : Nat) : Takes size (readData size) := by
  intro r data r' h
  unfold readData at h
  split_ifs at h with hsize
  obtain ⟨-, rfl⟩ := Prod.mk.inj (Except.ok.inj h)
  rw [List.length_drop]
  omega

theorem takes_readPayloadSize (header1 : UInt8) : Takes 0 (readPayloadSize header1) := by
  unfold readPayloadSize
  dsimp only
  split_ifs
  · exact (Takes.bind (takes_readData 8) fun _ => takes_pure _).zero
  · exact (Takes.bind (takes_readData 2) fun _ => takes_pure _).zero
  · exact takes_pure _

theorem takes_readMaskKey (header1 : UInt8) : Takes 0 (readMaskKey header1) := by
  unfold readMaskKey
  split_ifs
  · exact (takes_readData 4).zero
  · exact takes_pure _

theorem takes_readFrame (maxDataSize : Nat) : Takes 2 (readFrame maxDataSize) := by
  refine Takes.bind (n := 0) (takes_readData 2) fun header => ?_
  refine Takes.bind (n := 0) (takes_readPayloadSize _) fun payloadSize => ?_
  by_cases hsize : payloadSize > maxDataSize
  · rw [if_pos hsize]
    intro r a r' h
    cases h
  · rw [if_neg hsize]
    refine Takes.bind (n := 0) (takes_readMaskKey _) fun maskKey => ?_
    exact (Takes.bind (takes_readData payloadSize) fun _ => takes_pure _).zero

/-- A connection that is closed has one pass left. -/
def passesLeft (s : Receiving) : Nat :=
  if s.self.isOpen then s.self.r.remaining.length + 1 else 0

theorem handleFrame_next {msg : WebSocketMessage} {s s' : Receiving} (h : handleFrame msg s = .next s') :
    s'.self.r = s.self.r := by
  unfold handleFrame at h
  dsimp only at h
  split_ifs at h <;> cases h <;> rfl

theorem passesLeft_lt {s s' : Receiving} (h : recvBody maxDataSize s = .next s') :
    passesLeft s' < passesLeft s := by
  unfold recvBody at h
  split_ifs at h with hopen
  rcases hframe : readFrame maxDataSize s.self.r with e | ⟨msg, r⟩
  · rw [hframe] at h
    cases h
  · rw [hframe] at h
    have htaken := takes_readFrame maxDataSize _ _ _ hframe
    have hr := handleFrame_next h
    dsimp only at hr
    unfold passesLeft
    rw [if_pos hopen, hr]
    split_ifs <;> omega

/-- The result is the one of any pass that the loop reaches. -/
theorem recv_of_reaches {self : HTTPClient} {s : Receiving} {result : Received}
    (hreach : FuelLoop.Reaches (recvBody maxDataSize) ⟨self, {}, false⟩ s)
    (hdone : recvBody maxDataSize s = .done result) : recvWebsocketMessage maxDataSize self = result := by
  have hmeasure : passesLeft ⟨self, {}, false⟩ < self.r.remaining.length + 2 := by
    unfold passesLeft
    dsimp only
    split_ifs <;> omega
  obtain ⟨result', hrun⟩ := FuelLoop.exists_run_eq_some (fun _ => True) passesLeft
    (fun s s' _ h => ⟨trivial, passesLeft_lt h⟩) (s := ⟨self, {}, false⟩) trivial hmeasure
  rw [recvWebsocketMessage, hrun, FuelLoop.run_of_reaches hreach hdone hrun]
  rfl

/-! Frames that do not end a message. -/

def Frame.opcode (f : Frame) : UInt8 := f.header0 &&& 0x0F

/-- A ping, the answer to a ping, or the beginning of a message. -/
inductive Frame.Passes (f : Frame) : Prop where
  | ping (h : f.opcode = 0x09)
  | pong (h : f.opcode = 0x0A)
  | unfinished (hdata : f.opcode &&& 0x08 = 0) (hopcode : f.opcode ≠ 0) (hfin : f.header0 &&& 0x80 = 0)

/-- A ping is answered with its data. -/
def Frame.reply (f : Frame) : List UInt8 :=
  if f.opcode = 0x09 then (sendWebsocketMessage f.data 0x0A ⟨.ofBytes [], true, []⟩).sent else []

variable {self : HTTPClient} {prevMsg : WebSocketMessage} {rest : List UInt8}

theorem recvBody_frame (hvalid : f.Valid maxDataSize) (hopen : self.isOpen = true)
    (hremaining : self.r.remaining = f.bytes ++ rest) (prevMsg : WebSocketMessage) :
    recvBody maxDataSize ⟨self, prevMsg, false⟩ = handleFrame f.message
      ⟨{ self with r := ⟨rest, self.r.offset + f.bytes.length⟩ }, prevMsg, false⟩ := by
  have hread := reads_readFrame hvalid rest self.r.offset
  rw [← hremaining] at hread
  unfold recvBody
  rw [if_pos hopen]
  dsimp only
  rw [hread]

theorem sent_sendWebsocketMessage (data : List UInt8) (opcode : UInt8) :
    sendWebsocketMessage data opcode self =
      { self with sent := self.sent ++ (sendWebsocketMessage data opcode ⟨.ofBytes [], true, []⟩).sent } := rfl

/-- There is never a message that a frame could go on with. -/
theorem handleFrame_data (hdata : f.opcode &&& 0x08 = 0) :
    handleFrame f.message ⟨self, prevMsg, false⟩ =
      if f.opcode = 0 then .next ⟨{ self with isOpen := false }, prevMsg, false⟩
      else if f.header0 &&& 0x80 ≠ 0 then .done (.ok f.message, self)
      else .next ⟨self, f.message, false⟩ := by
  have hopcode : f.message.header.1 &&& 0x0F = f.opcode := rfl
  unfold handleFrame
  rw [hopcode, if_neg (not_not_intro hdata)]
  dsimp only
  by_cases hzero : f.opcode = 0
  · have hcontinues : false = decide (f.opcode ≠ 0) := (decide_eq_false (not_not_intro hzero)).symm
    rw [if_pos hcontinues, if_pos hzero]
  · have hbegins : ¬ false = decide (f.opcode ≠ 0) := by
      rw [decide_eq_true hzero]
      exact Bool.false_ne_true
    have hpresent : (!false) = true := rfl
    rw [if_neg hbegins, if_neg hzero, if_pos hpresent]
    rfl

/-- A frame that passes is answered if it is a ping. -/
theorem handleFrame_passes (self : HTTPClient) (prevMsg : WebSocketMessage) (h : f.Passes) : ∃ prevMsg',
    handleFrame f.message ⟨self, prevMsg, false⟩ =
      .next ⟨{ self with sent := self.sent ++ f.reply }, prevMsg', false⟩ := by
  cases h with
  | ping h =>
      have hopcode : f.message.header.1 &&& 0x0F = 0x09 := h
      refine ⟨prevMsg, ?_⟩
      unfold handleFrame
      rw [hopcode, if_pos (by decide), if_neg (by decide), if_neg (by decide), if_pos rfl,
        sent_sendWebsocketMessage, Frame.reply, if_pos h]
      rfl
  | pong h =>
      have hopcode : f.message.header.1 &&& 0x0F = 0x0A := h
      have hother : f.opcode ≠ 0x09 := by
        rw [h]
        decide
      refine ⟨prevMsg, ?_⟩
      unfold handleFrame
      rw [hopcode, if_pos (by decide), if_pos rfl, Frame.reply, if_neg hother, List.append_nil]
  | unfinished hdata hopcode hfin =>
      have hother : f.opcode ≠ 0x09 := by
        intro h
        rw [h] at hdata
        exact absurd hdata (by decide)
      refine ⟨f.message, ?_⟩
      rw [handleFrame_data hdata, if_neg hopcode, if_neg (not_not_intro hfin), Frame.reply, if_neg hother,
        List.append_nil]

theorem reaches_passes {frames : List Frame} (hvalid : ∀ f ∈ frames, f.Valid maxDataSize)
    (hpasses : ∀ f ∈ frames, f.Passes) (hopen : self.isOpen = true)
    (hremaining : self.r.remaining = frames.flatMap Frame.bytes ++ rest) (prevMsg : WebSocketMessage) :
    ∃ offset prevMsg', FuelLoop.Reaches (recvBody maxDataSize) ⟨self, prevMsg, false⟩
      ⟨⟨⟨rest, offset⟩, true, self.sent ++ frames.flatMap Frame.reply⟩, prevMsg', false⟩ := by
  induction frames generalizing self prevMsg with
  | nil =>
      obtain ⟨⟨remaining, offset⟩, isOpen, sent⟩ := self
      obtain rfl : isOpen = true := hopen
      obtain rfl : remaining = rest := hremaining
      refine ⟨offset, prevMsg, ?_⟩
      rw [List.flatMap_nil, List.append_nil]
      exact .refl
  | cons f frames ih =>
      obtain ⟨hf, hframes⟩ := List.forall_mem_cons.mp hvalid
      obtain ⟨hpass, hpass'⟩ := List.forall_mem_cons.mp hpasses
      rw [List.flatMap_cons, List.append_assoc] at hremaining
      obtain ⟨prevMsg', hstep⟩ := handleFrame_passes
        { self with r := ⟨frames.flatMap Frame.bytes ++ rest, self.r.offset + f.bytes.length⟩ } prevMsg hpass
      let self' : HTTPClient := ⟨⟨frames.flatMap Frame.bytes ++ rest, self.r.offset + f.bytes.length⟩, self.isOpen,
        self.sent ++ f.reply⟩
      have hopen' : self'.isOpen = true := hopen
      obtain ⟨offset, last, hrest⟩ := ih hframes hpass' hopen' rfl prevMsg'
      refine ⟨offset, last, .head ((recvBody_frame hf hopen hremaining prevMsg).trans hstep) ?_⟩
      rw [List.flatMap_cons, ← List.append_assoc]
      exact hrest

/-! Messages. -/

/-- A message in one frame. -/
structure Frame.Whole (f : Frame) : Prop where
  data : f.opcode &&& 0x08 = 0
  opcode_ne : f.opcode ≠ 0
  fin : f.header0 &&& 0x80 ≠ 0

theorem handleFrame_whole (h : f.Whole) : handleFrame f.message ⟨self, prevMsg, false⟩ =
    .done (.ok f.message, self) := by
  rw [handleFrame_data h.data, if_neg h.opcode_ne, if_pos h.fin]

/-- A continuation of a message closes the connection. -/
theorem handleFrame_continuation (h : f.opcode = 0) : handleFrame f.message ⟨self, prevMsg, false⟩ =
    .next ⟨{ self with isOpen := false }, prevMsg, false⟩ := by
  have hdata : f.opcode &&& 0x08 = 0 := by
    rw [h]
    rfl
  rw [handleFrame_data hdata, if_pos h]

/-- A message in one frame, and the frames before it. -/
structure Delivery where
  before : List Frame
  frame : Frame

namespace Delivery

def frames (d : Delivery) : List Frame := d.before ++ [d.frame]

def bytes (d : Delivery) : List UInt8 := d.frames.flatMap Frame.bytes

def replies (d : Delivery) : List UInt8 := d.before.flatMap Frame.reply

structure Valid (maxDataSize : Nat) (d : Delivery) : Prop where
  frames : ∀ f ∈ d.frames, f.Valid maxDataSize
  passes : ∀ f ∈ d.before, f.Passes
  whole : d.frame.Whole

end Delivery

theorem recv_delivery {d : Delivery} (h : d.Valid maxDataSize) (hopen : self.isOpen = true)
    (hremaining : self.r.remaining = d.bytes ++ rest) : ∃ offset,
      recvWebsocketMessage maxDataSize self =
        (.ok d.frame.message, ⟨⟨rest, offset⟩, true, self.sent ++ d.replies⟩) := by
  rw [Delivery.bytes, Delivery.frames, List.flatMap_append, List.flatMap_singleton, List.append_assoc] at hremaining
  obtain ⟨hbefore, hlast⟩ := List.forall_mem_append.mp h.frames
  obtain ⟨offset, prevMsg, hreach⟩ := reaches_passes hbefore h.passes hopen hremaining {}
  refine ⟨offset + d.frame.bytes.length, recv_of_reaches hreach ?_⟩
  rw [recvBody_frame (hlast _ List.mem_cons_self) rfl rfl, handleFrame_whole h.whole]
  rfl

theorem recvMessages_deliveries {ds : List Delivery} (h : ∀ d ∈ ds, d.Valid maxDataSize)
    (hopen : self.isOpen = true) (hremaining : self.r.remaining = ds.flatMap Delivery.bytes ++ rest) :
    ∃ offset, recvMessages maxDataSize ds.length self =
      (ds.map fun d => d.frame.message, ⟨⟨rest, offset⟩, true, self.sent ++ ds.flatMap Delivery.replies⟩) := by
  induction ds generalizing self with
  | nil =>
      obtain ⟨⟨remaining, offset⟩, isOpen, sent⟩ := self
      obtain rfl : isOpen = true := hopen
      obtain rfl : remaining = rest := hremaining
      refine ⟨offset, ?_⟩
      rw [List.flatMap_nil, List.append_nil]
      rfl
  | cons d ds ih =>
      obtain ⟨hd, hds⟩ := List.forall_mem_cons.mp h
      rw [List.flatMap_cons, List.append_assoc] at hremaining
      obtain ⟨offset, hrecv⟩ := recv_delivery hd hopen hremaining
      let self' : HTTPClient := ⟨⟨ds.flatMap Delivery.bytes ++ rest, offset⟩, true, self.sent ++ d.replies⟩
      have hopen' : self'.isOpen = true := rfl
      obtain ⟨offset', hrest⟩ := ih hds hopen' rfl
      refine ⟨offset', ?_⟩
      rw [List.length_cons, recvMessages, hrecv]
      dsimp only
      rw [hrest, List.flatMap_cons, ← List.append_assoc]
      rfl

/-- Messages in one frame each are received in order, whatever comes between them, and
every ping is answered. A message that was begun before is lost. -/
theorem messages_received (maxDataSize : Nat) (self : HTTPClient) (ds : List Delivery) (rest : List UInt8)
    (h : ∀ d ∈ ds, d.Valid maxDataSize) (hopen : self.isOpen = true)
    (hremaining : self.r.remaining = ds.flatMap Delivery.bytes ++ rest) :
    (recvMessages maxDataSize ds.length self).1.map WebSocketMessage.data = ds.map (·.frame.data) ∧
      (recvMessages maxDataSize ds.length self).2.r.remaining = rest ∧
      (recvMessages maxDataSize ds.length self).2.isOpen = true ∧
      (recvMessages maxDataSize ds.length self).2.sent = self.sent ++ ds.flatMap Delivery.replies := by
  obtain ⟨offset, hrecv⟩ := recvMessages_deliveries h hopen hremaining
  rw [hrecv]
  refine ⟨?_, rfl, rfl, rfl⟩
  rw [List.map_map]
  rfl

/-- A ping with the data `!`, and then the data `hi` under a mask. -/
def sampleDelivery : Delivery where
  before := [⟨0x89, .short, some [1, 2, 3, 4], [0x21]⟩]
  frame := ⟨0x81, .short, some [5, 6, 7, 8], [0x68, 0x69]⟩

theorem valid_sampleDelivery : sampleDelivery.Valid 0x200000 where
  frames f hf := by
    rcases List.mem_cons.mp hf with rfl | hf
    · exact ⟨by decide, fun key hkey => by cases hkey; rfl, by decide⟩
    · obtain rfl := List.mem_singleton.mp hf
      exact ⟨by decide, fun key hkey => by cases hkey; rfl, by decide⟩
  passes f hf := by
    obtain rfl := List.mem_singleton.mp hf
    exact .ping rfl
  whole := ⟨rfl, by decide, by decide⟩

theorem messages_received_sampleDelivery :
    (recvMessages 0x200000 1 ⟨.ofBytes sampleDelivery.bytes, true, []⟩).1.map WebSocketMessage.data =
        [[0x68, 0x69]] ∧
      (recvMessages 0x200000 1 ⟨.ofBytes sampleDelivery.bytes, true, []⟩).2.sent = [0x8A, 1, 0x21] := by
  have h := messages_received 0x200000 ⟨.ofBytes sampleDelivery.bytes, true, []⟩ [sampleDelivery] []
    (fun d hd => List.mem_singleton.mp hd ▸ valid_sampleDelivery) rfl (by decide)
  exact ⟨h.1, h.2.2.2⟩

/-- A message in several frames is never received: the frame that goes on with it closes
the connection. -/
theorem fragments_close (maxDataSize : Nat) (self : HTTPClient) (before : List Frame) (continuation : Frame)
    (rest : List UInt8) (hvalid : ∀ f ∈ before, f.Valid maxDataSize) (hpasses : ∀ f ∈ before, f.Passes)
    (hcontinuation : continuation.Valid maxDataSize) (hopcode : continuation.opcode = 0)
    (hopen : self.isOpen = true)
    (hremaining : self.r.remaining = before.flatMap Frame.bytes ++ (continuation.bytes ++ rest)) :
    (recvWebsocketMessage maxDataSize self).1 = .error (.logicError "failed to receive websocket message") ∧
      (recvWebsocketMessage maxDataSize self).2.isOpen = false ∧
      (recvWebsocketMessage maxDataSize self).2.sent = self.sent ++ before.flatMap Frame.reply := by
  obtain ⟨offset, prevMsg, hreach⟩ := reaches_passes hvalid hpasses hopen hremaining {}
  let last : HTTPClient := ⟨⟨rest, offset + continuation.bytes.length⟩, false,
    self.sent ++ before.flatMap Frame.reply⟩
  have hstep : recvBody maxDataSize ⟨⟨⟨continuation.bytes ++ rest, offset⟩, true,
      self.sent ++ before.flatMap Frame.reply⟩, prevMsg, false⟩ = .next ⟨last, prevMsg, false⟩ := by
    rw [recvBody_frame hcontinuation rfl rfl, handleFrame_continuation hopcode]
  have hdone : recvBody maxDataSize ⟨last, prevMsg, false⟩ =
      .done (.error (.logicError "failed to receive websocket message"), last) := rfl
  rw [recv_of_reaches (hreach.tail hstep) hdone]
  exact ⟨rfl, rfl, rfl⟩

/-- The beginning of a message, the answer to a ping, and the rest of the message. -/
def sampleFragments : List Frame × Frame :=
  ([⟨0x01, .short, none, [0x68]⟩, ⟨0x8A, .short, none, []⟩], ⟨0x80, .short, none, [0x69]⟩)

theorem fragments_close_sampleFragments :
    (recvWebsocketMessage 0x200000 ⟨.ofBytes (sampleFragments.1.flatMap Frame.bytes ++
      (sampleFragments.2.bytes ++ [])), true, []⟩).1 =
        .error (.logicError "failed to receive websocket message") := by
  refine (fragments_close 0x200000 _ sampleFragments.1 sampleFragments.2 [] ?_ ?_ ?_ rfl rfl rfl).1
  · intro f hf
    rcases List.mem_cons.mp hf with rfl | hf
    · exact ⟨by decide, fun key hkey => (Option.some_ne_none key hkey.symm).elim, by decide⟩
    · obtain rfl := List.mem_singleton.mp hf
      exact ⟨by decide, fun key hkey => (Option.some_ne_none key hkey.symm).elim, by decide⟩
  · intro f hf
    rcases List.mem_cons.mp hf with rfl | hf
    · exact .unfinished rfl (by decide) rfl
    · obtain rfl := List.mem_singleton.mp hf
      exact .pong rfl
  · exact ⟨by decide, fun key hkey => (Option.some_ne_none key hkey.symm).elim, by decide⟩

/-! Messages that are sent. -/

/-- The frame of a message that is sent. -/
def sentFrame (data : List UInt8) (opcode : UInt8) : Frame where
  header0 := 0x80 ||| (opcode &&& 0x0F)
  form := if data.length > 0xFFFF then .quad else if data.length > 0x7D then .word else .short
  maskKey := none
  data := data

theorem sendWebsocketMessage_eq (data : List UInt8) (opcode : UInt8) :
    sendWebsocketMessage data opcode self =
      { self with sent := self.sent ++ (sentFrame data opcode).bytes } := by
  unfold sendWebsocketMessage Frame.bytes sentFrame Frame.header1
  simp only [Option.isSome_none, Bool.false_eq_true, if_false]
  split_ifs <;> rfl

theorem whole_sentFrame (data : List UInt8) : (sentFrame data 0x01).Whole := by
  have hheader : (sentFrame data 0x01).header0 = 0x81 := rfl
  have hopcode : (sentFrame data 0x01).opcode = 0x01 := congrArg (· &&& 0x0F) hheader
  refine ⟨?_, ?_, ?_⟩
  · rw [hopcode]
    rfl
  · rw [hopcode]
    decide
  · rw [hheader]
    decide

theorem valid_sentFrame {data : List UInt8} (opcode : UInt8) (hsize : data.length ≤ maxDataSize)
    (hmax : maxDataSize < 2 ^ 64) : (sentFrame data opcode).Valid maxDataSize where
  fits := by
    unfold sentFrame
    dsimp only
    split_ifs with hquad hword
    · exact hsize.trans_lt hmax
    · exact Nat.lt_succ_of_le (Nat.le_of_not_lt hquad)
    · exact Nat.lt_succ_of_le (Nat.le_of_not_lt hword)
  key_length key hkey := (Option.some_ne_none key hkey.symm).elim
  size_le := hsize

theorem flatMap_sentFrame (msgs : List (List UInt8)) :
    (msgs.foldl (fun self data => sendWebsocketMessage data 0x01 self) self).sent =
      self.sent ++ msgs.flatMap fun data => (sentFrame data 0x01).bytes := by
  induction msgs generalizing self with
  | nil => rw [List.flatMap_nil, List.append_nil, List.foldl_nil]
  | cons data msgs ih =>
      rw [List.foldl_cons, ih, sendWebsocketMessage_eq, List.flatMap_cons, List.append_assoc]

/-- Messages of any size up to the limit that one end sends are what the other end
receives. -/
theorem sent_received (maxDataSize : Nat) (hmax : maxDataSize < 2 ^ 64) (msgs : List (List UInt8))
    (hsize : ∀ data ∈ msgs, data.length ≤ maxDataSize) (sender self : HTTPClient)
    (hsender : sender.sent = []) (hopen : self.isOpen = true)
    (hremaining : self.r.remaining =
      (msgs.foldl (fun self data => sendWebsocketMessage data 0x01 self) sender).sent) :
    (recvMessages maxDataSize msgs.length self).1.map WebSocketMessage.data = msgs ∧
      (recvMessages maxDataSize msgs.length self).2.r.remaining = [] := by
  let ds : List Delivery := msgs.map fun data => ⟨[], sentFrame data 0x01⟩
  have hvalid : ∀ d ∈ ds, d.Valid maxDataSize := by
    intro d hd
    obtain ⟨data, hdata, rfl⟩ := List.mem_map.mp hd
    refine ⟨fun f hf => ?_, fun f hf => absurd hf List.not_mem_nil, whole_sentFrame data⟩
    obtain rfl := List.mem_singleton.mp hf
    exact valid_sentFrame 0x01 (hsize data hdata) hmax
  have hbytes : self.r.remaining = ds.flatMap Delivery.bytes ++ [] := by
    rw [hremaining, flatMap_sentFrame, hsender, List.nil_append, List.append_nil, List.flatMap_map]
    refine List.flatMap_congr fun data _ => ?_
    rw [Delivery.bytes, Delivery.frames, List.nil_append, List.flatMap_singleton]
  obtain ⟨offset, hrecv⟩ := recvMessages_deliveries hvalid hopen hbytes
  rw [List.length_map] at hrecv
  rw [hrecv]
  refine ⟨?_, rfl⟩
  rw [List.map_map, List.map_map]
  exact List.map_id _

theorem sent_received_hi :
    (recvMessages 0x200000 1 ⟨.ofBytes (sendWebsocketMessage [0x68, 0x69] 0x01
      ⟨.ofBytes [], true, []⟩).sent, true, []⟩).1.map WebSocketMessage.data = [[0x68, 0x69]] :=
  (sent_received 0x200000 (by decide) [[0x68, 0x69]] (by decide) ⟨.ofBytes [], true, []⟩ _ rfl rfl rfl).1

end HuntersGuild.WebSockets
