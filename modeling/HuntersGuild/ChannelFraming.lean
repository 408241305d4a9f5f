import HuntersGuild.Channels
import HuntersGuild.MessageStreams

/-!
The framing of commands: what one channel sends is what the channel at the
other end receives, except on Blue Burst before the encryption is enabled.
-/

namespace HuntersGuild.ChannelFraming

open HuntersGuild.ByteStreams
open HuntersGuild.Channels
open HuntersGuild.Channels.HeaderLayout (field)
open HuntersGuild.ExceptionRules
open HuntersGuild.Items (Version)
open HuntersGuild.MessageStreams
open HuntersGuild.PsoBbEncryption (KeyFile)
open HuntersGuild.PsoLfgEncryption (PSOLFGEncryption)
open HuntersGuild.WordBytes
open HuntersGuild.WordStreams

section Sizes

theorem le_roundUp {n : Nat} (hn : 0 < n) (size : Nat) : size ≤ roundUp n size := by
  have hdiv := Nat.div_add_mod (size + n - 1) n
  have hmod := Nat.mod_lt (size + n - 1) hn
  unfold roundUp
  rw [Nat.mul_comm]
  omega

theorem resize_of_le {size : Nat} {data : List UInt8} (h : data.length ≤ size) :
    resize size data = data ++ List.replicate (size - data.length) 0 := by
  rw [resize, List.take_of_length_le h]

theorem resize_length (data : List UInt8) : resize data.length data = data := by
  rw [resize_of_le (Nat.le_refl _), Nat.sub_self, List.replicate_zero, List.append_nil]

theorem resize_append (data rest : List UInt8) :
    resize data.length (data ++ rest) = data := by
  rw [resize, List.take_left', List.length_append, Nat.sub_eq_zero_of_le (Nat.le_add_right _ _),
    List.replicate_zero, List.append_nil]
  rfl

theorem length_resize (size : Nat) (data : List UInt8) : (resize size data).length = size := by
  rw [resize, List.length_append, List.length_take, List.length_replicate]
  omega

end Sizes

section Ciphers

/-- The version uses ciphers of this class. -/
def Suits (version : Version) : Option PSOEncryption → Prop
  | none => True
  | some (.lfg _) => version ≠ .bbV4
  | some (.bb _) => version = .bbV4

theorem encrypt_lfg (cipher : PSOLFGEncryption) (data : List UInt8) :
    encrypt (some (.lfg cipher)) data =
      .ok ((cipher.encrypt data).1, some (.lfg (cipher.encrypt data).2)) := rfl

theorem decrypt_lfg (cipher : PSOLFGEncryption) (data : List UInt8) :
    decrypt (some (.lfg cipher)) data =
      .ok ((cipher.encrypt data).1, some (.lfg (cipher.encrypt data).2)) := rfl

theorem encrypt_bb {cipher cipher' : KeyFile} {data out : List UInt8}
    (h : PsoBbEncryption.encrypt cipher data = .ok (out, cipher')) :
    encrypt (some (.bb cipher)) data = .ok (out, some (.bb cipher')) := by
  simp only [encrypt, PSOEncryption.encrypt, h, ok_bind, pure_eq_ok]

theorem decrypt_bb {cipher cipher' : KeyFile} {data out : List UInt8}
    (h : PsoBbEncryption.decrypt cipher data = .ok (out, cipher')) :
    decrypt (some (.bb cipher)) data = .ok (out, some (.bb cipher')) := by
  simp only [decrypt, PSOEncryption.decrypt, h, ok_bind, pure_eq_ok]

/-- The padded bytes of the last word do not disturb the others. -/
theorem decryptPadded_lfg (cipher : PSOLFGEncryption) (data : List UInt8) :
    decryptPadded (some (.lfg cipher)) (cipher.encrypt data).1 =
      .ok (data, some (.lfg (cipher.encrypt data).2)) := by
  have hlength : (cipher.encrypt data).1.length = data.length := length_xorWords data
  have hround := le_roundUp (n := 4) (by decide) data.length
  have hwords : (data.length + (List.replicate (roundUp 4 data.length - data.length) (0 : UInt8)).length
      + 3) / 4 = (data.length + 3) / 4 := by
    rw [List.length_replicate]
    unfold roundUp at hround ⊢
    omega
  obtain ⟨rest, -, hrecover⟩ := @xorWords_recover _ PSOLFGEncryption.next cipher data _ hwords
  have hdecrypt : cipher.encrypt (resize (roundUp 4 data.length) (cipher.encrypt data).1) =
      (data ++ rest, (cipher.encrypt data).2) := by
    rw [resize_of_le (hlength.trans_le hround), hlength]
    exact hrecover
  simp only [decryptPadded, Option.isSome_some, if_pos, hlength, decrypt_lfg, hdecrypt, ok_bind,
    resize_append, pure_eq_ok]

theorem decryptPadded_of_aligned {crypt crypt' : Option PSOEncryption} {data out : List UInt8}
    (hdata : 4 ∣ data.length) (hlength : out.length = data.length)
    (h : decrypt crypt data = .ok (out, crypt')) : decryptPadded crypt data = .ok (out, crypt') := by
  match crypt with
  | none =>
      obtain ⟨rfl, rfl⟩ := Prod.mk.inj (Except.ok.inj h)
      rfl
  | some crypt =>
      have hround : roundUp 4 data.length = data.length := by
        unfold roundUp
        omega
      simp only [decryptPadded, Option.isSome_some, if_pos, hround, resize_length, h, ok_bind,
        pure_eq_ok]
      rw [← hlength, resize_length]

/-- What is encrypted at once is decrypted in two parts, a header and the rest
of the command. -/
theorem exists_parts {version : Version} {crypt : Option PSOEncryption} (hsuits : Suits version crypt)
    {header body : List UInt8} (hheader : header.length = headerSize version)
    (hbody : version = .bbV4 → crypt.isSome → 8 ∣ body.length) :
    ∃ outHeader outBody mid final,
      encrypt crypt (header ++ body) = .ok (outHeader ++ outBody, final) ∧
      outHeader.length = header.length ∧ outBody.length = body.length ∧
      decrypt crypt outHeader = .ok (header, mid) ∧
      decryptPadded mid outBody = .ok (body, final) ∧ Suits version final ∧
      final.isSome = crypt.isSome := by
  match crypt, hsuits, hbody with
  | none, _, _ => exact ⟨header, body, none, none, rfl, rfl, rfl, rfl, rfl, trivial, rfl⟩
  | some (.lfg cipher), hsuits, _ =>
      have hfour : 4 ∣ header.length := by
        rw [hheader, headerSize, if_neg hsuits]
      let mid := (cipher.encrypt header).2
      refine ⟨(cipher.encrypt header).1, (mid.encrypt body).1, some (.lfg mid),
        some (.lfg (mid.encrypt body).2), ?_, length_xorWords header, length_xorWords body, ?_,
        decryptPadded_lfg mid body, hsuits, rfl⟩
      · have happend : cipher.encrypt (header ++ body) =
            ((cipher.encrypt header).1 ++ (mid.encrypt body).1, (mid.encrypt body).2) :=
          xorWords_append hfour body
        rw [encrypt_lfg, happend]
      · have hrecover : cipher.encrypt (cipher.encrypt header).1 = (header, mid) :=
          xorWords_xorWords header
        rw [decrypt_lfg, hrecover]
  | some (.bb cipher), hsuits, hbody =>
      have height : 8 ∣ header.length := by
        rw [hheader, headerSize, if_pos (show version = .bbV4 from hsuits)]
      have hbody : 8 ∣ body.length := hbody hsuits rfl
      obtain ⟨outHeader, mid, hencHeader, hdecHeader, hmid⟩ :=
        PsoBbEncryption.decrypt_encrypt (PsoBbEncryption.acceptsSize_of_dvd cipher.subtype height)
      obtain ⟨outBody, final, hencBody, hdecBody, -⟩ :=
        PsoBbEncryption.decrypt_encrypt (PsoBbEncryption.acceptsSize_of_dvd mid.subtype hbody)
      have hlength := PsoBbEncryption.encrypt_length hencBody
      have hfour : 4 ∣ outBody.length := by
        rw [hlength]
        exact (by decide : 4 ∣ 8).trans hbody
      refine ⟨outHeader, outBody, some (.bb mid), some (.bb final), ?_,
        PsoBbEncryption.encrypt_length hencHeader, hlength, decrypt_bb hdecHeader, ?_, hsuits, rfl⟩
      · exact encrypt_bb (PsoBbEncryption.encrypt_append height hencHeader hencBody)
      · exact decryptPadded_of_aligned hfour hlength.symm (decrypt_bb hdecBody)

end Ciphers

section Headers

/-- A field that is written between other fields is read back. -/
theorem field_littleEndian {width n offset : Nat} (hn : n < 256 ^ width) {x : List UInt8}
    (hx : x.length = offset) (z : List UInt8) :
    field (x ++ (littleEndian width n ++ z)) offset width = n := by
  rw [field, List.drop_left' hx, List.take_left' (length_littleEndian width n),
    fromLittleEndian_littleEndian_of_lt hn]

theorem field_first {width n : Nat} (hn : n < 256 ^ width) (z : List UInt8) :
    field (littleEndian width n ++ z) 0 width = n :=
  @field_littleEndian width n 0 hn [] rfl z

theorem field_last {width n offset : Nat} (hn : n < 256 ^ width) {x : List UInt8}
    (hx : x.length = offset) : field (x ++ littleEndian width n) offset width = n := by
  have h := field_littleEndian hn hx []
  rwa [List.append_nil] at h

variable {layout : HeaderLayout} {version : Version} {command : UInt16} {flag : UInt32} {size : Nat}

theorem length_write (h : headerLayout version = some layout) :
    (layout.write command flag size).length = headerSize version := by
  cases version <;> cases h <;> rfl

/-- The values fit into the fields of the header. -/
structure Fits (layout : HeaderLayout) (command : UInt16) (flag : UInt32) : Prop where
  command_lt : layout ≠ .bb → command.toNat < 0x100
  flag_lt : layout ≠ .bb → flag.toNat < 0x100

theorem command_write (h : Fits layout command flag) :
    layout.command (layout.write command flag size) = command := by
  have hword : command.toNat < 256 ^ 2 := command.toNat_lt
  unfold HeaderLayout.write
  cases layout with
  | dcv3 =>
      have hbyte : command.toNat < 256 ^ 1 := h.command_lt (by decide)
      simp only [HeaderLayout.command, List.append_assoc]
      rw [field_first hbyte, UInt16.ofNat_toNat]
  | pc =>
      have hbyte : command.toNat < 256 ^ 1 := h.command_lt (by decide)
      simp only [HeaderLayout.command, List.append_assoc]
      rw [field_littleEndian hbyte (length_littleEndian 2 size), UInt16.ofNat_toNat]
  | bb =>
      simp only [HeaderLayout.command, List.append_assoc]
      rw [field_littleEndian hword (length_littleEndian 2 size), UInt16.ofNat_toNat]

theorem flag_write (h : Fits layout command flag) :
    layout.flag (layout.write command flag size) = flag := by
  have hdword : flag.toNat < 256 ^ 4 := flag.toNat_lt
  unfold HeaderLayout.write
  cases layout with
  | dcv3 =>
      have hbyte : flag.toNat < 256 ^ 1 := h.flag_lt (by decide)
      simp only [HeaderLayout.flag, List.append_assoc]
      rw [field_littleEndian hbyte (length_littleEndian 1 command.toNat), UInt32.ofNat_toNat]
  | pc =>
      have hbyte : flag.toNat < 256 ^ 1 := h.flag_lt (by decide)
      simp only [HeaderLayout.flag]
      exact (congrArg UInt32.ofNat (field_last hbyte rfl)).trans UInt32.ofNat_toNat
  | bb =>
      simp only [HeaderLayout.flag]
      exact (congrArg UInt32.ofNat (field_last hdword rfl)).trans UInt32.ofNat_toNat

theorem size_write (h : size < 0x10000) : layout.size (layout.write command flag size) = size := by
  have hword : size < 256 ^ 2 := h
  unfold HeaderLayout.write
  cases layout with
  | dcv3 =>
      simp only [HeaderLayout.size]
      exact field_last hword rfl
  | pc =>
      simp only [HeaderLayout.size, List.append_assoc]
      exact field_first hword _
  | bb =>
      simp only [HeaderLayout.size, List.append_assoc]
      exact field_first hword _

end Headers

section Framing

variable {version : Version} {encrypted : Bool} {c : Command} {layout : HeaderLayout}

/-- A command that `send` accepts, with values within the header's fields. -/
structure Sendable (version : Version) (encrypted : Bool) (c : Command) : Prop where
  fits : ∀ layout, headerLayout version = some layout → Fits layout c.command c.flag
  size_le : ∀ layout, headerLayout version = some layout →
    layout.sendDataSize version encrypted c.size ≤ 0x7C00

/-- A command whose size is stated as it is sent: Blue Burst rounds the stated
size also before the encryption is enabled. -/
structure Framed (version : Version) (encrypted : Bool) (c : Command) : Prop where
  known : version ≠ .unknown
  aligned : version = .bbV4 → encrypted = false → 4 ∣ c.size

/-- The message has the command, the flag and the data that were sent, and at
most three bytes of padding. -/
structure Carries (c : Command) (message : Message) : Prop where
  command_eq : message.command = c.command
  flag_eq : message.flag = c.flag
  data_eq : ∃ padding ≤ 3, message.data = c.blocks.flatten ++ List.replicate padding 0

/-- `physical_size` of a command with a logical size. -/
def physicalSize (version : Version) (encrypted : Bool) (logicalSize : Nat) : Nat :=
  if encrypted && version = .bbV4 then roundUp 8 logicalSize else logicalSize

/-- The sizes on the two sides agree. -/
structure SizesAgree (version : Version) (encrypted : Bool) (layout : HeaderLayout) (size : Nat) :
    Prop where
  le_logical : headerSize version + size ≤ layout.logicalSize version encrypted size
  logical_le : layout.logicalSize version encrypted size ≤ headerSize version + size + 3
  logical_le_sent : layout.logicalSize version encrypted size ≤
    layout.sendDataSize version encrypted size
  physical_eq : physicalSize version encrypted (layout.logicalSize version encrypted size) =
    layout.sendDataSize version encrypted size
  blocks : version = .bbV4 → encrypted →
    8 ∣ layout.sendDataSize version encrypted size - headerSize version

/-- The headers of the other versions state the size that is sent. -/
theorem sizesAgree_of_ne (hlayout : headerLayout version = some layout) (hversion : version ≠ .bbV4)
    (size : Nat) : SizesAgree version encrypted layout size := by
  have hheader : headerSize version = 4 := if_neg hversion
  have hlogical : layout.logicalSize version encrypted size = layout.sendDataSize version encrypted size := by
    cases version <;> cases hlayout <;> first | rfl | exact absurd rfl hversion
  have hsent : layout.sendDataSize version encrypted size = 4 + size ∨
      layout.sendDataSize version encrypted size = roundUp 4 (4 + size) := by
    unfold HeaderLayout.sendDataSize
    cases layout with
    | dcv3 => split_ifs <;> simp
    | pc => split_ifs <;> simp
    | bb => cases version <;> first | exact absurd rfl hversion | cases hlayout
  have hphysical (size : Nat) : physicalSize version encrypted size = size := by
    unfold physicalSize
    rw [decide_eq_false hversion, Bool.and_false]
    rfl
  refine ⟨?_, ?_, hlogical.le, ?_, fun h => absurd h hversion⟩
  · rw [hlogical, hheader]
    unfold roundUp at hsent
    omega
  · rw [hlogical, hheader]
    unfold roundUp at hsent
    omega
  · rw [hphysical, hlogical]

theorem sizesAgree_bb {size : Nat} (haligned : encrypted = false → 4 ∣ size) :
    SizesAgree .bbV4 encrypted .bb size := by
  have hheader : headerSize .bbV4 = 8 := rfl
  have hlogical : HeaderLayout.bb.logicalSize .bbV4 encrypted size = roundUp 4 (8 + size) := rfl
  cases encrypted with
  | false =>
      have hsent : HeaderLayout.bb.sendDataSize .bbV4 false size = 8 + size := rfl
      have haligned := haligned rfl
      have hround : roundUp 4 (8 + size) = 8 + size := by
        unfold roundUp
        omega
      refine ⟨?_, ?_, ?_, ?_, fun _ h => nomatch h⟩
      · rw [hheader, hlogical, hround]
      · rw [hheader, hlogical, hround]
        omega
      · rw [hlogical, hround, hsent]
      · rw [hlogical, hround, hsent]
        rfl
  | true =>
      have hsent : HeaderLayout.bb.sendDataSize .bbV4 true size = roundUp 8 (8 + size) := rfl
      refine ⟨?_, ?_, ?_, ?_, fun _ _ => ?_⟩
      · rw [hheader, hlogical]
        unfold roundUp
        omega
      · rw [hheader, hlogical]
        unfold roundUp
        omega
      · rw [hlogical, hsent]
        unfold roundUp
        omega
      · rw [hlogical, hsent]
        change roundUp 8 (roundUp 4 (8 + size)) = _
        unfold roundUp
        omega
      · rw [hsent, hheader]
        unfold roundUp
        omega

theorem sizesAgree (hlayout : headerLayout version = some layout)
    (hframed : Framed version encrypted c) : SizesAgree version encrypted layout c.size := by
  by_cases hversion : version = .bbV4
  · subst hversion
    obtain rfl : HeaderLayout.bb = layout := Option.some.inj hlayout
    exact sizesAgree_bb (hframed.aligned rfl)
  · exact sizesAgree_of_ne hlayout hversion c.size

/-- The two ends of a connection, with the ciphers in the same state. -/
structure InStep (version : Version) (encrypted : Bool) (sender receiver : Channel) : Prop where
  sender_version : sender.version = version
  receiver_version : receiver.version = version
  crypt_eq : sender.cryptOut = receiver.cryptIn
  suits : Suits version sender.cryptOut
  encrypted_eq : sender.cryptOut.isSome = encrypted

theorem length_flatten (c : Command) : c.blocks.flatten.length = c.size :=
  List.length_flatten

theorem recvRaw_append {size : Nat} {x : List UInt8} (h : x.length = size) (rest : List UInt8) :
    recvRaw size (x ++ rest) = .ok (x, rest) := by
  rw [recvRaw, List.length_append, if_pos (by omega), List.take_left' h, List.drop_left' h]

theorem resize_append_of_le {size : Nat} {header data : List UInt8} (h : header.length ≤ size) :
    resize size (header ++ data) = header ++ resize (size - header.length) data := by
  have hlength : size - (header ++ data).length = size - header.length - data.length := by
    rw [List.length_append]
    omega
  rw [resize, resize, List.take_append, List.take_of_length_le h, List.append_assoc, hlength]

theorem resize_resize {size size' : Nat} {data : List UInt8} (h : data.length ≤ size')
    (h' : size' ≤ size) :
    resize size' (resize size data) = data ++ List.replicate (size' - data.length) 0 := by
  have hmin : min (size' - data.length) (size - data.length) = size' - data.length := by omega
  rw [resize_of_le (h.trans h'), resize, List.take_append, List.take_of_length_le h,
    List.take_replicate, List.length_append, List.length_replicate, hmin]
  have hzero : size' - (data.length + (size - data.length)) = 0 := by omega
  rw [hzero, List.replicate_zero, List.append_nil]

theorem requireLayout_of_some (h : headerLayout version = some layout) (what : String) :
    requireLayout version what = .ok layout := by
  rw [requireLayout, h]

/-- One command is received as it was sent, whatever follows it. -/
theorem recv_send {sender receiver : Channel} (h : InStep version encrypted sender receiver)
    (hsendable : Sendable version encrypted c) (hframed : Framed version encrypted c) :
    ∃ out sender' message receiver', sender.send c = .ok (out, sender') ∧
      (∀ rest, receiver.recv (out ++ rest) = .ok (message, rest, receiver')) ∧ Carries c message ∧
        InStep version encrypted sender' receiver' := by
  obtain ⟨rfl, hversion, hcrypt, hsuits, rfl⟩ := h
  obtain ⟨layout, hlayout⟩ : ∃ layout, headerLayout sender.version = some layout := by
    have hknown := hframed.known
    cases hv : sender.version <;> first | exact ⟨_, rfl⟩ | exact absurd hv hknown
  have hsizes := sizesAgree hlayout hframed
  have hle := hsendable.size_le layout hlayout
  obtain ⟨hlogical, hlogical', hsent, hphysical, hblocks⟩ := hsizes
  generalize hsendDataSize : layout.sendDataSize sender.version sender.cryptOut.isSome c.size =
    sendDataSize at *
  generalize hlogicalSize : layout.logicalSize sender.version sender.cryptOut.isSome c.size =
    logicalSize at *
  have hheader : (layout.write c.command c.flag logicalSize).length = headerSize sender.version :=
    length_write hlayout
  have hbody : (resize (sendDataSize - headerSize sender.version) c.blocks.flatten).length =
      sendDataSize - headerSize sender.version := length_resize _ _
  have hdata : resize sendDataSize (layout.write c.command c.flag logicalSize ++ c.blocks.flatten) =
      layout.write c.command c.flag logicalSize ++
        resize (sendDataSize - headerSize sender.version) c.blocks.flatten := by
    rw [resize_append_of_le (by omega), hheader]
  obtain ⟨outHeader, outBody, mid, final, hencrypt, hlengthHeader, hlengthBody, hdecrypt, hpadded,
    hfinal, hsome⟩ := exists_parts hsuits hheader fun hbb hsome => hbody ▸ hblocks hbb hsome
  refine ⟨outHeader ++ outBody, { sender with cryptOut := final },
    ⟨c.command, c.flag, resize (logicalSize - headerSize sender.version)
      (resize (sendDataSize - headerSize sender.version) c.blocks.flatten)⟩,
    { receiver with cryptIn := final }, ?_, ?_, ⟨rfl, rfl, ?_⟩, ⟨rfl, hversion, rfl, hfinal, hsome⟩⟩
  · simp only [Channel.send, requireLayout_of_some hlayout, hsendDataSize, hlogicalSize, ok_bind, hdata, hencrypt,
      if_neg (Nat.not_lt.mpr hle), pure_eq_ok]
  · intro rest
    have hsize : layout.size (layout.write c.command c.flag logicalSize) = logicalSize :=
      size_write (by omega)
    have hfits := hsendable.fits layout hlayout
    have hnot : ¬ logicalSize < headerSize sender.version := by omega
    unfold physicalSize at hphysical
    rw [List.append_assoc]
    simp only [Channel.recv, hversion, recvRaw_append (hlengthHeader.trans hheader), ok_bind,
      ← hcrypt, hdecrypt, requireLayout_of_some hlayout, hsize, if_neg hnot, hphysical,
      recvRaw_append (hlengthBody.trans hbody), hpadded, pure_eq_ok, command_write hfits,
      flag_write hfits]
  · have hlength := length_flatten c
    refine ⟨logicalSize - headerSize sender.version - c.size, by omega, ?_⟩
    rw [resize_resize (by omega) (by omega), hlength]

/-- Every command sent is received, in order, and no byte is left. -/
def RoundTrips (sender receiver : Channel) (commands : List Command) : Prop :=
  ∃ out sender' messages receiver', sendAll Channel.send sender commands = .ok (out, sender') ∧
    recvAll Channel.recv commands.length receiver out = .ok (messages, [], receiver') ∧
      List.Forall₂ Carries commands messages

theorem roundTrips_of_framed {sender receiver : Channel} {commands : List Command}
    (h : InStep version encrypted sender receiver)
    (hsendable : ∀ c ∈ commands, Sendable version encrypted c)
    (hframed : ∀ c ∈ commands, Framed version encrypted c) : RoundTrips sender receiver commands := by
  have hstep : ∀ sender receiver (c : Command), InStep version encrypted sender receiver →
      Sendable version encrypted c ∧ Framed version encrypted c →
      ∃ out sender' message receiver', sender.send c = .ok (out, sender') ∧
        (∀ rest, receiver.recv (out ++ rest) = .ok (message, rest, receiver')) ∧ Carries c message ∧
          InStep version encrypted sender' receiver' :=
    fun _ _ _ h hc => recv_send h hc.1 hc.2
  obtain ⟨out, sender', messages, receiver', hsend, hrecv, hcarries, -⟩ :=
    recvAll_sendAll hstep (fun c hc => ⟨hsendable c hc, hframed c hc⟩) h
  have hrecv := hrecv []
  rw [List.append_nil] at hrecv
  exact ⟨out, sender', messages, receiver', hsend, hrecv, hcarries⟩

theorem recvRaw_eq_ok {size : Nat} {input x rest : List UInt8} (h : recvRaw size input = .ok (x, rest)) :
    x.length = size ∧ input = x ++ rest := by
  unfold recvRaw at h
  split_ifs at h with hle
  obtain ⟨rfl, rfl⟩ := Prod.mk.inj (Except.ok.inj h)
  exact ⟨List.length_take_of_le hle, (List.take_append_drop size input).symm⟩

/-- What `recv` takes off the stream on Blue Burst, before the encryption is
enabled. -/
theorem recv_plain {receiver receiver' : Channel} {input rest : List UInt8} {message : Message}
    (hversion : receiver.version = .bbV4) (hcrypt : receiver.cryptIn = none)
    (h : receiver.recv input = .ok (message, rest, receiver')) :
    ∃ header body, header.length = 8 ∧ input = header ++ (body ++ rest) ∧
      message.data.length = body.length ∧ HeaderLayout.bb.size header = 8 + body.length ∧
        receiver' = receiver := by
  obtain ⟨version, cryptIn, cryptOut⟩ := receiver
  obtain rfl : version = .bbV4 := hversion
  obtain rfl : cryptIn = none := hcrypt
  simp only [Channel.recv, bind_eq_ok] at h
  obtain ⟨⟨header, input₁⟩, hheader, ⟨decrypted, mid⟩, hdecrypt, layout, hlayout, h⟩ := h
  obtain ⟨rfl, rfl⟩ := Prod.mk.inj (Except.ok.inj hdecrypt)
  obtain rfl : HeaderLayout.bb = layout := Except.ok.inj hlayout
  obtain ⟨hlength, rfl⟩ := recvRaw_eq_ok hheader
  dsimp only at h
  by_cases hsmall : HeaderLayout.bb.size header < headerSize .bbV4
  · rw [if_pos hsmall] at h
    cases h
  · rw [if_neg hsmall] at h
    simp only [bind_eq_ok] at h
    obtain ⟨⟨body, input₂⟩, hbody, ⟨decryptedBody, final⟩, hdecryptBody, h⟩ := h
    obtain ⟨rfl, rfl⟩ := Prod.mk.inj (Except.ok.inj hdecryptBody)
    obtain ⟨hlengthBody, rfl⟩ := recvRaw_eq_ok hbody
    obtain ⟨rfl, hrest⟩ := Prod.mk.inj (Except.ok.inj h)
    obtain ⟨rfl, rfl⟩ := Prod.mk.inj hrest
    have hlengthBody : body.length = HeaderLayout.bb.size header - 8 := hlengthBody
    have hlarge : 8 ≤ HeaderLayout.bb.size header := Nat.not_lt.mp hsmall
    exact ⟨header, body, hlength, rfl, (length_resize _ _).trans hlengthBody.symm, by omega, rfl⟩

variable {sender receiver sender' receiver' : Channel} {commands : List Command}
  {messages : List Message} {out rest : List UInt8}

/-- What `send` gives on Blue Burst, before the encryption is enabled. -/
theorem send_plain (hversion : sender.version = .bbV4) (hcrypt : sender.cryptOut = none)
    (h : sender.send c = .ok (out, sender')) :
    out = HeaderLayout.bb.write c.command c.flag (roundUp 4 (8 + c.size)) ++ c.blocks.flatten ∧
      8 + c.size ≤ 0x7C00 ∧ sender' = sender := by
  obtain ⟨version, cryptIn, cryptOut⟩ := sender
  obtain rfl : version = .bbV4 := hversion
  obtain rfl : cryptOut = none := hcrypt
  simp only [Channel.send, bind_eq_ok] at h
  obtain ⟨layout, hlayout, h⟩ := h
  obtain rfl : HeaderLayout.bb = layout := Except.ok.inj hlayout
  by_cases hlarge : HeaderLayout.bb.sendDataSize .bbV4 (none : Option PSOEncryption).isSome c.size >
      0x7C00
  · rw [if_pos hlarge] at h
    cases h
  · rw [if_neg hlarge] at h
    simp only [bind_eq_ok] at h
    obtain ⟨⟨data, crypt⟩, hdata, h⟩ := h
    obtain ⟨rfl, rfl⟩ := Prod.mk.inj (Except.ok.inj hdata)
    obtain ⟨rfl, rfl⟩ := Prod.mk.inj (Except.ok.inj h)
    refine ⟨?_, Nat.not_lt.mp hlarge, rfl⟩
    have hlength : (HeaderLayout.bb.write c.command c.flag (roundUp 4 (8 + c.size)) ++
        c.blocks.flatten).length = 8 + c.size := by
      rw [List.length_append, length_flatten]
      rfl
    exact (congrArg (resize · _) hlength.symm).trans (resize_length _)

/-- The receiver trusts the size in the header. -/
theorem length_of_recv_plain (hversion : sender.version = .bbV4) (hcrypt : sender.cryptOut = none)
    (hversion' : receiver.version = .bbV4) (hcrypt' : receiver.cryptIn = none)
    {input : List UInt8} {message : Message} (hsend : sender.send c = .ok (out, sender'))
    (hrecv : receiver.recv (out ++ input) = .ok (message, rest, receiver')) :
    8 + message.data.length = roundUp 4 (8 + c.size) := by
  obtain ⟨rfl, hsize, -⟩ := send_plain hversion hcrypt hsend
  obtain ⟨header, body, hheader, hinput, hdata, hlogical, -⟩ := recv_plain hversion' hcrypt' hrecv
  rw [List.append_assoc] at hinput
  have hfirst : (HeaderLayout.bb.write c.command c.flag (roundUp 4 (8 + c.size))).length = header.length :=
    hheader.symm
  obtain ⟨rfl, -⟩ := List.append_inj hinput hfirst
  rw [hdata, ← hlogical, size_write]
  unfold roundUp
  omega

/-- Messages of the sizes that were sent are only received when the sizes are
multiples of four. -/
theorem framed_of_lengths (h : InStep .bbV4 false sender receiver)
    (hsendable : ∀ c ∈ commands, Sendable .bbV4 false c)
    (hsend : sendAll Channel.send sender commands = .ok (out, sender'))
    (hrecv : recvAll Channel.recv commands.length receiver out = .ok (messages, rest, receiver'))
    (hlengths : List.Forall₂ (fun c (message : Message) => 8 + c.size = 8 + message.data.length)
      commands messages) : ∀ c ∈ commands, Framed .bbV4 false c := by
  induction commands generalizing sender receiver out messages with
  | nil => exact fun c hc => absurd hc List.not_mem_nil
  | cons c commands ih =>
      obtain ⟨hsendableC, hsendable⟩ := List.forall_mem_cons.mp hsendable
      obtain ⟨first, sender₁, outs, hsendC, hsends, rfl⟩ := sendAll_cons_eq_ok.mp hsend
      obtain ⟨message, input, receiver₁, others, hrecvC, hrecvs, rfl⟩ := recvAll_succ_eq_ok.mp hrecv
      obtain ⟨hlength, hlengths⟩ := List.forall₂_cons.mp hlengths
      have hnone : sender.cryptOut = none := Option.isSome_eq_false_iff.mp h.encrypted_eq |> Option.isNone_iff_eq_none.mp
      have hlogical := length_of_recv_plain h.sender_version hnone h.receiver_version
        (h.crypt_eq ▸ hnone) hsendC hrecvC
      have hframed : Framed .bbV4 false c := by
        refine ⟨by decide, fun _ _ => ?_⟩
        unfold roundUp at hlogical
        omega
      obtain ⟨first', sender₂, message', receiver₂, hsendC', hrecvC', -, hstep⟩ :=
        recv_send h hsendableC hframed
      obtain ⟨rfl, rfl⟩ := Prod.mk.inj (Except.ok.inj (hsendC.symm.trans hsendC'))
      obtain ⟨rfl, hsame⟩ := Prod.mk.inj (Except.ok.inj (hrecvC.symm.trans (hrecvC' outs)))
      obtain ⟨rfl, rfl⟩ := Prod.mk.inj hsame
      exact List.forall_mem_cons.mpr ⟨hframed, ih hstep hsendable hsends hrecvs hlengths⟩

theorem known_of_send (h : sender.send c = .ok (out, sender')) : sender.version ≠ .unknown := by
  intro hunknown
  simp only [Channel.send, bind_eq_ok] at h
  obtain ⟨layout, hlayout, -⟩ := h
  rw [hunknown] at hlayout
  cases hlayout

theorem roundTrips_length (hversion : sender.version = .bbV4) (hcrypt : sender.cryptOut = none)
    (hversion' : receiver.version = .bbV4) (hcrypt' : receiver.cryptIn = none)
    (hsend : sendAll Channel.send sender commands = .ok (out, sender'))
    (hrecv : recvAll Channel.recv commands.length receiver out = .ok (messages, [], receiver')) :
    (commands.map fun c => 8 + c.size).sum =
      (messages.map fun message => 8 + message.data.length).sum := by
  have hsendLength : ∀ (s : Channel) (c : Command) out s', s.version = .bbV4 ∧ s.cryptOut = none →
      s.send c = .ok (out, s') → out.length = 8 + c.size ∧ s'.version = .bbV4 ∧ s'.cryptOut = none := by
    intro s c out s' hs h
    obtain ⟨rfl, -, rfl⟩ := send_plain hs.1 hs.2 h
    rw [List.length_append, length_flatten]
    exact ⟨rfl, hs⟩
  have hrecvLength : ∀ (t : Channel) input message rest t', t.version = .bbV4 ∧ t.cryptIn = none →
      t.recv input = .ok (message, rest, t') →
      input.length = 8 + message.data.length + rest.length ∧
        t'.version = .bbV4 ∧ t'.cryptIn = none := by
    intro t input message rest t' ht h
    obtain ⟨header, body, hheader, rfl, hdata, -, rfl⟩ := recv_plain ht.1 ht.2 h
    rw [List.length_append, List.length_append, hheader, hdata]
    exact ⟨(Nat.add_assoc _ _ _).symm, ht⟩
  have hsent := sendAll_length hsendLength ⟨hversion, hcrypt⟩ hsend
  have hreceived := recvAll_length hrecvLength ⟨hversion', hcrypt'⟩ hrecv
  rw [← hsent, hreceived, List.length_nil, Nat.add_zero]

theorem framed_of_roundTrips (h : InStep version encrypted sender receiver)
    (hsendable : ∀ c ∈ commands, Sendable version encrypted c)
    (hroundTrips : RoundTrips sender receiver commands) :
    ∀ c ∈ commands, Framed version encrypted c := by
  obtain ⟨out, sender', messages, receiver', hsend, hrecv, hcarries⟩ := hroundTrips
  by_cases hplain : version = .bbV4 ∧ encrypted = false
  · obtain ⟨rfl, rfl⟩ := hplain
    have hnone : sender.cryptOut = none :=
      Option.isNone_iff_eq_none.mp (Option.isSome_eq_false_iff.mp h.encrypted_eq)
    have hle : List.Forall₂ (fun c (message : Message) => 8 + c.size ≤ 8 + message.data.length)
        commands messages := by
      refine hcarries.imp fun c message hc => ?_
      obtain ⟨padding, -, hdata⟩ := hc.data_eq
      rw [hdata, List.length_append, length_flatten]
      omega
    have hsum := roundTrips_length h.sender_version hnone h.receiver_version (h.crypt_eq ▸ hnone)
      hsend hrecv
    exact framed_of_lengths h hsendable hsend hrecv (forall₂_eq_of_sum_eq hle hsum)
  · have hknown : commands ≠ [] → version ≠ .unknown := by
      intro hne
      cases commands with
      | nil => exact absurd rfl hne
      | cons c commands =>
          obtain ⟨first, s₁, rest, hfirst, -⟩ := sendAll_cons_eq_ok.mp hsend
          exact h.sender_version ▸ known_of_send hfirst
    exact fun c hc => ⟨hknown (List.ne_nil_of_mem hc), fun h4 he => absurd ⟨h4, he⟩ hplain⟩

/-- What is sent is received, for every version with or without its cipher,
exactly when every command is framed. -/
theorem roundTrips_iff (h : InStep version encrypted sender receiver)
    (hsendable : ∀ c ∈ commands, Sendable version encrypted c) :
    RoundTrips sender receiver commands ↔ ∀ c ∈ commands, Framed version encrypted c :=
  ⟨framed_of_roundTrips h hsendable, roundTrips_of_framed h hsendable⟩

theorem sendable_of_layout (hlayout : headerLayout version = some layout)
    (hfits : Fits layout c.command c.flag)
    (hle : layout.sendDataSize version encrypted c.size ≤ 0x7C00) : Sendable version encrypted c where
  fits _ h := Option.some.inj (hlayout.symm.trans h) ▸ hfits
  size_le _ h := Option.some.inj (hlayout.symm.trans h) ▸ hle

/-- Two commands on an encrypted connection, the first one padded. -/
theorem roundTrips_gcV3 :
    let cipher : PSOEncryption := .lfg (PsoLfgEncryption.PSOV3Encryption.new 0x12345678)
    RoundTrips ⟨.gcV3, none, some cipher⟩ ⟨.gcV3, some cipher, none⟩
      [⟨0x60, 0x00, [[0x01, 0x02], [0x03]]⟩, ⟨0x1D, 0x01, []⟩] := by
  intro cipher
  have hstep : InStep .gcV3 true ⟨.gcV3, none, some cipher⟩ ⟨.gcV3, some cipher, none⟩ :=
    ⟨rfl, rfl, rfl, (by decide : Version.gcV3 ≠ .bbV4), rfl⟩
  refine (roundTrips_iff hstep ?_).mpr fun c hc => ⟨by decide, fun h => nomatch h⟩
  refine List.forall_mem_cons.mpr ⟨?_, List.forall_mem_singleton.mpr ?_⟩
  · exact sendable_of_layout rfl ⟨fun _ => by decide, fun _ => by decide⟩ (by decide)
  · exact sendable_of_layout rfl ⟨fun _ => by decide, fun _ => by decide⟩ (by decide)

/-- Before the encryption is enabled, Blue Burst takes the first three bytes of
the next command for data, and then waits for the rest of it. -/
theorem not_roundTrips_bb :
    InStep .bbV4 false ⟨.bbV4, none, none⟩ ⟨.bbV4, none, none⟩ ∧
      (∀ c ∈ [⟨0x0001, 0, [[0x41]]⟩, ⟨0x0002, 0, []⟩], Sendable .bbV4 false c) ∧
        ¬ RoundTrips ⟨.bbV4, none, none⟩ ⟨.bbV4, none, none⟩
          [⟨0x0001, 0, [[0x41]]⟩, ⟨0x0002, 0, []⟩] := by
  refine ⟨⟨rfl, rfl, rfl, trivial, rfl⟩, ?_, ?_⟩
  · refine List.forall_mem_cons.mpr ⟨?_, List.forall_mem_singleton.mpr ?_⟩
    · exact sendable_of_layout rfl ⟨fun h => absurd rfl h, fun h => absurd rfl h⟩ (by decide)
    · exact sendable_of_layout rfl ⟨fun h => absurd rfl h, fun h => absurd rfl h⟩ (by decide)
  · rintro ⟨out, sender', messages, receiver', hsend, hrecv, -⟩
    have hout : sendAll Channel.send ⟨.bbV4, none, none⟩
        [⟨0x0001, 0, [[0x41]]⟩, ⟨0x0002, 0, []⟩] =
        .ok ([12, 0, 1, 0, 0, 0, 0, 0, 0x41, 8, 0, 2, 0, 0, 0, 0, 0], ⟨.bbV4, none, none⟩) := by
      decide +kernel
    obtain ⟨rfl, -⟩ := Prod.mk.inj (Except.ok.inj (hout.symm.trans hsend))
    obtain ⟨message, input, receiver₁, others, hfirst, hothers, -⟩ := recvAll_succ_eq_ok.mp hrecv
    have hmessage : Channel.recv ⟨.bbV4, none, none⟩
        [12, 0, 1, 0, 0, 0, 0, 0, 0x41, 8, 0, 2, 0, 0, 0, 0, 0] =
        .ok (⟨1, 0, [0x41, 8, 0, 2]⟩, [0, 0, 0, 0, 0], ⟨.bbV4, none, none⟩) := by
      decide +kernel
    obtain ⟨-, hrest⟩ := Prod.mk.inj (Except.ok.inj (hmessage.symm.trans hfirst))
    obtain ⟨rfl, rfl⟩ := Prod.mk.inj hrest
    have hwaits : recvAll Channel.recv 1 ⟨.bbV4, none, none⟩ [0, 0, 0, 0, 0] = .error .nonterminating := by
      decide +kernel
    cases hwaits.symm.trans hothers

end Framing

end HuntersGuild.ChannelFraming
