import HuntersGuild.Conversations
import HuntersGuild.FuelLoop
import HuntersGuild.PsoBbEncryption

/-!
The cipher that finds out from the first bytes of a Blue Burst client which of several
keys it uses, and the cipher of the other direction that imitates it.
-/

namespace HuntersGuild.KeyDetection

open HuntersGuild.ByteStreams (Exception)
open HuntersGuild.Conversations
open HuntersGuild.ExceptionRules
open HuntersGuild.PsoBbEncryption

structure PSOBBMultiKeyDetectorEncryption where
  possibleKeys : List KeyFile
  activeKey : Option KeyFile
  activeCrypt : Option KeyFile
  expectedFirstData : List (List UInt8)
  seed : List UInt8

namespace PSOBBMultiKeyDetectorEncryption

def encrypt (self : PSOBBMultiKeyDetectorEncryption) (data : List UInt8) :
    Except Exception (List UInt8 × PSOBBMultiKeyDetectorEncryption) :=
  match self.activeCrypt with
  | none => throw (.logicError "PSOBB multi-key encryption requires client input first")
  | some crypt => do
      let (data, crypt) ← PsoBbEncryption.encrypt crypt data
      return (data, { self with activeCrypt := some crypt })

/-- The loop over the keys. -/
def tryKeys (self : PSOBBMultiKeyDetectorEncryption) (data : List UInt8) :
    List KeyFile → Except Exception (List UInt8 × PSOBBMultiKeyDetectorEncryption)
  | [] => throw (.runtimeError "none of the registered private keys are valid for this client")
  | key :: keys => do
      let crypt ← PsoBbEncryption.new key self.seed self.seed.length
      let (testData, crypt) ← PsoBbEncryption.decrypt crypt data
      if self.expectedFirstData.contains testData then
        return (testData, { self with activeKey := some key, activeCrypt := some crypt })
      else self.tryKeys data keys

def decrypt (self : PSOBBMultiKeyDetectorEncryption) (data : List UInt8) :
    Except Exception (List UInt8 × PSOBBMultiKeyDetectorEncryption) :=
  match self.activeCrypt with
  | some crypt => do
      let (data, crypt) ← PsoBbEncryption.decrypt crypt data
      return (data, { self with activeCrypt := some crypt })
  | none =>
      if data.length ≠ 8 then
        throw (.logicError "initial decryption size does not match expected first data size")
      else self.tryKeys data self.possibleKeys

end PSOBBMultiKeyDetectorEncryption

structure PSOBBMultiKeyImitatorEncryption where
  activeCrypt : Option KeyFile
  seed : List UInt8
  jsd1UseDetectorSeed : Bool

namespace PSOBBMultiKeyImitatorEncryption

def ensureCrypt (self : PSOBBMultiKeyImitatorEncryption) (detectorCrypt : PSOBBMultiKeyDetectorEncryption) :
    Except Exception KeyFile :=
  match self.activeCrypt with
  | some crypt => return crypt
  | none =>
      match detectorCrypt.activeKey with
      | none => throw (.logicError "server crypt cannot be initialized because client crypt is not ready")
      | some key =>
          -- One of the ciphers uses the client's seed for both directions.
          if key.subtype = subtypeJSD1 ∧ self.jsd1UseDetectorSeed then
            PsoBbEncryption.new key detectorCrypt.seed detectorCrypt.seed.length
          else PsoBbEncryption.new key self.seed self.seed.length

def encrypt (self : PSOBBMultiKeyImitatorEncryption) (detectorCrypt : PSOBBMultiKeyDetectorEncryption)
    (data : List UInt8) : Except Exception (List UInt8 × PSOBBMultiKeyImitatorEncryption) := do
  let crypt ← self.ensureCrypt detectorCrypt
  let (data, crypt) ← PsoBbEncryption.encrypt crypt data
  return (data, { self with activeCrypt := some crypt })

end PSOBBMultiKeyImitatorEncryption

def bbCryptInitialClientCommands : List (List UInt8) :=
  [[0xB4, 0x00, 0x93, 0x00, 0x00, 0x00, 0x00, 0x00], [0xAC, 0x00, 0x93, 0x00, 0x00, 0x00, 0x00, 0x00],
    [0xDC, 0x00, 0xDB, 0x00, 0x00, 0x00, 0x00, 0x00]]

/-- The ciphers of the server after `send_server_init_bb`, and those of a client. -/
structure Connection where
  cryptIn : PSOBBMultiKeyDetectorEncryption
  cryptOut : PSOBBMultiKeyImitatorEncryption
  clientOut : KeyFile
  clientIn : KeyFile

namespace Connection

/-- The seed for what the server sends. -/
def downSeed (key : KeyFile) (serverKey clientKey : List UInt8) : List UInt8 :=
  if key.subtype = subtypeJSD1 then clientKey else serverKey

/-- `key` is the client's. -/
def new (bbPrivateKeys : List KeyFile) (expectedFirstData : List (List UInt8))
    (serverKey clientKey : List UInt8) (key : KeyFile) : Except Exception Connection := do
  let clientOut ← PsoBbEncryption.new key clientKey clientKey.length
  let clientIn ← PsoBbEncryption.new key (downSeed key serverKey clientKey) (downSeed key serverKey clientKey).length
  return {
    cryptIn := ⟨bbPrivateKeys, none, none, expectedFirstData, clientKey⟩
    cryptOut := ⟨none, serverKey, true⟩
    clientOut := clientOut
    clientIn := clientIn }

/-- A message of the client. Its header is decrypted before the rest. -/
def up (self : Connection) (message : List UInt8) : Except Exception (List UInt8 × Connection) := do
  let (wire, clientOut) ← PsoBbEncryption.encrypt self.clientOut message
  let (header, cryptIn) ← self.cryptIn.decrypt (wire.take 8)
  let (rest, cryptIn) ← cryptIn.decrypt (wire.drop 8)
  return (header ++ rest, { self with cryptIn := cryptIn, clientOut := clientOut })

def down (self : Connection) (message : List UInt8) : Except Exception (List UInt8 × Connection) := do
  let (wire, cryptOut) ← self.cryptOut.encrypt self.cryptIn message
  let (header, clientIn) ← PsoBbEncryption.decrypt self.clientIn (wire.take 8)
  let (rest, clientIn) ← PsoBbEncryption.decrypt clientIn (wire.drop 8)
  return (header ++ rest, { self with cryptOut := cryptOut, clientIn := clientIn })

end Connection

variable {self : KeyFile} {data : List UInt8}

theorem decrypt_encrypt_of_dvd (self : KeyFile) {data : List UInt8} (h : 8 ∣ data.length) :
    ∃ wire state, encrypt self data = .ok (wire, state) ∧ decrypt self wire = .ok (data, state) := by
  obtain ⟨wire, state, hencrypt, hdecrypt, -⟩ := decrypt_encrypt (acceptsSize_of_dvd self.subtype h)
  exact ⟨wire, state, hencrypt, hdecrypt⟩

/-- A message may be decrypted in two parts. -/
theorem exists_parts (self : KeyFile) {data : List UInt8} (h : 8 ∣ data.length) : ∃ wire mid last,
    encrypt self data = .ok (wire, last) ∧ decrypt self (wire.take 8) = .ok (data.take 8, mid) ∧
      decrypt mid (wire.drop 8) = .ok (data.drop 8, last) := by
  rcases Nat.eq_zero_or_pos data.length with hzero | hpos
  · obtain rfl := List.length_eq_zero_iff.mp hzero
    have hnil : 8 ∣ ([] : List UInt8).length := Nat.dvd_zero 8
    obtain ⟨wire, state, hencrypt, hdecrypt⟩ :=
      decrypt_encrypt_of_dvd self hnil
    obtain ⟨wire', state', hencrypt', hdecrypt'⟩ :=
      decrypt_encrypt_of_dvd state hnil
    obtain rfl := List.length_eq_zero_iff.mp (encrypt_length hencrypt)
    obtain rfl := List.length_eq_zero_iff.mp (encrypt_length hencrypt')
    exact ⟨[], state, state', encrypt_append (by decide) hencrypt hencrypt', hdecrypt, hdecrypt'⟩
  · have hfirst : (data.take 8).length = 8 := List.length_take_of_le (Nat.le_of_dvd hpos h)
    have hrest : 8 ∣ (data.drop 8).length := by
      rw [List.length_drop]
      exact Nat.dvd_sub h (Nat.dvd_refl 8)
    have haligned : 8 ∣ (data.take 8).length := by rw [hfirst]
    obtain ⟨wire, mid, hencrypt, hdecrypt⟩ :=
      decrypt_encrypt_of_dvd self haligned
    obtain ⟨wire', last, hencrypt', hdecrypt'⟩ :=
      decrypt_encrypt_of_dvd mid hrest
    have hlength : wire.length = 8 := (encrypt_length hencrypt).trans hfirst
    have hall := encrypt_append haligned hencrypt hencrypt'
    rw [List.take_append_drop] at hall
    refine ⟨wire ++ wire', mid, last, hall, ?_, ?_⟩
    · rw [List.take_left' hlength, hdecrypt]
    · rw [List.drop_left' hlength, hdecrypt']

/-- Seeds of the size that the server makes are accepted by every cipher. -/
theorem exists_maskSeed {seed : List UInt8} (h : seed.length = 0x30) :
    ∃ masked, maskSeed seed seed.length = .ok masked ∧ masked.length = 0x30 := by
  rw [h, maskSeed]
  refine FuelLoop.exists_foldlM_range (fun z (masked : List UInt8) => masked.length = 3 * z) (fun z hz masked hlength => ?_)
    rfl
  have hbytes : 3 * z + 2 < seed.length := by omega
  have h0 : seed[3 * z]? = some (seed.get ⟨3 * z, by omega⟩) := List.getElem?_eq_getElem _
  have h1 : seed[3 * z + 1]? = some (seed.get ⟨3 * z + 1, by omega⟩) := List.getElem?_eq_getElem _
  have h2 : seed[3 * z + 2]? = some (seed.get ⟨3 * z + 2, by omega⟩) := List.getElem?_eq_getElem _
  rw [h0, h1, h2]
  refine ⟨_, rfl, ?_⟩
  rw [List.length_append, hlength]
  rfl

theorem exists_new (key : KeyFile) {seed : List UInt8} (h : seed.length = 0x30) :
    ∃ crypt, PsoBbEncryption.new key seed seed.length = .ok crypt := by
  obtain ⟨masked, hmasked, hlength⟩ := exists_maskSeed h
  have hseed : seed.length ≠ 0 := by omega
  have hthree : ¬ seed.length % 3 ≠ 0 := by omega
  have hmaskedLength : masked.length ≠ 0 := by omega
  rw [PsoBbEncryption.new, hmasked, ok_bind]
  split_ifs <;> exact ⟨_, rfl⟩

/-- The server has found out what the client uses. -/
structure Connection.InStep (c : Connection) : Prop where
  cryptIn : c.cryptIn.activeCrypt = some c.clientOut
  cryptOut : c.cryptOut.ensureCrypt c.cryptIn = .ok c.clientIn

variable {c : Connection}

theorem decrypt_of_active {det : PSOBBMultiKeyDetectorEncryption} {crypt crypt' : KeyFile} {out : List UInt8}
    (h : det.activeCrypt = some crypt) (hdecrypt : PsoBbEncryption.decrypt crypt data = .ok (out, crypt')) :
    det.decrypt data = .ok (out, { det with activeCrypt := some crypt' }) := by
  unfold PSOBBMultiKeyDetectorEncryption.decrypt
  rw [h]
  dsimp only
  rw [hdecrypt]
  rfl

theorem up_of_inStep (h : c.InStep) {message : List UInt8} (hmessage : 8 ∣ message.length) :
    ∃ c', c.up message = .ok (message, c') ∧ c'.InStep := by
  obtain ⟨wire, mid, last, hencrypt, hheader, hrest⟩ := exists_parts c.clientOut hmessage
  refine ⟨{ c with cryptIn := { c.cryptIn with activeCrypt := some last }, clientOut := last }, ?_, rfl, h.cryptOut⟩
  rw [Connection.up, hencrypt, ok_bind]
  dsimp only
  rw [decrypt_of_active h.cryptIn hheader, ok_bind]
  dsimp only
  rw [decrypt_of_active rfl hrest, ok_bind]
  dsimp only
  rw [List.take_append_drop]
  rfl

theorem down_of_inStep (h : c.InStep) {message : List UInt8} (hmessage : 8 ∣ message.length) :
    ∃ c', c.down message = .ok (message, c') ∧ c'.InStep := by
  obtain ⟨wire, mid, last, hencrypt, hheader, hrest⟩ := exists_parts c.clientIn hmessage
  refine ⟨{ c with cryptOut := { c.cryptOut with activeCrypt := some last }, clientIn := last }, ?_, h.cryptIn, rfl⟩
  rw [Connection.down, PSOBBMultiKeyImitatorEncryption.encrypt, h.cryptOut, ok_bind, hencrypt, ok_bind]
  dsimp only
  rw [pure_eq_ok, ok_bind]
  dsimp only
  rw [hheader, ok_bind]
  dsimp only
  rw [hrest, ok_bind]
  dsimp only
  rw [List.take_append_drop]
  rfl

/-! The first message. -/

/-- No key before the client's makes a header of these bytes. -/
structure Identifies (bbPrivateKeys : List KeyFile) (expectedFirstData : List (List UInt8))
    (clientKey : List UInt8) (key : KeyFile) (header : List UInt8) : Prop where
  length : header.length = 8
  expected : header ∈ expectedFirstData
  first : ∃ before after, bbPrivateKeys = before ++ key :: after ∧
    ∀ key' ∈ before, ∀ crypt crypt' wire out next next',
      PsoBbEncryption.new key clientKey clientKey.length = .ok crypt → encrypt crypt header = .ok (wire, next) →
        PsoBbEncryption.new key' clientKey clientKey.length = .ok crypt' → decrypt crypt' wire = .ok (out, next') →
          out ∉ expectedFirstData

variable {bbPrivateKeys : List KeyFile} {expectedFirstData : List (List UInt8)}
  {serverKey clientKey header : List UInt8} {key : KeyFile}

theorem exists_decrypt (self : KeyFile) (h : 8 ∣ data.length) :
    ∃ out state, decrypt self data = .ok (out, state) := by
  have hseven : ¬ data.length &&& 7 ≠ 0 := by
    rw [and_seven]
    omega
  have hone : ¬ data.length &&& 1 ≠ 0 := by
    rw [Nat.and_one_is_mod]
    omega
  unfold decrypt
  split_ifs <;> exact ⟨_, _, rfl⟩

/-- Keys that do not make sense of the bytes are left behind. -/
theorem tryKeys_before {det : PSOBBMultiKeyDetectorEncryption} {before after : List KeyFile}
    {wire : List UInt8} (hwire : 8 ∣ wire.length) (hseed : det.seed.length = 0x30)
    (hother : ∀ key' ∈ before, ∀ crypt out next, PsoBbEncryption.new key' det.seed det.seed.length = .ok crypt →
      decrypt crypt wire = .ok (out, next) → out ∉ det.expectedFirstData) :
    det.tryKeys wire (before ++ after) = det.tryKeys wire after := by
  induction before with
  | nil => rfl
  | cons key before ih =>
      obtain ⟨hkey, hrest⟩ := List.forall_mem_cons.mp hother
      obtain ⟨crypt, hcrypt⟩ := exists_new key hseed
      obtain ⟨out, next, hdecrypt⟩ := exists_decrypt crypt hwire
      have hnot : ¬ det.expectedFirstData.contains out = true :=
        fun h => hkey crypt out next hcrypt hdecrypt (List.contains_iff_mem.mp h)
      rw [List.cons_append, PSOBBMultiKeyDetectorEncryption.tryKeys, hcrypt, ok_bind, hdecrypt, ok_bind]
      dsimp only
      rw [if_neg hnot, ih hrest]

theorem tryKeys_found {det : PSOBBMultiKeyDetectorEncryption} {after : List KeyFile} {crypt next : KeyFile}
    {wire out : List UInt8} (hcrypt : PsoBbEncryption.new key det.seed det.seed.length = .ok crypt)
    (hdecrypt : decrypt crypt wire = .ok (out, next)) (hexpected : out ∈ det.expectedFirstData) :
    det.tryKeys wire (key :: after) =
      .ok (out, { det with activeKey := some key, activeCrypt := some next }) := by
  rw [PSOBBMultiKeyDetectorEncryption.tryKeys, hcrypt, ok_bind, hdecrypt, ok_bind]
  dsimp only
  rw [if_pos (List.contains_iff_mem.mpr hexpected)]
  rfl

theorem up_first (h : Identifies bbPrivateKeys expectedFirstData clientKey key header)
    (hclient : clientKey.length = 0x30) {rest : List UInt8} (hrest : 8 ∣ rest.length)
    (hnew : Connection.new bbPrivateKeys expectedFirstData serverKey clientKey key = .ok c) :
    ∃ c', c.up (header ++ rest) = .ok (header ++ rest, c') ∧ c'.InStep := by
  obtain ⟨clientOut, hout, hnew⟩ := bind_eq_ok.mp hnew
  obtain ⟨clientIn, hin, hnew⟩ := bind_eq_ok.mp hnew
  obtain rfl := Except.ok.inj hnew
  obtain ⟨before, after, hkeys, hother⟩ := h.first
  have haligned : 8 ∣ header.length := by rw [h.length]
  have hmessage : 8 ∣ (header ++ rest).length := by
    rw [List.length_append]
    exact Nat.dvd_add haligned hrest
  obtain ⟨wireHeader, mid, hencrypt, hdecrypt⟩ :=
    decrypt_encrypt_of_dvd clientOut haligned
  obtain ⟨wireRest, last, hencrypt', hdecrypt'⟩ := decrypt_encrypt_of_dvd mid hrest
  have hall := encrypt_append haligned hencrypt hencrypt'
  have hlength : wireHeader.length = 8 := (encrypt_length hencrypt).trans h.length
  let det : PSOBBMultiKeyDetectorEncryption := ⟨bbPrivateKeys, none, none, expectedFirstData, clientKey⟩
  have hdetect : det.decrypt wireHeader =
      .ok (header, { det with activeKey := some key, activeCrypt := some mid }) := by
    have hfound : det.tryKeys wireHeader (key :: after) = _ := tryKeys_found hout hdecrypt h.expected
    have hbefore : det.tryKeys wireHeader (before ++ key :: after) = det.tryKeys wireHeader (key :: after) :=
      tryKeys_before (by rw [hlength]) hclient fun key' hkey' crypt' out next hcrypt' hdecrypt' =>
        hother key' hkey' clientOut crypt' wireHeader out mid next hout hencrypt hcrypt' hdecrypt'
    rw [PSOBBMultiKeyDetectorEncryption.decrypt]
    dsimp only [det] at hfound hbefore ⊢
    rw [if_neg (not_not_intro hlength), hkeys]
    rw [hkeys] at hbefore hfound
    exact hbefore.trans hfound
  refine ⟨⟨{ det with activeKey := some key, activeCrypt := some last }, ⟨none, serverKey, true⟩, last, clientIn⟩,
    ?_, rfl, ?_⟩
  · rw [Connection.up]
    dsimp only
    rw [hall, ok_bind]
    dsimp only
    rw [List.take_left' hlength, List.drop_left' hlength, hdetect, ok_bind]
    dsimp only
    rw [decrypt_of_active rfl hdecrypt', ok_bind]
    rfl
  · unfold PSOBBMultiKeyImitatorEncryption.ensureCrypt
    dsimp only [det]
    rw [Connection.downSeed] at hin
    by_cases hjsd1 : key.subtype = subtypeJSD1
    · rw [if_pos hjsd1] at hin
      rw [if_pos ⟨hjsd1, rfl⟩]
      exact hin
    · rw [if_neg hjsd1] at hin
      rw [if_neg fun h => hjsd1 h.1]
      exact hin

/-- The server understands a client with any of its keys and the client the server, in
whatever order they speak, once the client has spoken first. -/
theorem clients_converse (bbPrivateKeys : List KeyFile) (expectedFirstData : List (List UInt8))
    (serverKey clientKey : List UInt8) (hserver : serverKey.length = 0x30) (hclient : clientKey.length = 0x30)
    (key : KeyFile) (header rest : List UInt8)
    (h : Identifies bbPrivateKeys expectedFirstData clientKey key header) (hrest : 8 ∣ rest.length)
    (events : List (Event (List UInt8))) (hevents : ∀ event ∈ events, 8 ∣ event.message.length) :
    ∃ c, Connection.new bbPrivateKeys expectedFirstData serverKey clientKey key = .ok c ∧
      (∃ c', converse Connection.up Connection.down c (.up (header ++ rest) :: events) =
        .ok (.up (header ++ rest) :: events, c')) ∧
      ∀ message, converse Connection.up Connection.down c (.down message :: events) =
        .error (.logicError "server crypt cannot be initialized because client crypt is not ready") := by
  obtain ⟨clientOut, hout⟩ := exists_new key hclient
  have hseed : (Connection.downSeed key serverKey clientKey).length = 0x30 := by
    unfold Connection.downSeed
    split_ifs
    · exact hclient
    · exact hserver
  obtain ⟨clientIn, hin⟩ := exists_new key hseed
  have hnew : Connection.new bbPrivateKeys expectedFirstData serverKey clientKey key =
      .ok ⟨⟨bbPrivateKeys, none, none, expectedFirstData, clientKey⟩, ⟨none, serverKey, true⟩, clientOut,
        clientIn⟩ := by
    rw [Connection.new, hout, ok_bind, hin]
    rfl
  refine ⟨_, hnew, ?_, fun message => converse_cons_of_error rfl events⟩
  obtain ⟨c, hfirst, hc⟩ := up_first h hclient hrest hnew
  obtain ⟨c', hconverse, -⟩ := converse_delivers Connection.InStep (fun m : List UInt8 => 8 ∣ m.length)
    (fun c m hc hm => up_of_inStep hc hm) (fun c m hc hm => down_of_inStep hc hm) hc hevents
  refine ⟨c', converse_cons_of_ok ?_ hconverse⟩
  rw [transmit, hfirst]
  rfl

/-- A server with two keys, and a client with the first. -/
def sampleKeys : List KeyFile :=
  [⟨Vector.replicate 0x48 0, Vector.replicate 0x1000 0, subtypeJSD1⟩,
    ⟨Vector.replicate 0x48 1, Vector.replicate 0x1000 1, subtypeTFS1⟩]

theorem clients_converse_sampleKeys : ∃ key ∈ sampleKeys, ∃ c,
    Connection.new sampleKeys bbCryptInitialClientCommands (List.replicate 0x30 7) (List.replicate 0x30 8) key =
      .ok c ∧
    ∃ c', converse Connection.up Connection.down c
      [.up ([0xB4, 0x00, 0x93, 0x00, 0x00, 0x00, 0x00, 0x00] ++ []), .down (List.replicate 16 5)] =
        .ok ([.up ([0xB4, 0x00, 0x93, 0x00, 0x00, 0x00, 0x00, 0x00] ++ []), .down (List.replicate 16 5)], c') := by
  let key : KeyFile := ⟨Vector.replicate 0x48 0, Vector.replicate 0x1000 0, subtypeJSD1⟩
  have hidentifies : Identifies sampleKeys bbCryptInitialClientCommands (List.replicate 0x30 8) key
      [0xB4, 0x00, 0x93, 0x00, 0x00, 0x00, 0x00, 0x00] :=
    ⟨rfl, List.mem_cons_self, [], _, rfl, fun key' hkey' => absurd hkey' List.not_mem_nil⟩
  obtain ⟨c, hnew, hconverse, -⟩ := clients_converse sampleKeys bbCryptInitialClientCommands
    (List.replicate 0x30 7) (List.replicate 0x30 8) List.length_replicate List.length_replicate key _ []
    hidentifies (by decide) [.down (List.replicate 16 5)]
    (fun event hevent => by
      obtain rfl := List.mem_singleton.mp hevent
      exact ⟨2, List.length_replicate⟩)
  exact ⟨key, List.mem_cons_self, c, hnew, hconverse⟩

end HuntersGuild.KeyDetection
