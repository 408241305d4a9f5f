import HuntersGuild.Conversations
import HuntersGuild.PsoBbEncryption
import HuntersGuild.PsoLfgEncryption
import HuntersGuild.SuperMaps
import HuntersGuild.WordCiphers
import Mathlib.Data.List.Perm.Subperm

/-!
Ciphers that find out from the first bytes of a client which cipher it uses, and those
of the other direction that imitate them.
-/

namespace HuntersGuild.CipherDetection

open HuntersGuild.ByteStreams (Exception)
open HuntersGuild.Conversations
open HuntersGuild.ExceptionRules
open HuntersGuild.PsoLfgEncryption
open HuntersGuild.SuperMaps (upperHex)
open HuntersGuild.WordBytes
open HuntersGuild.WordCiphers (fromLittleEndian_lt)
open HuntersGuild.WordStreams

/-! The two ciphers of consoles. -/

def PSOLFGEncryption.new : Kind → UInt32 → PSOLFGEncryption
  | .v2 => PSOV2Encryption.new
  | .v3 => PSOV3Encryption.new

structure PSOV2OrV3DetectorEncryption where
  key : UInt32
  v2Matches : List UInt32
  v3Matches : List UInt32
  activeCrypt : Option PSOLFGEncryption

namespace PSOV2OrV3DetectorEncryption

/-- `le_uint32_t` -/
def word (data : List UInt8) : UInt32 := .ofNat (fromLittleEndian data)

/-- The cipher that makes sense of the first bytes, with what both make of them. -/
def detect (self : PSOV2OrV3DetectorEncryption) (encrypted : UInt32) (v2 v3 : List UInt8 × PSOLFGEncryption) :
    Except Exception (List UInt8 × PSOV2OrV3DetectorEncryption) :=
  let (decryptedV2, v2Crypt) := v2
  let (decryptedV3, v3Crypt) := v3
  let v2Match := self.v2Matches.contains (word decryptedV2)
  let v3Match := self.v3Matches.contains (word decryptedV3)
  if !v2Match && !v3Match then
    throw (.runtimeError ("unable to determine crypt version (input=" ++ upperHex 8 encrypted.toNat ++
      ", v2=" ++ upperHex 8 (word decryptedV2).toNat ++ ", v3=" ++ upperHex 8 (word decryptedV3).toNat ++ ")"))
  else if v2Match && v3Match then
    throw (.runtimeError ("ambiguous crypt version (v2=" ++ upperHex 8 (word decryptedV2).toNat ++
      ", v3=" ++ upperHex 8 (word decryptedV3).toNat ++ ")"))
  else if v2Match then return (decryptedV2, { self with activeCrypt := some v2Crypt })
  else return (decryptedV3, { self with activeCrypt := some v3Crypt })

/-- It is also `decrypt`. -/
def encrypt (self : PSOV2OrV3DetectorEncryption) (data : List UInt8) :
    Except Exception (List UInt8 × PSOV2OrV3DetectorEncryption) :=
  match self.activeCrypt with
  | none =>
      if data.length ≠ 4 then throw (.logicError "initial detector decrypt size must be 4")
      else
        self.detect (word data) ((PSOV2Encryption.new self.key).encrypt data)
          ((PSOV3Encryption.new self.key).encrypt data)
  | some crypt =>
      let (data, crypt) := crypt.encrypt data
      return (data, { self with activeCrypt := some crypt })

def type (self : PSOV2OrV3DetectorEncryption) : Except Exception Kind :=
  match self.activeCrypt with
  | none => throw (.logicError "detector encryption state is indeterminate")
  | some crypt => return crypt.kind

end PSOV2OrV3DetectorEncryption

structure PSOV2OrV3ImitatorEncryption where
  key : UInt32
  activeCrypt : Option PSOLFGEncryption

namespace PSOV2OrV3ImitatorEncryption

/-- The cipher that `encrypt` begins with. -/
def ensureCrypt (self : PSOV2OrV3ImitatorEncryption) (detectorCrypt : PSOV2OrV3DetectorEncryption) :
    Except Exception PSOLFGEncryption :=
  match self.activeCrypt with
  | some crypt => return crypt
  | none => do
      let t ← detectorCrypt.type
      return PSOLFGEncryption.new t self.key

def encrypt (self : PSOV2OrV3ImitatorEncryption) (detectorCrypt : PSOV2OrV3DetectorEncryption)
    (data : List UInt8) : Except Exception (List UInt8 × PSOV2OrV3ImitatorEncryption) := do
  let crypt ← self.ensureCrypt detectorCrypt
  let (data, crypt) := crypt.encrypt data
  return (data, { self with activeCrypt := some crypt })

end PSOV2OrV3ImitatorEncryption

def v2CryptInitialClientCommands : List UInt32 :=
  [0x00260088, 0x00B0008B, 0x00B0018B, 0x0114008B, 0x0114018B, 0x00260090, 0x00280090, 0x00B00093, 0x00B00193,
    0x01140093, 0x01140193, 0x00E0009A, 0x00CC009D, 0x00CC019D, 0x0130009D, 0x0130019D]

def v3CryptInitialClientCommands : List UInt32 :=
  [0x00E000DB, 0x00EC009E, 0x00EC019E, 0x0150009E, 0x0150019E]

/-- The ciphers of the server after `send_server_init_dc_pc_v3`, and those of a client. -/
structure Connection where
  cryptIn : PSOV2OrV3DetectorEncryption
  cryptOut : PSOV2OrV3ImitatorEncryption
  clientOut : PSOLFGEncryption
  clientIn : PSOLFGEncryption

namespace Connection

def new (v2Matches v3Matches : List UInt32) (serverKey clientKey : UInt32) (client : Kind) : Connection where
  cryptIn := ⟨clientKey, v2Matches, v3Matches, none⟩
  cryptOut := ⟨serverKey, none⟩
  clientOut := PSOLFGEncryption.new client clientKey
  clientIn := PSOLFGEncryption.new client serverKey

/-- A message of the client. Its header is decrypted before the rest. -/
def up (self : Connection) (message : List UInt8) : Except Exception (List UInt8 × Connection) := do
  let (wire, clientOut) := self.clientOut.encrypt message
  let (header, cryptIn) ← self.cryptIn.encrypt (wire.take 4)
  let (rest, cryptIn) ← cryptIn.encrypt (wire.drop 4)
  return (header ++ rest, { self with cryptIn := cryptIn, clientOut := clientOut })

def down (self : Connection) (message : List UInt8) : Except Exception (List UInt8 × Connection) := do
  let (wire, cryptOut) ← self.cryptOut.encrypt self.cryptIn message
  let (header, clientIn) := self.clientIn.encrypt (wire.take 4)
  let (rest, clientIn) := clientIn.encrypt (wire.drop 4)
  return (header ++ rest, { self with cryptOut := cryptOut, clientIn := clientIn })

end Connection

variable {self : PSOLFGEncryption} {data : List UInt8}

theorem kind_next (self : PSOLFGEncryption) : self.next.2.kind = self.kind := by
  unfold PSOLFGEncryption.next PSOLFGEncryption.updateStream
  dsimp only
  split_ifs
  · cases self.kind <;> rfl
  · rfl

theorem kind_advance (n : Nat) (self : PSOLFGEncryption) :
    (advance PSOLFGEncryption.next n self).kind = self.kind := by
  induction n generalizing self with
  | zero => rfl
  | succ n ih => exact (ih _).trans (kind_next self)

theorem kind_encrypt (data : List UInt8) : (self.encrypt data).2.kind = self.kind := by
  rw [PSOLFGEncryption.encrypt, xorWords_eq]
  exact kind_advance _ _

theorem kind_new (kind : Kind) (key : UInt32) : (PSOLFGEncryption.new kind key).kind = kind := by
  cases kind <;> rfl

theorem length_encrypt (data : List UInt8) : (self.encrypt data).1.length = data.length :=
  length_xorWords data

/-- A message may be decrypted in two parts. -/
theorem encrypt_parts (self : PSOLFGEncryption) (data : List UInt8) :
    (self.encrypt ((self.encrypt data).1.take 4)).1 ++
        ((self.encrypt ((self.encrypt data).1.take 4)).2.encrypt ((self.encrypt data).1.drop 4)).1 = data ∧
      ((self.encrypt ((self.encrypt data).1.take 4)).2.encrypt ((self.encrypt data).1.drop 4)).2 =
        (self.encrypt data).2 := by
  have hback : self.encrypt (self.encrypt data).1 = (data, (self.encrypt data).2) := xorWords_xorWords data
  rcases Nat.lt_or_ge (self.encrypt data).1.length 4 with hshort | hlong
  · rw [List.take_of_length_le (Nat.le_of_lt hshort), List.drop_of_length_le (Nat.le_of_lt hshort), hback]
    exact ⟨List.append_nil data, rfl⟩
  · have hfour : 4 ∣ ((self.encrypt data).1.take 4).length := by rw [List.length_take_of_le hlong]
    have happend : self.encrypt ((self.encrypt data).1.take 4 ++ (self.encrypt data).1.drop 4) =
        ((self.encrypt ((self.encrypt data).1.take 4)).1 ++
            ((self.encrypt ((self.encrypt data).1.take 4)).2.encrypt ((self.encrypt data).1.drop 4)).1,
          ((self.encrypt ((self.encrypt data).1.take 4)).2.encrypt ((self.encrypt data).1.drop 4)).2) :=
      xorWords_append hfour _
    rw [List.take_append_drop] at happend
    obtain ⟨hdata, hstate⟩ := Prod.mk.inj (hback.symm.trans happend)
    exact ⟨hdata.symm, hstate.symm⟩

/-- The server has found out what the client uses. -/
structure Connection.InStep (c : Connection) : Prop where
  cryptIn : c.cryptIn.activeCrypt = some c.clientOut
  cryptOut : c.cryptOut.ensureCrypt c.cryptIn = .ok c.clientIn

variable {c : Connection}

theorem encrypt_of_active {det : PSOV2OrV3DetectorEncryption} {crypt : PSOLFGEncryption}
    (h : det.activeCrypt = some crypt) (data : List UInt8) :
    det.encrypt data = .ok ((crypt.encrypt data).1, { det with activeCrypt := some (crypt.encrypt data).2 }) := by
  unfold PSOV2OrV3DetectorEncryption.encrypt
  rw [h]
  rfl

/-- The imitator needs the type of the detector's cipher and not its state. -/
theorem ensureCrypt_congr {imitator : PSOV2OrV3ImitatorEncryption} {det det' : PSOV2OrV3DetectorEncryption}
    {crypt crypt' : PSOLFGEncryption} (h : det.activeCrypt = some crypt) (h' : det'.activeCrypt = some crypt')
    (hkind : crypt'.kind = crypt.kind) : imitator.ensureCrypt det' = imitator.ensureCrypt det := by
  have htype : det'.type = det.type := by
    rw [PSOV2OrV3DetectorEncryption.type, PSOV2OrV3DetectorEncryption.type, h, h']
    dsimp only
    rw [hkind]
  unfold PSOV2OrV3ImitatorEncryption.ensureCrypt
  rw [htype]

theorem up_of_inStep (h : c.InStep) (message : List UInt8) : ∃ c', c.up message = .ok (message, c') ∧ c'.InStep := by
  obtain ⟨hmessage, hstate⟩ := encrypt_parts c.clientOut message
  refine ⟨{ c with
    cryptIn := { c.cryptIn with activeCrypt := some (c.clientOut.encrypt message).2 }
    clientOut := (c.clientOut.encrypt message).2 }, ?_, rfl, ?_⟩
  · rw [Connection.up]
    dsimp only
    rw [encrypt_of_active h.cryptIn, ok_bind]
    dsimp only
    rw [encrypt_of_active rfl, ok_bind]
    dsimp only
    rw [hmessage, hstate]
    rfl
  · exact (ensureCrypt_congr h.cryptIn rfl (kind_encrypt message)).trans h.cryptOut

theorem down_of_inStep (h : c.InStep) (message : List UInt8) :
    ∃ c', c.down message = .ok (message, c') ∧ c'.InStep := by
  obtain ⟨hmessage, hstate⟩ := encrypt_parts c.clientIn message
  refine ⟨{ c with
    cryptOut := { c.cryptOut with activeCrypt := some (c.clientIn.encrypt message).2 }
    clientIn := (c.clientIn.encrypt message).2 }, ?_, h.cryptIn, rfl⟩
  rw [Connection.down, PSOV2OrV3ImitatorEncryption.encrypt, h.cryptOut, ok_bind]
  dsimp only
  rw [pure_eq_ok, ok_bind]
  dsimp only
  rw [hmessage, hstate]
  rfl

/-! The first message. -/

/-- What the other cipher makes of the first bytes of a client. -/
def mistaken (client : Kind) (clientKey : UInt32) (header : List UInt8) : UInt32 :=
  let other : Kind := match client with
    | .v2 => .v3
    | .v3 => .v2
  PSOV2OrV3DetectorEncryption.word ((PSOLFGEncryption.new other clientKey).encrypt
    ((PSOLFGEncryption.new client clientKey).encrypt header).1).1

/-- The client's header is one of its version, and the other cipher does not find one of
the other version in it. -/
structure Identifies (v2Matches v3Matches : List UInt32) (client : Kind) (clientKey : UInt32)
    (header : List UInt8) : Prop where
  length : header.length = 4
  own : PSOV2OrV3DetectorEncryption.word header ∈ (match client with
    | .v2 => v2Matches
    | .v3 => v3Matches)
  other : mistaken client clientKey header ∉ (match client with
    | .v2 => v3Matches
    | .v3 => v2Matches)

variable {v2Matches v3Matches : List UInt32} {client : Kind} {clientKey serverKey : UInt32}
  {header : List UInt8}

theorem detect_header (h : Identifies v2Matches v3Matches client clientKey header) :
    PSOV2OrV3DetectorEncryption.encrypt ⟨clientKey, v2Matches, v3Matches, none⟩
        ((PSOLFGEncryption.new client clientKey).encrypt header).1 =
      .ok (header, ⟨clientKey, v2Matches, v3Matches,
        some ((PSOLFGEncryption.new client clientKey).encrypt header).2⟩) := by
  have hback (crypt : PSOLFGEncryption) : crypt.encrypt (crypt.encrypt header).1 =
      (header, (crypt.encrypt header).2) := xorWords_xorWords header
  obtain ⟨hlength, hown, hother⟩ := h
  unfold PSOV2OrV3DetectorEncryption.encrypt
  dsimp only
  rw [if_neg (not_not_intro ((length_encrypt header).trans hlength))]
  cases client with
  | v2 =>
      have hv2 : v2Matches.contains (PSOV2OrV3DetectorEncryption.word header) = true :=
        List.contains_iff_mem.mpr hown
      have hv3 : v3Matches.contains (PSOV2OrV3DetectorEncryption.word
          ((PSOV3Encryption.new clientKey).encrypt ((PSOV2Encryption.new clientKey).encrypt header).1).1) = false :=
        Bool.eq_false_iff.mpr fun hmem => hother (List.contains_iff_mem.mp hmem)
      dsimp only [PSOLFGEncryption.new]
      rw [hback, PSOV2OrV3DetectorEncryption.detect]
      dsimp only
      rw [hv2, hv3]
      rfl
  | v3 =>
      have hv3 : v3Matches.contains (PSOV2OrV3DetectorEncryption.word header) = true :=
        List.contains_iff_mem.mpr hown
      have hv2 : v2Matches.contains (PSOV2OrV3DetectorEncryption.word
          ((PSOV2Encryption.new clientKey).encrypt ((PSOV3Encryption.new clientKey).encrypt header).1).1) = false :=
        Bool.eq_false_iff.mpr fun hmem => hother (List.contains_iff_mem.mp hmem)
      dsimp only [PSOLFGEncryption.new]
      rw [hback, PSOV2OrV3DetectorEncryption.detect]
      dsimp only
      rw [hv2, hv3]
      rfl

theorem up_first (serverKey : UInt32) (h : Identifies v2Matches v3Matches client clientKey header)
    (rest : List UInt8) :
    ∃ c', (Connection.new v2Matches v3Matches serverKey clientKey client).up (header ++ rest) =
      .ok (header ++ rest, c') ∧ c'.InStep := by
  have hdetect := detect_header h
  have hkind := kind_new client clientKey
  rw [Connection.up]
  dsimp only [Connection.new]
  generalize PSOLFGEncryption.new client clientKey = crypt at hdetect hkind ⊢
  have happend : crypt.encrypt (header ++ rest) =
      ((crypt.encrypt header).1 ++ ((crypt.encrypt header).2.encrypt rest).1,
        ((crypt.encrypt header).2.encrypt rest).2) :=
    xorWords_append (by rw [h.length]) rest
  have hlength : (crypt.encrypt header).1.length = 4 := (length_encrypt header).trans h.length
  have hback : (crypt.encrypt header).2.encrypt ((crypt.encrypt header).2.encrypt rest).1 =
      (rest, ((crypt.encrypt header).2.encrypt rest).2) := xorWords_xorWords rest
  have hlast : (((crypt.encrypt header).2.encrypt rest).2).kind = client :=
    (kind_encrypt rest).trans ((kind_encrypt header).trans hkind)
  refine ⟨⟨⟨clientKey, v2Matches, v3Matches, some ((crypt.encrypt header).2.encrypt rest).2⟩,
    ⟨serverKey, none⟩, ((crypt.encrypt header).2.encrypt rest).2, PSOLFGEncryption.new client serverKey⟩,
    ?_, rfl, ?_⟩
  · rw [happend]
    dsimp only
    rw [List.take_left' hlength, List.drop_left' hlength, hdetect, ok_bind]
    dsimp only
    rw [encrypt_of_active rfl, ok_bind]
    dsimp only
    rw [hback]
    rfl
  · unfold PSOV2OrV3ImitatorEncryption.ensureCrypt PSOV2OrV3DetectorEncryption.type
    dsimp only
    rw [hlast]
    rfl

/-- The server understands a client and the client the server, whichever of the ciphers it
uses and in whatever order they speak, once the client has spoken first. -/
theorem consoles_converse (v2Matches v3Matches : List UInt32) (serverKey clientKey : UInt32) (client : Kind)
    (header rest : List UInt8) (h : Identifies v2Matches v3Matches client clientKey header)
    (events : List (Event (List UInt8))) :
    (∃ c, converse Connection.up Connection.down (.new v2Matches v3Matches serverKey clientKey client)
        (.up (header ++ rest) :: events) = .ok (.up (header ++ rest) :: events, c)) ∧
      ∀ message, converse Connection.up Connection.down
        (.new v2Matches v3Matches serverKey clientKey client) (.down message :: events) =
          .error (.logicError "detector encryption state is indeterminate") := by
  constructor
  · obtain ⟨c, hfirst, hc⟩ := up_first serverKey h rest
    obtain ⟨c', hevents, -⟩ := converse_delivers Connection.InStep (fun _ => True)
      (fun c m hc _ => up_of_inStep hc m) (fun c m hc _ => down_of_inStep hc m) hc fun _ _ => trivial
    refine ⟨c', converse_cons_of_ok ?_ hevents⟩
    rw [transmit, hfirst]
    rfl
  · intro message
    exact converse_cons_of_error rfl events

/-! With the commands that clients begin with, few headers are ambiguous. -/

theorem word_littleEndian (w : UInt32) : PSOV2OrV3DetectorEncryption.word (littleEndian 4 w.toNat) = w := by
  rw [PSOV2OrV3DetectorEncryption.word, fromLittleEndian_littleEndian_of_lt w.toNat_lt, UInt32.ofNat_toNat]

theorem encrypt_injective (crypt : PSOLFGEncryption) : Function.Injective fun data => (crypt.encrypt data).1 := by
  intro a b h
  have hback (data : List UInt8) : crypt.encrypt (crypt.encrypt data).1 = (data, (crypt.encrypt data).2) :=
    xorWords_xorWords data
  have hsame : crypt.encrypt (crypt.encrypt a).1 = crypt.encrypt (crypt.encrypt b).1 := congrArg crypt.encrypt h
  rw [hback, hback] at hsame
  exact (Prod.mk.inj hsame).1

theorem word_inj {a b : List UInt8} (ha : a.length = 4) (hb : b.length = 4)
    (h : PSOV2OrV3DetectorEncryption.word a = PSOV2OrV3DetectorEncryption.word b) : a = b := by
  have hvalue (data : List UInt8) (hdata : data.length = 4) :
      littleEndian 4 (PSOV2OrV3DetectorEncryption.word data).toNat = data := by
    have hlt : fromLittleEndian data < 2 ^ 32 := by
      have hbound := fromLittleEndian_lt data
      rw [hdata] at hbound
      exact hbound
    have hback := littleEndian_fromLittleEndian data 0
    rw [Nat.add_zero, hdata, List.replicate_zero, List.append_nil] at hback
    rw [PSOV2OrV3DetectorEncryption.word, UInt32.toNat_ofNat_of_lt' hlt, hback]
  rw [← hvalue a ha, h, hvalue b hb]

theorem mistaken_inj {a b : List UInt8} (ha : a.length = 4) (hb : b.length = 4)
    (h : mistaken client clientKey a = mistaken client clientKey b) : a = b := by
  unfold mistaken at h
  have hlength (data : List UInt8) (hdata : data.length = 4) (other : PSOLFGEncryption) :
      (other.encrypt ((PSOLFGEncryption.new client clientKey).encrypt data).1).1.length = 4 := by
    rw [length_encrypt, length_encrypt, hdata]
  exact encrypt_injective _ (encrypt_injective _ (word_inj (hlength a ha _) (hlength b hb _) h))

/-- Some header of an old client is not ambiguous, whatever its key is. -/
theorem exists_identifies (clientKey : UInt32) : ∃ w ∈ v2CryptInitialClientCommands,
    Identifies v2CryptInitialClientCommands v3CryptInitialClientCommands .v2 clientKey (littleEndian 4 w.toNat) := by
  by_contra hnone
  have hmistaken : ∀ w ∈ v2CryptInitialClientCommands,
      mistaken .v2 clientKey (littleEndian 4 w.toNat) ∈ v3CryptInitialClientCommands := by
    intro w hw
    by_contra hother
    exact hnone ⟨w, hw, length_littleEndian 4 _, (word_littleEndian w).symm ▸ hw, hother⟩
  have hnodup : (v2CryptInitialClientCommands.map fun w =>
      mistaken .v2 clientKey (littleEndian 4 w.toNat)).Nodup := by
    refine List.Nodup.map_on (fun v _ w _ h => ?_) (by decide)
    have hsame := mistaken_inj (length_littleEndian 4 _) (length_littleEndian 4 _) h
    rw [← word_littleEndian v, hsame, word_littleEndian]
  have hsubset : (v2CryptInitialClientCommands.map fun w =>
      mistaken .v2 clientKey (littleEndian 4 w.toNat)) ⊆ v3CryptInitialClientCommands := by
    intro x hx
    obtain ⟨w, hw, rfl⟩ := List.mem_map.mp hx
    exact hmistaken w hw
  have hlength := (List.subperm_of_subset hnodup hsubset).length_le
  rw [List.length_map] at hlength
  exact absurd hlength (by decide)

theorem consoles_converse_v2 : ∃ w ∈ v2CryptInitialClientCommands, ∃ c,
    converse Connection.up Connection.down
      (.new v2CryptInitialClientCommands v3CryptInitialClientCommands 0x01234567 0x89ABCDEF .v2)
      [.up (littleEndian 4 w.toNat ++ [1, 2]), .down [3, 4, 5, 6, 7], .up [8, 9, 10, 11]] =
        .ok ([.up (littleEndian 4 w.toNat ++ [1, 2]), .down [3, 4, 5, 6, 7], .up [8, 9, 10, 11]], c) := by
  obtain ⟨w, hw, hidentifies⟩ := exists_identifies 0x89ABCDEF
  obtain ⟨c, hc⟩ := (consoles_converse v2CryptInitialClientCommands v3CryptInitialClientCommands 0x01234567
    0x89ABCDEF .v2 _ [1, 2] hidentifies [.down [3, 4, 5, 6, 7], .up [8, 9, 10, 11]]).1
  exact ⟨w, hw, c, hc⟩

end HuntersGuild.CipherDetection
