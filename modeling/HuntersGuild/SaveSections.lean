import HuntersGuild.SaveShuffles
import HuntersGuild.SuperMaps
import HuntersGuild.WordCiphers

/-!
The encrypted sections of save files: two rounds of encryption, a shuffle and a
checksum.
-/

namespace HuntersGuild.SaveSections

open HuntersGuild.ByteStreams (Exception)
open HuntersGuild.ExceptionRules
open HuntersGuild.PsoLfgEncryption
open HuntersGuild.SaveShuffles
open HuntersGuild.StringReaders
open HuntersGuild.SuperMaps (upperHex)
open HuntersGuild.WordCiphers

/-! The ciphers. -/

/-- `encrypt_t<BE>` -/
def encryptT (be : Bool) (crypt : PSOLFGEncryption) (data : List UInt8) : List UInt8 × PSOLFGEncryption :=
  combineWords xorOp be PSOLFGEncryption.next crypt data

/-- `encrypt_minus_t<BE>` -/
def encryptMinusT (be : Bool) (crypt : PSOLFGEncryption) (data : List UInt8) :
    List UInt8 × PSOLFGEncryption :=
  combineWords minusOp be PSOLFGEncryption.next crypt data

/-- `resize((size + 3) & (~3))` -/
def padToWords (data : List UInt8) : List UInt8 :=
  data ++ List.replicate ((data.length + 3) / 4 * 4 - data.length) 0

/-! Sections. A table in memory that is not set yet holds any bytes. -/

def makeTables (memory : Table) (seed : UInt32) : Except Exception ShuffleTables :=
  match ShuffleTables.new memory (PSOV2Encryption.new seed) with
  | .ok (tables, _) => .ok tables
  | .error e => .error (.logicError e.what)

def decryptDataSection (be : Bool) (memory : Table) (dataSection : List UInt8) (round1Seed : UInt32)
    (maxDecryptBytes : Nat) : Except Exception (List UInt8) := do
  let size := if maxDecryptBytes = 0 then dataSection.length else min maxDecryptBytes dataSection.length
  let shuf ← makeTables memory round1Seed
  let decrypted := shuf.shuffle (List.replicate size 0) dataSection size true
  return ((encryptMinusT be (PSOV2Encryption.new round1Seed) (padToWords decrypted)).1.take size)

def encryptDataSection (be : Bool) (memory : Table) (dataSection : List UInt8) (round1Seed : UInt32) :
    Except Exception (List UInt8) := do
  let size := dataSection.length
  let encrypted := (encryptMinusT be (PSOV2Encryption.new round1Seed) (padToWords dataSection)).1
  let shuf ← makeTables memory round1Seed
  return (shuf.shuffle (List.replicate size 0) encrypted size false)

/-! Structures with a checksum at their beginning. -/

def wordAt (be : Bool) (offset : Nat) (bytes : List UInt8) : UInt32 :=
  paddedWord be ((bytes.drop offset).take 4)

def withWordAt (be : Bool) (offset : Nat) (v : UInt32) (bytes : List UInt8) : List UInt8 :=
  bytes.take offset ++ putU32 be v ++ bytes.drop (offset + 4)

/-- Where the fields of a structure are. -/
structure SectionLayout where
  size : Nat
  round2SeedOffset : Nat
  checksumLength : Nat
  checksum_before : 4 ≤ round2SeedOffset
  seed_within : round2SeedOffset + 4 ≤ size
  checksum_within : checksumLength ≤ size

variable (crc32 : List UInt8 → UInt32)

def decryptFixedSizeDataSectionT (layout : SectionLayout) (be : Bool) (memory : Table)
    (dataSection : List UInt8) (round1Seed : UInt32) (skipChecksum : Bool) (overrideRound2Seed : Int) :
    Except Exception (List UInt8) := do
  let decrypted ← decryptDataSection be memory dataSection round1Seed 0
  if decrypted.length < layout.size then
    throw (.runtimeError "file too small for structure")
  else
    let ret := decrypted.take layout.size
    let round2Seed := if overrideRound2Seed ≥ 0 then UInt32.ofNat overrideRound2Seed.toNat
      else wordAt be layout.round2SeedOffset ret
    let ret := (encryptT be (PSOV2Encryption.new round2Seed) (ret.take layout.round2SeedOffset)).1 ++
      ret.drop layout.round2SeedOffset
    if skipChecksum then
      return ret
    else
      let expectedCrc := wordAt be 0 ret
      let actualCrc := crc32 ((withWordAt be 0 0 ret).take layout.checksumLength)
      if expectedCrc ≠ actualCrc then
        throw (.runtimeError ("incorrect decrypted data section checksum: expected " ++
          upperHex 8 expectedCrc.toNat ++ "; received " ++ upperHex 8 actualCrc.toNat))
      else
        return ret

/-- The structure with its seed and its checksum filled in. -/
def sealed (layout : SectionLayout) (be : Bool) (s : List UInt8) (round2Seed : UInt32) : List UInt8 :=
  let blank := withWordAt be layout.round2SeedOffset round2Seed (withWordAt be 0 0 s)
  withWordAt be 0 (crc32 (blank.take layout.checksumLength)) blank

/-- `round2Seed` is a random number. -/
def encryptFixedSizeDataSectionT (layout : SectionLayout) (be : Bool) (memory : Table) (s : List UInt8)
    (round1Seed round2Seed : UInt32) : Except Exception (List UInt8) :=
  let encrypted := sealed crc32 layout be s round2Seed
  let encrypted := (encryptT be (PSOV2Encryption.new round2Seed) (encrypted.take layout.round2SeedOffset)).1 ++
    encrypted.drop layout.round2SeedOffset
  encryptDataSection be memory encrypted round1Seed

variable {crc32} {be : Bool} {memory memory' : Table} {seed : UInt32}

/-! Tables. -/

/-- The forward table does not depend on what is in memory. -/
theorem fill_forwardTable {n : Nat} {tables tables' filled filled' : ShuffleTables}
    {crypt last last' : PSOLFGEncryption} (hsame : tables'.forwardTable = tables.forwardTable)
    (h : ShuffleTables.fill n tables crypt = .ok (filled, last))
    (h' : ShuffleTables.fill n tables' crypt = .ok (filled', last')) :
    filled'.forwardTable = filled.forwardTable := by
  induction n generalizing tables tables' crypt with
  | zero =>
      obtain ⟨rfl, -⟩ := Prod.mk.inj (Except.ok.inj h)
      obtain ⟨rfl, -⟩ := Prod.mk.inj (Except.ok.inj h')
      exact hsame
  | succ n ih =>
      rw [ShuffleTables.fill] at h h'
      dsimp only at h h'
      split_ifs at h h'
      refine ih ?_ h h'
      unfold ShuffleTables.exchange
      dsimp only
      rw [hsame]

theorem reverseTable_eq {tables tables' : ShuffleTables} (h : tables.Inverse) (h' : tables'.Inverse)
    (hsame : tables'.forwardTable = tables.forwardTable) : tables' = tables := by
  obtain ⟨forward, reverse⟩ := tables
  obtain ⟨forward', reverse'⟩ := tables'
  obtain rfl : forward' = forward := hsame
  have hread : reverse'.read = reverse.read := by
    funext z
    have hz := h.right z
    dsimp only at hz
    rw [← hz]
    exact (h'.left (reverse.read z)).trans (h.left (reverse.read z)).symm
  have hreverse : reverse' = reverse := by
    apply Vector.ext
    intro i hi
    have hbyte : (UInt8.ofNat i).toNat = i := UInt8.toNat_ofNat_of_lt' hi
    have hat := congrFun hread (UInt8.ofNat i)
    unfold Table.read at hat
    simp only [hbyte] at hat
    exact hat
  rw [hreverse]

/-- Both directions use the same tables. -/
theorem exists_makeTables (seed : UInt32) :
    ∃ tables : ShuffleTables, tables.Inverse ∧ ∀ memory, makeTables memory seed = .ok tables := by
  obtain ⟨tables, crypt, hnew, hinverse⟩ :=
    ShuffleTables.exists_new (Vector.replicate 0x100 0) (PSOV2Encryption.new seed)
  refine ⟨tables, hinverse, fun memory => ?_⟩
  obtain ⟨tables', crypt', hnew', hinverse'⟩ := ShuffleTables.exists_new memory (PSOV2Encryption.new seed)
  have hforward : tables'.forwardTable = tables.forwardTable := by
    unfold ShuffleTables.new at hnew hnew'
    apply fill_forwardTable _ hnew hnew'
    rfl
  unfold makeTables
  rw [hnew', reverseTable_eq hinverse hinverse' hforward]

/-! Sections. -/

theorem length_padToWords (data : List UInt8) : (padToWords data).length = (data.length + 3) / 4 * 4 := by
  rw [padToWords, List.length_append, List.length_replicate]
  omega

theorem length_encryptMinusT (crypt : PSOLFGEncryption) (data : List UInt8) :
    (encryptMinusT be crypt data).1.length = data.length := length_combineWords data

/-- The bytes that are padded do not matter to the others. -/
theorem take_encryptMinusT_pad (crypt : PSOLFGEncryption) (data : List UInt8) :
    (encryptMinusT be crypt (padToWords data)).1.take data.length = (encryptMinusT be crypt data).1 :=
  take_combineWords_append data (by omega)

theorem length_shuffle (tables : ShuffleTables) (dest src : List UInt8) {size : Nat} (hsize : size < 2 ^ 32)
    (reverse : Bool) : (tables.shuffle dest src size reverse).length = dest.length := by
  rw [ShuffleTables.shuffle_eq src reverse hsize, ScatteredWrites.length_scatter,
    ScatteredWrites.length_scatter]

/-- What is decrypted is what was encrypted, for sections of any size. -/
theorem exists_encryptDataSection (data : List UInt8) (hsize : data.length < 2 ^ 32) :
    ∃ encrypted, (∀ memory, encryptDataSection be memory data seed = .ok encrypted) ∧
      encrypted.length = data.length ∧
        ∀ memory, decryptDataSection be memory encrypted seed 0 = .ok data := by
  obtain ⟨tables, hinverse, hmake⟩ := exists_makeTables seed
  let crypt := PSOV2Encryption.new seed
  let words := (encryptMinusT be crypt (padToWords data)).1
  let encrypted := tables.shuffle (List.replicate data.length 0) words data.length false
  have hwords : data.length ≤ words.length := by
    dsimp only [words]
    rw [length_encryptMinusT, length_padToWords]
    omega
  have hlength : encrypted.length = data.length := by
    rw [length_shuffle tables _ _ hsize, List.length_replicate]
  refine ⟨encrypted, fun memory => ?_, hlength, fun memory => ?_⟩
  · unfold encryptDataSection
    rw [hmake memory]
    rfl
  · unfold decryptDataSection
    rw [if_pos rfl, hmake memory, hlength]
    have hshuffled : tables.shuffle (List.replicate data.length 0) encrypted data.length true =
        (encryptMinusT be crypt data).1 := by
      have hback : (tables.shuffle (List.replicate data.length 0) encrypted data.length true).take
          data.length = words.take data.length :=
        ShuffleTables.shuffle_shuffle false hinverse hsize hwords (by simp) (by simp)
      rw [take_encryptMinusT_pad] at hback
      rw [← hback]
      exact (List.take_of_length_le (by rw [length_shuffle tables _ _ hsize, List.length_replicate])).symm
    have hrecovered : (encryptMinusT be crypt (encryptMinusT be crypt data).1).1 = data :=
      congrArg Prod.fst (combineWords_combineWords undoes_minusOp data)
    have htake : (encryptMinusT be crypt (padToWords (encryptMinusT be crypt data).1)).1.take
        (encryptMinusT be crypt data).1.length =
          (encryptMinusT be crypt (encryptMinusT be crypt data).1).1 := take_encryptMinusT_pad crypt _
    rw [length_encryptMinusT, hrecovered] at htake
    dsimp only
    rw [ok_bind, hshuffled, htake]
    rfl

/-! Fields. -/

variable {bytes : List UInt8} {offset : Nat} {v w : UInt32}

theorem paddedWord_putU32 : paddedWord be (putU32 be v) = v := by
  have hlength : (putU32 be v).length ≤ 4 := (length_putU32 be v).le
  apply UInt32.toNat_inj.mp
  cases be with
  | false =>
      rw [toNat_paddedWord_false hlength, putU32, if_neg (by decide), putU32l]
      exact WordBytes.fromLittleEndian_littleEndian_of_lt v.toNat_lt
  | true =>
      rw [toNat_paddedWord_true hlength, length_putU32, Nat.sub_self, pow_zero, Nat.mul_one, putU32,
        if_pos rfl, putU32b]
      exact WordBytes.fromBigEndian_bigEndian_of_lt v.toNat_lt

theorem length_withWordAt (h : offset + 4 ≤ bytes.length) :
    (withWordAt be offset v bytes).length = bytes.length := by
  rw [withWordAt, List.length_append, List.length_append, List.length_take, List.length_drop, length_putU32]
  omega

theorem drop_withWordAt_self (h : offset ≤ bytes.length) :
    (withWordAt be offset v bytes).drop offset = putU32 be v ++ bytes.drop (offset + 4) := by
  have hlength : (bytes.take offset).length = offset := List.length_take_of_le h
  rw [withWordAt, List.append_assoc]
  exact List.drop_left' hlength

theorem wordAt_withWordAt (h : offset ≤ bytes.length) : wordAt be offset (withWordAt be offset v bytes) = v := by
  have hfour : (putU32 be v ++ bytes.drop (offset + 4)).take 4 = putU32 be v := by
    rw [← length_putU32 be v, List.take_left]
  rw [wordAt, drop_withWordAt_self h, hfour, paddedWord_putU32]

theorem withWordAt_zero : withWordAt be 0 v bytes = putU32 be v ++ bytes.drop 4 := by
  rw [withWordAt, List.take_zero, List.nil_append, Nat.zero_add]

theorem drop_withWordAt_zero (h : 4 ≤ offset) : (withWordAt be 0 v bytes).drop offset = bytes.drop offset := by
  have hfour : (putU32 be v).length = 4 := length_putU32 be v
  rw [withWordAt_zero, List.drop_append, List.drop_of_length_le (by omega), List.nil_append, hfour,
    List.drop_drop, Nat.add_sub_cancel' h]

theorem withWordAt_zero_zero : withWordAt be 0 w (withWordAt be 0 v bytes) = withWordAt be 0 w bytes := by
  rw [withWordAt_zero, drop_withWordAt_zero (Nat.le_refl 4), ← withWordAt_zero]

/-- The first word and a later one are set in either order. -/
theorem withWordAt_comm (h : 4 ≤ offset) (hoffset : offset ≤ bytes.length) :
    withWordAt be 0 v (withWordAt be offset w bytes) = withWordAt be offset w (withWordAt be 0 v bytes) := by
  have hfour : (putU32 be v).length = 4 := length_putU32 be v
  have htake : (withWordAt be 0 v bytes).take offset = putU32 be v ++ (bytes.take offset).drop 4 := by
    rw [withWordAt_zero, List.take_append, hfour, List.take_of_length_le (by omega), List.drop_take]
  have hrest : (withWordAt be offset w bytes).drop 4 =
      (bytes.take offset).drop 4 ++ putU32 be w ++ bytes.drop (offset + 4) := by
    have hlength : 4 ≤ (bytes.take offset).length := by
      rw [List.length_take]
      omega
    rw [withWordAt, List.append_assoc, List.drop_append_of_le_length hlength, List.append_assoc]
  rw [withWordAt_zero, hrest]
  conv_rhs => rw [withWordAt, htake, drop_withWordAt_zero (Nat.le_add_left_of_le (Nat.le_refl 4))]
  simp only [List.append_assoc]

/-! Structures. -/

theorem length_encryptT (crypt : PSOLFGEncryption) (data : List UInt8) :
    (encryptT be crypt data).1.length = data.length := length_combineWords data

section

variable {layout : SectionLayout} {s : List UInt8} {round2Seed : UInt32}

theorem length_blank (hs : s.length = layout.size) :
    (withWordAt be layout.round2SeedOffset round2Seed (withWordAt be 0 0 s)).length = layout.size := by
  have hseed := layout.seed_within
  have hfirst : (withWordAt be 0 0 s).length = s.length := length_withWordAt (by omega)
  rw [length_withWordAt (by omega), hfirst, hs]

theorem length_sealed (hs : s.length = layout.size) :
    (sealed crc32 layout be s round2Seed).length = layout.size := by
  have hlength : (withWordAt be layout.round2SeedOffset round2Seed (withWordAt be 0 0 s)).length = layout.size :=
    length_blank hs
  have hchecksum := layout.checksum_before
  have hseed := layout.seed_within
  rw [sealed, length_withWordAt (by omega), hlength]

theorem wordAt_seed_sealed (hs : s.length = layout.size) :
    wordAt be layout.round2SeedOffset (sealed crc32 layout be s round2Seed) = round2Seed := by
  have hseed := layout.seed_within
  have hfirst : (withWordAt be 0 0 s).length = s.length := length_withWordAt (by omega)
  rw [sealed, wordAt, drop_withWordAt_zero layout.checksum_before]
  exact wordAt_withWordAt (by omega)

/-- Without its checksum a sealed structure is what the checksum was made of. -/
theorem withoutChecksum_sealed (hs : s.length = layout.size) :
    withWordAt be 0 0 (sealed crc32 layout be s round2Seed) =
      withWordAt be layout.round2SeedOffset round2Seed (withWordAt be 0 0 s) := by
  have hseed := layout.seed_within
  have hfirst : (withWordAt be 0 0 s).length = s.length := length_withWordAt (by omega)
  rw [sealed, withWordAt_zero_zero, withWordAt_comm layout.checksum_before (by omega), withWordAt_zero_zero]

/-- A structure comes back from its section with its seed and its checksum filled in, and
the checksum is accepted. -/
theorem section_roundTrip (crc32 : List UInt8 → UInt32) (layout : SectionLayout) (be : Bool) (s : List UInt8)
    (hs : s.length = layout.size) (hsize : layout.size < 2 ^ 32) (round1Seed round2Seed : UInt32) :
    ∃ dataSection, dataSection.length = layout.size ∧
      (∀ memory, encryptFixedSizeDataSectionT crc32 layout be memory s round1Seed round2Seed =
        .ok dataSection) ∧
      ∀ (memory : Table) (skipChecksum : Bool) (overrideRound2Seed : Int),
        (overrideRound2Seed < 0 ∨ overrideRound2Seed = round2Seed.toNat) →
          decryptFixedSizeDataSectionT crc32 layout be memory dataSection round1Seed skipChecksum
            overrideRound2Seed = .ok (sealed crc32 layout be s round2Seed) := by
  have hseed := layout.seed_within
  have hlength : (sealed crc32 layout be s round2Seed).length = layout.size := length_sealed hs
  have hprefix : ((sealed crc32 layout be s round2Seed).take layout.round2SeedOffset).length =
      layout.round2SeedOffset := List.length_take_of_le (by omega)
  let crypt := PSOV2Encryption.new round2Seed
  let head := (encryptT be crypt ((sealed crc32 layout be s round2Seed).take layout.round2SeedOffset)).1
  let encrypted := head ++ (sealed crc32 layout be s round2Seed).drop layout.round2SeedOffset
  have hhead : head.length = layout.round2SeedOffset := by
    rw [length_encryptT, hprefix]
  have htotal : encrypted.length = layout.size := by
    rw [List.length_append, hhead, List.length_drop]
    omega
  have htake : encrypted.take layout.round2SeedOffset = head := by
    rw [← hhead, List.take_left]
  have hdrop : encrypted.drop layout.round2SeedOffset =
      (sealed crc32 layout be s round2Seed).drop layout.round2SeedOffset := by
    rw [← hhead, List.drop_left, hhead]
  have hdata : encrypted.length < 2 ^ 32 := htotal ▸ hsize
  obtain ⟨dataSection, hencrypt, hsection, hdecrypt⟩ := exists_encryptDataSection encrypted hdata
  refine ⟨dataSection, hsection.trans htotal, hencrypt, fun memory skipChecksum override hoverride => ?_⟩
  have hround2 : (if override ≥ 0 then UInt32.ofNat override.toNat
      else wordAt be layout.round2SeedOffset encrypted) = round2Seed := by
    split_ifs with hnonneg
    · obtain hneg | rfl := hoverride
      · exact absurd hnonneg (not_le.mpr hneg)
      · rw [Int.toNat_natCast, UInt32.ofNat_toNat]
    · rw [wordAt, hdrop]
      exact wordAt_seed_sealed hs
  have hback : (encryptT be crypt head).1 =
      (sealed crc32 layout be s round2Seed).take layout.round2SeedOffset :=
    congrArg Prod.fst (combineWords_combineWords undoes_xorOp _)
  have hcrc : wordAt be 0 (sealed crc32 layout be s round2Seed) =
      crc32 ((withWordAt be 0 0 (sealed crc32 layout be s round2Seed)).take layout.checksumLength) := by
    rw [withoutChecksum_sealed hs]
    exact wordAt_withWordAt (Nat.zero_le _)
  unfold decryptFixedSizeDataSectionT
  rw [hdecrypt memory, ok_bind, if_neg (by omega)]
  dsimp only
  rw [List.take_of_length_le htotal.le, hround2, htake, hdrop, hback, List.take_append_drop]
  cases skipChecksum with
  | true => rfl
  | false =>
      rw [if_neg (by decide), if_neg (not_not_intro hcrc)]
      rfl

/-- The checksum of zlib. -/
def referenceCrc32 (bytes : List UInt8) : UInt32 :=
  let shift (crc : UInt32) : UInt32 := if crc &&& 1 = 1 then (crc >>> 1) ^^^ 0xEDB88320 else crc >>> 1
  (bytes.foldl (fun crc b => shift^[8] (crc ^^^ b.toUInt32)) 0xFFFFFFFF) ^^^ 0xFFFFFFFF

/-- `PSOGCGuildCardFile` -/
def gcGuildCardFile : SectionLayout where
  size := 0xE28C
  round2SeedOffset := 0xE288
  checksumLength := 0xE28C
  checksum_before := by decide
  seed_within := by decide
  checksum_within := by decide

theorem section_roundTrip_guildCardFile :
    ∃ dataSection, dataSection.length = 0xE28C ∧
      (∀ memory, encryptFixedSizeDataSectionT referenceCrc32 gcGuildCardFile true memory
        (List.replicate 0xE28C 0) 0x12345678 0x9ABCDEF0 = .ok dataSection) ∧
      ∀ memory, decryptFixedSizeDataSectionT referenceCrc32 gcGuildCardFile true memory dataSection
        0x12345678 false (-1) =
          .ok (sealed referenceCrc32 gcGuildCardFile true (List.replicate 0xE28C 0) 0x9ABCDEF0) := by
  obtain ⟨dataSection, hlength, hencrypt, hdecrypt⟩ :=
    section_roundTrip referenceCrc32 gcGuildCardFile true (List.replicate 0xE28C 0) List.length_replicate
      (by decide) 0x12345678 0x9ABCDEF0
  exact ⟨dataSection, hlength, hencrypt, fun memory => hdecrypt memory false (-1) (Or.inl (by decide))⟩

end

end HuntersGuild.SaveSections
