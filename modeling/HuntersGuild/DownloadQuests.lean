import HuntersGuild.ChannelFraming
import HuntersGuild.PrsDecoding
import HuntersGuild.StringReaders

/-!
`encode_download_quest_data` and `decode_dlq_data`. The decoder leaves the eight bytes
of the header out, but makes the data as long as with them. What is behind the stop
command of compressed data does no harm.
-/

namespace HuntersGuild.DownloadQuests

open HuntersGuild.ByteStreams
open HuntersGuild.ChannelFraming
open HuntersGuild.Channels (resize roundUp)
open HuntersGuild.ExceptionRules
open HuntersGuild.FuelLoop
open HuntersGuild.InterleavedStream
open HuntersGuild.PrsCommands
open HuntersGuild.PrsDecoding
open HuntersGuild.PrsDecompression
open HuntersGuild.PsoLfgEncryption
open HuntersGuild.StringReaders
open HuntersGuild.WordStreams

/-- `randomObject` is the seed that is drawn where none is given. -/
def encodeDownloadQuestData (randomObject : UInt32) (compressedData : List UInt8) (decompressedSize : Nat)
    (encryptionSeed : UInt32) : Except Exception (List UInt8) := do
  let encryptionSeed := if encryptionSeed = 0 then randomObject else encryptionSeed
  let decompressedSize ←
    (if decompressedSize = 0 then prsDecompressSize compressedData 0 false else pure decompressedSize)
  let data := putU32l (.ofNat decompressedSize) ++ putU32l encryptionSeed ++ compressedData
  let originalSize := data.length
  let data := resize (roundUp 4 data.length) data
  let encr := PSOV2Encryption.new encryptionSeed
  let data := data.take 8 ++ (encr.encrypt (data.drop 8)).1
  return resize originalSize data

def decodeDlqData (data : List UInt8) : Except Exception (List UInt8) := do
  let (decompressedSize, r) ← getU32l (.ofBytes data)
  let (key, r) ← getU32l r
  let (decrypted, _) ← StringReaders.read r.remaining.length r
  let encr := PSOV2Encryption.new key
  let originalSize := data.length
  let decrypted := (encr.encrypt (resize (roundUp 4 decrypted.length) decrypted)).1
  let decrypted := resize originalSize decrypted
  let size ← prsDecompressSize decrypted 0 false
  if size ≠ decompressedSize.toNat then
    throw (.runtimeError "decompressed size does not match size in header")
  return decrypted

/-! Compressed data with something behind them. -/

variable {data content : List UInt8}

theorem prsDecompressSize_of_prsDecompress (h : prsDecompress data 0 false = .ok content) :
    prsDecompressSize data 0 false = .ok content.length := by
  obtain ⟨result, hmeta, hresult⟩ := bind_eq_ok.mp h
  obtain rfl := Except.ok.inj hresult
  obtain ⟨r, hr⟩ := exists_run_prsDecompressBody data 0 false
  obtain ⟨r', hr'⟩ := exists_run_prsDecompressSizeBody data 0 false
  have hsame : SameSize r r' := agree_of_lockstep (fun _ _ => lockstep) (sameProgress_ofBytes 0 data)
    (fun _ _ hcut => absurd hcut.1 Bool.false_ne_true) hr hr'
  rw [prsDecompressWithMeta, hr, Option.getD_some] at hmeta
  rw [hmeta] at hsame
  rw [prsDecompressSize, hr', Option.getD_some]
  cases r' with
  | error e => exact absurd hsame id
  | ok n => rw [show result.data.length = n from hsame]

/-- The decompressor does not look behind a stop command. -/
theorem prsDecompress_append (hstop : StopTerminated data) (h : prsDecompress data 0 false = .ok content)
    (extra : List UInt8) : prsDecompress (data ++ extra) 0 false = .ok content := by
  obtain ⟨s, cr, cr', hreach, heof, hread, hcopy⟩ := hstop
  have hdone : prsDecompressBody 0 false s = .done (.ok ⟨s.w, cr'.r.offset⟩) := by
    simp [prsDecompressBody, heof, hread, hcopy]
  obtain ⟨r, hrun⟩ := exists_run_prsDecompressBody data 0 false
  have hr := run_of_reaches hreach hdone hrun
  have hcontent : s.w = content := by
    rw [prsDecompress, prsDecompressWithMeta, hrun, hr] at h
    exact Except.ok.inj h
  -- The same commands are read from the longer data, and then the same stop command.
  obtain ⟨commands, t, hcommands, hexec, ht⟩ := reads_of_reaches (represents_ofBytes data) hreach
  obtain ⟨t₁, ht₁, h₁⟩ := reads_of_read ht hread
  obtain ⟨t₂, items, -, h₂, hitems⟩ := reads_of_readCopy ht₁ hcopy
  obtain ⟨crExtra, hreach', hcr⟩ := reaches_of_reads (s := ⟨[], .ofBytes (data ++ extra)⟩) false
    (represents_ofBytes (data ++ extra)) (hcommands.extend extra) hexec
  obtain ⟨offset, hdone'⟩ := prsDecompressBody_of_stop (s := ⟨s.w, crExtra⟩) false hcr hitems
    ((h₁.append h₂).extend extra)
  obtain ⟨r', hrun'⟩ := exists_run_prsDecompressBody (data ++ extra) 0 false
  have hr' := run_of_reaches hreach' hdone' hrun'
  rw [prsDecompress, prsDecompressWithMeta, hrun', hr', hcontent]
  rfl

/-! A download quest. -/

/-- The ciphertext of data without the padding gives the data back, and some bytes behind
them. -/
theorem encrypt_resize (encr : PSOLFGEncryption) (data : List UInt8) : ∃ rest,
    rest.length = roundUp 4 data.length - data.length ∧
      (encr.encrypt (resize (roundUp 4 data.length) (encr.encrypt data).1)).1 = data ++ rest := by
  have hlength : (encr.encrypt data).1.length = data.length := length_xorWords data
  have hround : data.length ≤ roundUp 4 data.length := le_roundUp (by decide) _
  have hwords : (data.length + (List.replicate (roundUp 4 data.length - data.length) (0 : UInt8)).length +
      3) / 4 = (data.length + 3) / 4 := by
    rw [List.length_replicate]
    unfold roundUp at hround ⊢
    omega
  obtain ⟨rest, hrest, hrecover⟩ := @xorWords_recover _ PSOLFGEncryption.next encr data _ hwords
  rw [List.length_replicate] at hrest
  refine ⟨rest, hrest, ?_⟩
  rw [resize_of_le (hlength.trans_le hround), hlength]
  exact congrArg Prod.fst hrecover

/-- The part of the ciphertext that is kept is that of the data alone. -/
theorem resize_encrypt (encr : PSOLFGEncryption) (header data padding : List UInt8) :
    resize (header ++ data).length (header ++ (encr.encrypt (data ++ padding)).1) =
      header ++ (encr.encrypt data).1 := by
  have hsplit : ∃ rest, (encr.encrypt (data ++ padding)).1 = (encr.encrypt data).1 ++ rest := by
    unfold PSOLFGEncryption.encrypt
    rw [xorWords_eq, xorWords_eq, List.mapIdx_append]
    exact ⟨_, rfl⟩
  obtain ⟨rest, hrest⟩ := hsplit
  have hlength : (header ++ data).length = (header ++ (encr.encrypt data).1).length := by
    rw [List.length_append, List.length_append, PSOLFGEncryption.encrypt, length_xorWords]
  rw [hrest, hlength, ← List.append_assoc, resize_append]

/-- The header and the ciphertext of the data. -/
theorem encode_eq (randomObject encryptionSeed : UInt32) {compressed : List UInt8} {decompressedSize size : Nat}
    (hsize : (if decompressedSize = 0 then prsDecompressSize compressed 0 false else pure decompressedSize) =
      .ok size) :
    encodeDownloadQuestData randomObject compressed decompressedSize encryptionSeed =
      .ok (putU32l (.ofNat size) ++ putU32l (if encryptionSeed = 0 then randomObject else encryptionSeed) ++
        ((PSOV2Encryption.new (if encryptionSeed = 0 then randomObject else encryptionSeed)).encrypt
          compressed).1) := by
  unfold encodeDownloadQuestData
  dsimp only
  rw [hsize, ok_bind]
  generalize (if encryptionSeed = 0 then randomObject else encryptionSeed) = seed
  have hheader : (putU32l (UInt32.ofNat size) ++ putU32l seed).length = 8 := rfl
  generalize putU32l (UInt32.ofNat size) ++ putU32l seed = header at hheader
  rw [resize_of_le (le_roundUp (by decide) _), List.append_assoc, List.take_left' hheader,
    List.drop_left' hheader, resize_encrypt]
  rfl

/-- What the decoder makes of the header and the ciphertext. -/
theorem decode_encrypted (size seed : UInt32) (compressed : List UInt8) : ∃ extra, extra.length = 8 ∧
    decodeDlqData (putU32l size ++ putU32l seed ++ ((PSOV2Encryption.new seed).encrypt compressed).1) = do
      let n ← prsDecompressSize (compressed ++ extra) 0 false
      if n ≠ size.toNat then throw (.runtimeError "decompressed size does not match size in header")
      return compressed ++ extra := by
  obtain ⟨rest, hrest, hdecrypt⟩ := encrypt_resize (PSOV2Encryption.new seed) compressed
  have hlength : ((PSOV2Encryption.new seed).encrypt compressed).1.length = compressed.length :=
    length_xorWords compressed
  have hround : roundUp 4 compressed.length < compressed.length + 4 := by
    unfold roundUp
    omega
  refine ⟨rest ++ List.replicate (8 - rest.length) 0, ?_, ?_⟩
  · rw [List.length_append, List.length_replicate]
    omega
  · have hsize := reads_getU32l size
    have hseed := reads_getU32l seed
    have hdata := reads_read ((PSOV2Encryption.new seed).encrypt compressed).1
    unfold decodeDlqData
    rw [List.append_assoc, StringReader.ofBytes, hsize, ok_bind]
    dsimp only
    rw [hseed, ok_bind]
    dsimp only
    have hlast := hdata [] (0 + (putU32l size).length + (putU32l seed).length)
    rw [List.append_nil] at hlast
    rw [hlast, ok_bind]
    dsimp only
    have hall : resize (putU32l size ++ (putU32l seed ++ ((PSOV2Encryption.new seed).encrypt compressed).1)).length
        (compressed ++ rest) = compressed ++ (rest ++ List.replicate (8 - rest.length) 0) := by
      have htotal : (putU32l size ++ (putU32l seed ++
          ((PSOV2Encryption.new seed).encrypt compressed).1)).length = compressed.length + 8 := by
        rw [List.length_append, List.length_append, hlength]
        exact (Nat.add_assoc 4 4 compressed.length).symm.trans (Nat.add_comm _ _)
      rw [htotal, resize_of_le (by rw [List.length_append]; omega), List.append_assoc, List.length_append,
        Nat.add_sub_add_left]
    rw [hlength, hdecrypt, hall]

/-- What a download quest carries comes back with eight bytes behind it, which do not
change what it decompresses to. -/
theorem downloadQuest_roundTrip (randomObject encryptionSeed : UInt32) (compressed content : List UInt8)
    (decompressedSize : Nat) (hstop : StopTerminated compressed)
    (hcontent : prsDecompress compressed 0 false = .ok content)
    (hsize : decompressedSize = 0 ∨ decompressedSize = content.length) :
    ∃ data, encodeDownloadQuestData randomObject compressed decompressedSize encryptionSeed = .ok data ∧
      if content.length < 2 ^ 32 then ∃ extra, extra.length = 8 ∧ decodeDlqData data = .ok (compressed ++ extra) ∧
        prsDecompress (compressed ++ extra) 0 false = .ok content
      else decodeDlqData data =
        .error (.runtimeError "decompressed size does not match size in header") := by
  have hencode : (if decompressedSize = 0 then prsDecompressSize compressed 0 false else pure decompressedSize) =
      .ok content.length := by
    by_cases hzero : decompressedSize = 0
    · rw [if_pos hzero]
      exact prsDecompressSize_of_prsDecompress hcontent
    · rw [if_neg hzero, hsize.resolve_left hzero]
      rfl
  refine ⟨_, encode_eq randomObject encryptionSeed hencode, ?_⟩
  obtain ⟨extra, hextra, hdecode⟩ := decode_encrypted (.ofNat content.length)
    (if encryptionSeed = 0 then randomObject else encryptionSeed) compressed
  have hlonger := prsDecompress_append hstop hcontent extra
  rw [hdecode, prsDecompressSize_of_prsDecompress hlonger, ok_bind, UInt32.toNat_ofNat']
  by_cases hlt : content.length < 2 ^ 32
  · rw [if_pos hlt, if_neg (not_not_intro (Nat.mod_eq_of_lt hlt).symm)]
    exact ⟨extra, hextra, rfl, hlonger⟩
  · have hne : content.length ≠ content.length % 2 ^ 32 := fun heq =>
      hlt (heq ▸ Nat.mod_lt _ (by decide))
    rw [if_neg hlt, if_pos hne]
    rfl

/-- A stream of one literal `A`. -/
theorem stopTerminated_letter : StopTerminated [0x05, 0x41, 0x00, 0x00] :=
  ⟨⟨[0x41], ⟨⟨[0x00, 0x00], 2⟩, 0x7F82⟩⟩, ⟨⟨[0x00, 0x00], 2⟩, 0x3FC1⟩, ⟨⟨[], 4⟩, 0x1FE0⟩,
    .single (by unfold Goes; decide +kernel), by decide, by decide, by decide⟩

theorem downloadQuest_roundTrip_letter :
    ∃ data, encodeDownloadQuestData 7 [0x05, 0x41, 0x00, 0x00] 0 0 = .ok data ∧
      ∃ extra, extra.length = 8 ∧ decodeDlqData data = .ok ([0x05, 0x41, 0x00, 0x00] ++ extra) := by
  obtain ⟨data, hencode, hdecode⟩ := downloadQuest_roundTrip 7 0 [0x05, 0x41, 0x00, 0x00] [0x41] 0
    stopTerminated_letter (by decide +kernel) (.inl rfl)
  rw [if_pos (by decide)] at hdecode
  obtain ⟨extra, hextra, hdata, -⟩ := hdecode
  exact ⟨data, hencode, extra, hextra, hdata⟩

end HuntersGuild.DownloadQuests
