import HuntersGuild.PagedLayouts
import HuntersGuild.QuestFiles

/-!
`GSLArchive`: files with names, each of which begins on a page of its own.
-/

namespace HuntersGuild.GslArchives

open HuntersGuild.AsciiFields (Encodable)
open HuntersGuild.ByteStreams
open HuntersGuild.ExceptionRules
open HuntersGuild.FuelLoop
open HuntersGuild.KeyedLists
open HuntersGuild.PagedLayouts
open HuntersGuild.QuestFiles (StringMap toText reads_bytes)
open HuntersGuild.StringReaders

structure GSLHeaderEntry where
  filename : Parray 0x20
  offset : UInt32
  size : UInt32
  unused : UInt64

def GSLHeaderEntry.get (bigEndian : Bool) : Reader GSLHeaderEntry := do
  let filename ← getParray 0x20
  let offset ← getU32 bigEndian
  let size ← getU32 bigEndian
  let unused ← getU64l
  return ⟨filename, offset, size, unused⟩

/-- The entry of a file. The offset is that of its page. -/
def putHeaderEntry (bigEndian : Bool) (dataOffset : UInt32) (file : List UInt8 × List UInt8) : List UInt8 :=
  AsciiFields.encode 0x20 file.1 ++ (putU32 bigEndian (dataOffset >>> 11) ++
    (putU32 bigEndian (.ofNat file.2.length) ++ putU64l 0))

structure Entry where
  offset : UInt64
  size : UInt32

structure GSLArchive where
  data : List UInt8
  entries : StringMap Entry

/-- One pass of the loop, whose bound is never lowered. -/
def loadBody (bigEndian : Bool) (data : List UInt8) (s : StringReader × StringMap Entry) :
    Step (StringReader × StringMap Entry) (Except Exception (StringMap Entry)) :=
  Step.ofExcept do
    let (entry, r) ← GSLHeaderEntry.get bigEndian s.1
    if entry.filename.bytes.headD 0 = 0 then
      return .done s.2
    else
      let offset := entry.offset.toUInt64 * 0x800
      if offset.toNat + entry.size.toNat > data.length then
        throw (.runtimeError "GSL entry extends beyond end of data")
      else
        let entries := s.2.emplace (AsciiFields.decode entry.filename.bytes) ⟨offset, entry.size⟩
        return .next (r, entries.getD s.2)

def notContained (name : List UInt8) : Exception :=
  .outOfRange ("GSL does not contain file: " ++ toText name)

namespace GSLArchive

/-- The constructor. -/
def ofData (data : List UInt8) (bigEndian : Bool) : Except Exception GSLArchive := do
  let entries ← (run (loadBody bigEndian data) (data.length + 1) (.ofBytes data, [])).getD (.error .nonterminating)
  return ⟨data, entries⟩

/-- The bytes at the pointer that is returned. -/
def get (name : List UInt8) (self : GSLArchive) : Except Exception (List UInt8) :=
  match lookup Prod.fst self.entries name with
  | some (_, entry) => .ok ((self.data.drop entry.offset.toNat).take entry.size.toNat)
  | none => .error (notContained name)

/-- What `substr` throws is caught too. -/
def getCopy (name : List UInt8) (self : GSLArchive) : Except Exception (List UInt8) :=
  match lookup Prod.fst self.entries name with
  | some (_, entry) =>
    if entry.offset.toNat > self.data.length then .error (notContained name)
    else .ok ((self.data.drop entry.offset.toNat).take entry.size.toNat)
  | none => .error (notContained name)

def getReader (name : List UInt8) (self : GSLArchive) : Except Exception StringReader := do
  return .ofBytes (← self.get name)

end GSLArchive

/-- There is room for a blank entry behind those of the files. -/
def dataStartOffset (count : Nat) : UInt32 := .ofNat (alignUp 0x800 (0x30 * (count + 1)))

def header (files : StringMap (List UInt8)) (bigEndian : Bool) : List UInt8 :=
  extendTo 0 (dataStartOffset files.length).toNat (List.zipWith (putHeaderEntry bigEndian)
    (wordOffsets 0x800 (dataStartOffset files.length) (files.map (·.2.length))) files).flatten

/-- `files` are in the order in which the map lists them. -/
def generate (files : StringMap (List UInt8)) (bigEndian : Bool) : List UInt8 :=
  (files.map Prod.snd).foldl (put 0 0x800) (header files bigEndian)

/-! Loading. -/

/-- An archive has room for these files. -/
structure Fits (files : StringMap (List UInt8)) : Prop where
  start : alignUp 0x800 (0x30 * (files.length + 1)) < 2 ^ 32
  offsets : ∀ offset ∈ offsets 0x800 (alignUp 0x800 (0x30 * (files.length + 1))) (files.map (·.2.length)),
    offset < 2 ^ 32
  sizes : ∀ file ∈ files, file.2.length < 2 ^ 32

/-- A name that an archive holds as it is. -/
def Named (name : List UInt8) : Prop := Encodable 0x20 name ∧ name ≠ []

variable {files : StringMap (List UInt8)} {bigEndian : Bool} {data : List UInt8}

theorem toNat_dataStartOffset (h : Fits files) :
    (dataStartOffset files.length).toNat = alignUp 0x800 (0x30 * (files.length + 1)) := by
  rw [dataStartOffset, UInt32.toNat_ofNat', Nat.mod_eq_of_lt h.start]

theorem length_putHeaderEntry (bigEndian : Bool) (word : UInt32) (file : List UInt8 × List UInt8) :
    (putHeaderEntry bigEndian word file).length = 0x30 := by
  rw [putHeaderEntry, List.length_append, List.length_append, List.length_append, AsciiFields.length_encode,
    length_putU32, length_putU32]
  rfl

/-- The entries that are written for the files. -/
def headerEntries (files : StringMap (List UInt8)) (bigEndian : Bool) : List UInt8 :=
  (List.zipWith (putHeaderEntry bigEndian)
    (wordOffsets 0x800 (dataStartOffset files.length) (files.map (·.2.length))) files).flatten

theorem length_flatten_putHeaderEntry (bigEndian : Bool) (words : List UInt32) (files : StringMap (List UInt8))
    (h : words.length = files.length) :
    (List.zipWith (putHeaderEntry bigEndian) words files).flatten.length = 0x30 * files.length := by
  induction files generalizing words with
  | nil => rw [List.zipWith_nil_right]; rfl
  | cons file files ih =>
      obtain ⟨word, words, rfl⟩ := List.exists_cons_of_length_eq_add_one h
      rw [List.zipWith_cons_cons, List.flatten_cons, List.length_append, length_putHeaderEntry,
        ih words (Nat.succ.inj h), List.length_cons, Nat.mul_succ, Nat.add_comm]

theorem length_headerEntries (files : StringMap (List UInt8)) (bigEndian : Bool) :
    (headerEntries files bigEndian).length = 0x30 * files.length :=
  length_flatten_putHeaderEntry _ _ _ (by rw [length_wordOffsets, List.length_map])

theorem length_header (h : Fits files) :
    (header files bigEndian).length = (dataStartOffset files.length).toNat := by
  have hentries := length_headerEntries files bigEndian
  have hle : 0x30 * (files.length + 1) ≤ alignUp 0x800 (0x30 * (files.length + 1)) := le_alignUp (by decide) _
  have hstart := toNat_dataStartOffset h
  refine length_extendTo ?_
  change (headerEntries files bigEndian).length ≤ _
  omega

/-- Behind the entries there is a blank one. -/
theorem generate_eq (h : Fits files) (bigEndian : Bool) :
    ∃ rest, generate files bigEndian = headerEntries files bigEndian ++ (List.replicate 0x30 0 ++ rest) := by
  have hentries := length_headerEntries files bigEndian
  have hle : 0x30 * (files.length + 1) ≤ alignUp 0x800 (0x30 * (files.length + 1)) := le_alignUp (by decide) _
  have hstart := toNat_dataStartOffset h
  have hblank : (dataStartOffset files.length).toNat - (headerEntries files bigEndian).length =
      0x30 + ((dataStartOffset files.length).toNat - 0x30 * (files.length + 1)) := by omega
  have hheader : header files bigEndian = headerEntries files bigEndian ++ (List.replicate 0x30 0 ++
      List.replicate ((dataStartOffset files.length).toNat - 0x30 * (files.length + 1)) 0) := by
    rw [← List.replicate_add, ← hblank]
    rfl
  have hprefix : header files bigEndian <+: generate files bigEndian := prefix_foldl_put _
  obtain ⟨pages, hpages⟩ := hprefix
  rw [← hpages, hheader, List.append_assoc, List.append_assoc]
  exact ⟨_, rfl⟩

theorem reads_putHeaderEntry (bigEndian : Bool) (word : UInt32) (file : List UInt8 × List UInt8) :
    Reads (GSLHeaderEntry.get bigEndian) (putHeaderEntry bigEndian word file)
      ⟨⟨AsciiFields.encode 0x20 file.1, AsciiFields.length_encode 0x20 file.1⟩, word >>> 11,
        .ofNat file.2.length, 0⟩ :=
  (reads_bytes (AsciiFields.length_encode 0x20 file.1)).bind
    ((reads_getU32 bigEndian _).bind ((reads_getU32 bigEndian _).bind (reads_getU64l 0).map))

/-- The offset of a page is stored without loss. -/
theorem toUInt64_page {word : UInt32} (h : 0x800 ∣ word.toNat) :
    (word >>> 11).toUInt64 * 0x800 = word.toUInt64 := by
  have hlt := word.toNat_lt
  have hshift : (word >>> 11).toNat = word.toNat / 0x800 := by
    rw [UInt32.toNat_shiftRight]
    exact Nat.shiftRight_eq_div_pow _ 11
  rw [← UInt64.toNat_inj, UInt64.toNat_mul, UInt32.toNat_toUInt64, UInt32.toNat_toUInt64, hshift]
  change word.toNat / 0x800 * 0x800 % 2 ^ 64 = word.toNat
  omega

/-- What is known of a file after loading. -/
def entryOf (word : UInt32) (file : List UInt8 × List UInt8) : List UInt8 × Entry :=
  (file.1, ⟨word.toUInt64, .ofNat file.2.length⟩)

/-- The file is on the page that the word tells. -/
structure IsPage (data : List UInt8) (word : UInt32) (file : List UInt8 × List UInt8) : Prop where
  hasAt : HasAt data word.toNat file.2
  aligned : 0x800 ∣ word.toNat
  size : file.2.length < 2 ^ 32

variable {word : UInt32} {file : List UInt8 × List UInt8} {entries : StringMap Entry}

theorem loadBody_file (bigEndian : Bool) (hname : Named file.1) (hpage : IsPage data word file)
    (hnew : file.1 ∉ entries.map Prod.fst) (rest : List UInt8) (offset : Nat) :
    loadBody bigEndian data (⟨putHeaderEntry bigEndian word file ++ rest, offset⟩, entries) =
      .next (⟨rest, offset + 0x30⟩, entries ++ [entryOf word file]) := by
  have hle := hpage.hasAt.le_length
  have hlength : (UInt32.ofNat file.2.length).toNat = file.2.length := by
    rw [UInt32.toNat_ofNat', Nat.mod_eq_of_lt hpage.size]
  have hfirst : (AsciiFields.encode 0x20 file.1).headD 0 ≠ 0 := by
    obtain ⟨c, name, hcons⟩ := List.exists_cons_of_ne_nil hname.2
    rw [AsciiFields.encode_of_encodable hname.1, hcons]
    exact hname.1.ne_zero c (hcons ▸ List.mem_cons_self)
  have hemplace : entries.emplace file.1 (entryOf word file).2 = some (entries ++ [entryOf word file]) := by
    rw [StringMap.emplace, lookup_eq_none_iff.mpr hnew]
    rfl
  rw [loadBody, reads_putHeaderEntry, ok_bind]
  dsimp only
  rw [if_neg hfirst, toUInt64_page hpage.aligned, UInt32.toNat_toUInt64, hlength, if_neg (by omega),
    AsciiFields.decode_encode hname.1, length_putHeaderEntry]
  change Step.next (_, (entries.emplace file.1 (entryOf word file).2).getD entries) = _
  rw [hemplace]
  rfl

theorem loadBody_blank (bigEndian : Bool) (data : List UInt8) (entries : StringMap Entry) (rest : List UInt8)
    (offset : Nat) :
    loadBody bigEndian data (⟨List.replicate 0x30 0 ++ rest, offset⟩, entries) = .done (.ok entries) := by
  have hblank : putHeaderEntry bigEndian 0 ([], []) = List.replicate 0x30 0 := by cases bigEndian <;> decide
  rw [← hblank, loadBody, reads_putHeaderEntry]
  rfl

/-- All files whose names the archive holds are found. -/
theorem run_loadBody (bigEndian : Bool) {words : List UInt32} {files : StringMap (List UInt8)}
    (hpages : List.Forall₂ (IsPage data) words files) (hnames : ∀ file ∈ files, Named file.1)
    (hnodup : (entries.map Prod.fst ++ files.map Prod.fst).Nodup) (rest : List UInt8) (offset : Nat) {fuel : Nat}
    (hfuel : files.length < fuel) :
    run (loadBody bigEndian data) fuel (⟨(List.zipWith (putHeaderEntry bigEndian) words files).flatten ++
      (List.replicate 0x30 0 ++ rest), offset⟩, entries) =
        some (.ok (entries ++ List.zipWith entryOf words files)) := by
  induction hpages generalizing entries offset fuel with
  | nil =>
      obtain ⟨fuel, rfl⟩ := Nat.exists_eq_add_one_of_ne_zero (Nat.ne_of_gt hfuel)
      rw [List.zipWith_nil_right, List.zipWith_nil_right, List.append_nil]
      exact run_of_done (loadBody_blank bigEndian data entries rest offset) fuel
  | @cons word file words files hpage hpages ih =>
      obtain ⟨fuel, rfl⟩ := Nat.exists_eq_add_one_of_ne_zero (Nat.ne_of_gt (Nat.zero_lt_of_lt hfuel))
      rw [List.forall_mem_cons] at hnames
      rw [List.map_cons] at hnodup
      have hnew : file.1 ∉ entries.map Prod.fst := fun hmem =>
        (List.nodup_append.mp hnodup).2.2 _ hmem _ List.mem_cons_self rfl
      have hnext : ((entries ++ [entryOf word file]).map Prod.fst ++ files.map Prod.fst).Nodup := by
        rwa [List.map_append, List.append_assoc]
      rw [List.zipWith_cons_cons, List.flatten_cons, List.append_assoc,
        run_of_next (loadBody_file bigEndian hnames.1 hpage hnew _ offset),
        ih hnames.2 hnext _ (Nat.lt_of_succ_lt_succ hfuel), List.zipWith_cons_cons, List.append_assoc]
      rfl

/-- A name is found in the archive where it is found among the files. -/
theorem lookup_entries {words : List UInt32} {files : StringMap (List UInt8)}
    (hpages : List.Forall₂ (IsPage data) words files) (name : List UInt8) :
    (lookup Prod.fst (List.zipWith entryOf words files) name = none ∧ lookup Prod.fst files name = none) ∨
      ∃ word file, lookup Prod.fst (List.zipWith entryOf words files) name = some (entryOf word file) ∧
        lookup Prod.fst files name = some file ∧ IsPage data word file := by
  induction hpages with
  | nil => exact .inl ⟨rfl, rfl⟩
  | @cons word file words files hpage _ ih =>
      have hkey : (entryOf word file).1 = file.1 := rfl
      rw [List.zipWith_cons_cons, lookup_cons, lookup_cons, hkey]
      by_cases hname : file.1 = name
      · rw [if_pos hname, if_pos hname]
        exact .inr ⟨word, file, rfl, rfl, hpage⟩
      · rw [if_neg hname, if_neg hname]
        exact ih

theorem pages_generate (h : Fits files) (bigEndian : Bool) :
    List.Forall₂ (IsPage (generate files bigEndian))
      (wordOffsets 0x800 (dataStartOffset files.length) (files.map (·.2.length))) files := by
  have hstart := toNat_dataStartOffset h
  have hsizes : files.map (·.2.length) = (files.map Prod.snd).map List.length := (List.map_map).symm
  have hoffsets : ∀ offset ∈ offsets 0x800 (dataStartOffset files.length).toNat
      ((files.map Prod.snd).map List.length), offset < 2 ^ 32 := by
    rw [hstart, ← hsizes]
    exact h.offsets
  have hat : List.Forall₂ (fun word piece => HasAt (generate files bigEndian) word.toNat piece)
      (wordOffsets 0x800 (dataStartOffset files.length) ((files.map Prod.snd).map List.length))
      (files.map Prod.snd) := forall₂_wordOffsets (by decide) (length_header h) hoffsets
  rw [List.forall₂_map_right_iff, ← hsizes] at hat
  rw [← hsizes] at hoffsets
  have haligned : ∀ word ∈ wordOffsets 0x800 (dataStartOffset files.length) (files.map (·.2.length)),
      0x800 ∣ word.toNat := by
    intro word hword
    have hmem : word.toNat ∈ offsets 0x800 (dataStartOffset files.length).toNat (files.map (·.2.length)) := by
      rw [← map_wordOffsets hoffsets]
      exact List.mem_map_of_mem hword
    exact dvd_of_mem_offsets (hstart ▸ dvd_alignUp 0x800 _) _ hmem
  refine List.forall₂_iff_get.mpr ⟨hat.length_eq, fun i hi hi' => ?_⟩
  exact ⟨(List.forall₂_iff_get.mp hat).2 i hi hi', haligned _ (List.get_mem _ _), h.sizes _ (List.get_mem _ _)⟩

/-- What is loaded of the files. -/
def loaded (files : StringMap (List UInt8)) (bigEndian : Bool) : GSLArchive :=
  ⟨generate files bigEndian, List.zipWith entryOf
    (wordOffsets 0x800 (dataStartOffset files.length) (files.map (·.2.length))) files⟩

theorem ofData_generate (h : Fits files) (hkeys : (files.map Prod.fst).Nodup)
    (hnames : ∀ file ∈ files, Named file.1) (bigEndian : Bool) :
    GSLArchive.ofData (generate files bigEndian) bigEndian = .ok (loaded files bigEndian) := by
  obtain ⟨rest, hgenerate⟩ := generate_eq h bigEndian
  have hlength : files.length < (generate files bigEndian).length + 1 := by
    have hentries := length_headerEntries files bigEndian
    rw [hgenerate, List.length_append]
    omega
  have hnodup : (([] : StringMap Entry).map Prod.fst ++ files.map Prod.fst).Nodup := hkeys
  have hrun : run (loadBody bigEndian (generate files bigEndian)) ((generate files bigEndian).length + 1)
      (⟨headerEntries files bigEndian ++ (List.replicate 0x30 0 ++ rest), 0⟩, []) =
        some (.ok (loaded files bigEndian).entries) :=
    run_loadBody bigEndian (pages_generate h bigEndian) hnames hnodup rest 0 hlength
  rw [← hgenerate] at hrun
  rw [GSLArchive.ofData, StringReader.ofBytes, hrun]
  rfl

theorem get_loaded (h : Fits files) (bigEndian : Bool) (name : List UInt8) :
    (loaded files bigEndian).get name = (loaded files bigEndian).getCopy name ∧
      (loaded files bigEndian).getCopy name = match lookup Prod.fst files name with
        | some file => .ok file.2
        | none => .error (notContained name) := by
  rw [GSLArchive.get, GSLArchive.getCopy, loaded]
  rcases lookup_entries (pages_generate h bigEndian) name with ⟨hentry, hfile⟩ | ⟨word, file, hentry, hfile, hpage⟩
  · rw [hentry, hfile]
    exact ⟨rfl, rfl⟩
  · have hle := hpage.hasAt.le_length
    have hlength : (UInt32.ofNat file.2.length).toNat = file.2.length := by
      rw [UInt32.toNat_ofNat', Nat.mod_eq_of_lt hpage.size]
    rw [hentry, hfile]
    dsimp only [entryOf]
    rw [UInt32.toNat_toUInt64, hlength, if_neg (by omega), hpage.hasAt.take_drop]
    exact ⟨rfl, rfl⟩

/-! Which names are loaded. -/

theorem named_decode (filename : Parray 0x20) (h : filename.bytes.headD 0 ≠ 0) :
    Named (AsciiFields.decode filename.bytes) :=
  ⟨AsciiFields.encodable_decode (by decide) filename.length_eq.le, AsciiFields.decode_ne_nil h⟩

theorem mem_emplace {α : Type} {m : StringMap α} {k : List UInt8} {v : α} {entry : List UInt8 × α}
    (h : entry ∈ (m.emplace k v).getD m) : entry ∈ m ∨ entry = (k, v) := by
  rw [StringMap.emplace] at h
  split_ifs at h
  · exact .inl h
  · exact (List.mem_append.mp h).imp_right List.mem_singleton.mp

/-- One pass keeps what there is, and what it adds has a name that the archive holds. -/
theorem loadBody_keeps (bigEndian : Bool) (data : List UInt8) {s : StringReader × StringMap Entry}
    (h : ∀ entry ∈ s.2, Named entry.1) :
    (∀ s', loadBody bigEndian data s = .next s' → ∀ entry ∈ s'.2, Named entry.1) ∧
      ∀ entries, loadBody bigEndian data s = .done (.ok entries) → ∀ entry ∈ entries, Named entry.1 := by
  rw [loadBody]
  cases hget : GSLHeaderEntry.get bigEndian s.1 with
  | error e => exact ⟨fun s' hs' => (by cases hs'), fun entries hentries => (by cases hentries)⟩
  | ok read =>
      obtain ⟨header, r⟩ := read
      rw [ok_bind]
      dsimp only
      by_cases hblank : header.filename.bytes.headD 0 = 0
      · rw [if_pos hblank]
        refine ⟨fun s' hs' => (by cases hs'), fun entries hentries => ?_⟩
        obtain rfl := Except.ok.inj (Step.done.inj hentries)
        exact h
      · rw [if_neg hblank]
        by_cases hend : (header.offset.toUInt64 * 0x800).toNat + header.size.toNat > data.length
        · rw [if_pos hend]
          exact ⟨fun s' hs' => (by cases hs'), fun entries hentries => (by cases hentries)⟩
        · rw [if_neg hend]
          refine ⟨fun s' hs' entry hentry => ?_, fun entries hentries => by cases hentries⟩
          obtain rfl := Step.next.inj hs'
          rcases mem_emplace hentry with hmem | rfl
          · exact h entry hmem
          · exact named_decode header.filename hblank

theorem run_loadBody_keeps {fuel : Nat} {s : StringReader × StringMap Entry} {entries : StringMap Entry}
    (h : ∀ entry ∈ s.2, Named entry.1) (hrun : run (loadBody bigEndian data) fuel s = some (.ok entries)) :
    ∀ entry ∈ entries, Named entry.1 := by
  induction fuel generalizing s with
  | zero => cases hrun
  | succ fuel ih =>
      obtain ⟨hnext, hdone⟩ := loadBody_keeps bigEndian data h
      cases hbody : loadBody bigEndian data s with
      | next s' =>
          rw [run_of_next hbody] at hrun
          exact ih (hnext s' hbody) hrun
      | done r =>
          rw [run_of_done hbody, Option.some.injEq] at hrun
          exact hdone entries (hrun ▸ hbody)

/-- Every file that is found has a name that the archive holds. -/
theorem named_of_getCopy {gsl : GSLArchive} (hgsl : GSLArchive.ofData data bigEndian = .ok gsl)
    {name contents : List UInt8} (h : gsl.getCopy name = .ok contents) : Named name := by
  obtain ⟨entries, hrun, hmk⟩ := bind_eq_ok.mp hgsl
  obtain rfl := Except.ok.inj hmk
  have hentries : ∀ entry ∈ entries, Named entry.1 := by
    cases hfuel : run (loadBody bigEndian data) (data.length + 1) (.ofBytes data, []) with
    | none => rw [hfuel] at hrun; cases hrun
    | some r =>
        rw [hfuel] at hrun
        obtain rfl : r = .ok entries := hrun
        exact run_loadBody_keeps (fun entry hentry => absurd hentry List.not_mem_nil) hfuel
  rw [GSLArchive.getCopy] at h
  cases hlookup : lookup Prod.fst entries name with
  | none => rw [hlookup] at h; cases h
  | some entry =>
      obtain ⟨hmem, rfl⟩ := mem_of_lookup_eq_some hlookup
      exact hentries entry hmem

/-- In either byte order and whatever order the map lists them in, the files come back under
their names, as long as all names are ASCII of at most 32 letters and not empty. -/
theorem gsl_roundTrip_iff (bigEndian : Bool) (h : Fits files) (hkeys : (files.map Prod.fst).Nodup) :
    (∃ gsl, GSLArchive.ofData (generate files bigEndian) bigEndian = .ok gsl ∧
      ∀ name, gsl.getCopy name = match lookup Prod.fst files name with
        | some file => .ok file.2
        | none => .error (notContained name)) ↔ ∀ file ∈ files, Named file.1 := by
  constructor
  · rintro ⟨gsl, hgsl, hfiles⟩ file hfile
    have hcopy := hfiles file.1
    rw [lookup_key hkeys hfile] at hcopy
    exact named_of_getCopy hgsl hcopy
  · intro hnames
    exact ⟨_, ofData_generate h hkeys hnames bigEndian, fun name => (get_loaded h bigEndian name).2⟩

/-- A file of three bytes and an empty one. -/
def sampleFiles : StringMap (List UInt8) := [([0x61], [1, 2, 3]), ([0x62], [])]

theorem gsl_roundTrip_sampleFiles : ∃ gsl, GSLArchive.ofData (generate sampleFiles true) true = .ok gsl ∧
    gsl.getCopy [0x61] = .ok [1, 2, 3] := by
  have hfits : Fits sampleFiles := ⟨by decide, by decide, by decide⟩
  have hnames : ∀ file ∈ sampleFiles, Named file.1 := by
    unfold Named
    decide
  obtain ⟨gsl, hgsl, hfiles⟩ := (gsl_roundTrip_iff true hfits (by decide)).mpr hnames
  exact ⟨gsl, hgsl, hfiles [0x61]⟩

end HuntersGuild.GslArchives
