import HuntersGuild.CheckedLoops
import HuntersGuild.PagedLayouts
import HuntersGuild.StringReaders

/-!
`AFSArchive`: files without names, each of which begins on a page of its own.
-/

namespace HuntersGuild.AfsArchives

open HuntersGuild.ByteStreams
open HuntersGuild.CheckedLoops
open HuntersGuild.ExceptionRules
open HuntersGuild.PagedLayouts
open HuntersGuild.StringReaders
open HuntersGuild.WordBytes

structure Entry where
  offset : UInt64
  size : UInt32

structure AFSArchive where
  data : List UInt8
  entries : List Entry

def getEntry : Reader Entry := do
  let offset ← getU32l
  let size ← getU32l
  return ⟨offset.toUInt64, size⟩

/-- The loop that reads entries until there are `numFiles`. -/
def getEntries : Nat → Reader (List Entry)
  | 0 => pure []
  | numFiles + 1 => do
    let entry ← getEntry
    let entries ← getEntries numFiles
    return entry :: entries

namespace AFSArchive

/-- The constructor. The entries are little-endian always. -/
def ofData (data : List UInt8) : Except Exception AFSArchive := do
  let (magic, r) ← getU32b (.ofBytes data)
  let (numFiles, r) ← getU32l r
  if magic ≠ 0x41465300 then
    throw (.runtimeError "file is not an AFS archive")
  let (entries, _) ← getEntries numFiles.toNat r
  return ⟨data, entries⟩

def numEntries (self : AFSArchive) : Nat := self.entries.length

/-- The bytes at the pointer that is returned. -/
def get (index : Nat) (self : AFSArchive) : Except Exception (List UInt8) :=
  match self.entries[index]? with
  | none => .error (.outOfRange "vector::at")
  | some entry =>
    if entry.offset.toNat > self.data.length then
      .error (.outOfRange "entry begins beyond end of archive")
    else if entry.offset.toNat + entry.size.toNat > self.data.length then
      .error (.outOfRange "entry extends beyond end of archive")
    else .ok ((self.data.drop entry.offset.toNat).take entry.size.toNat)

def getCopy (index : Nat) (self : AFSArchive) : Except Exception (List UInt8) := self.get index

def getReader (index : Nat) (self : AFSArchive) : Except Exception StringReader := do
  return .ofBytes (← self.get index)

end AFSArchive

def putEntry (bigEndian : Bool) (dataOffset : UInt32) (file : List UInt8) : List UInt8 :=
  putU32 bigEndian dataOffset ++ putU32 bigEndian (.ofNat file.length)

/-- The header, which is filled up to 0x80000 bytes unless it is longer. -/
def header (files : List (List UInt8)) (bigEndian : Bool) : List UInt8 :=
  extendTo 0 0x80000 (putU32b 0x41465300 ++ (putU32 bigEndian (.ofNat files.length) ++
    (List.zipWith (putEntry bigEndian) (wordOffsets 0x800 0x80000 (files.map List.length)) files).flatten))

def generate (files : List (List UInt8)) (bigEndian : Bool) : List UInt8 :=
  files.foldl (put 0 0x800) (header files bigEndian)

/-- An archive has room for these files. -/
structure Fits (files : List (List UInt8)) : Prop where
  count : files.length ≤ 0xFFFF
  offsets : ∀ offset ∈ offsets 0x800 0x80000 (files.map List.length), offset < 2 ^ 32
  sizes : ∀ file ∈ files, file.length < 2 ^ 32

variable {files : List (List UInt8)} {bigEndian : Bool}

theorem length_flatten_entries (bigEndian : Bool) (words : List UInt32) (files : List (List UInt8)) :
    (List.zipWith (putEntry bigEndian) words files).flatten.length ≤ 8 * files.length := by
  induction files generalizing words with
  | nil => rw [List.zipWith_nil_right]; exact Nat.le_refl 0
  | cons file files ih =>
      cases words with
      | nil => exact Nat.zero_le _
      | cons word words =>
          have hentry : (putEntry bigEndian word file).length = 8 := by
            rw [putEntry, List.length_append, length_putU32, length_putU32]
          have hrest := ih words
          rw [List.zipWith_cons_cons, List.flatten_cons, List.length_append, hentry, List.length_cons]
          omega

theorem length_header (h : Fits files) : (header files bigEndian).length = 0x80000 := by
  have hentries := length_flatten_entries bigEndian (wordOffsets 0x800 0x80000 (files.map List.length)) files
  have hcount := h.count
  refine length_extendTo ?_
  rw [List.length_append, List.length_append, length_putU32, putU32b, length_bigEndian]
  omega

/-- The files are where the table says. -/
theorem forall₂_generate (h : Fits files) (bigEndian : Bool) :
    List.Forall₂ (fun word file => HasAt (generate files bigEndian) word.toNat file)
      (wordOffsets 0x800 0x80000 (files.map List.length)) files :=
  forall₂_wordOffsets (by decide) (length_header h) h.offsets

/-! Reading. -/

/-- The entry of a file. -/
def entryOf (word : UInt32) (file : List UInt8) : Entry := ⟨word.toUInt64, .ofNat file.length⟩

theorem reads_entries (words : List UInt32) (files : List (List UInt8)) (h : words.length = files.length) :
    Reads (getEntries files.length) (List.zipWith (putEntry false) words files).flatten
      (List.zipWith entryOf words files) := by
  induction files generalizing words with
  | nil =>
      rw [List.zipWith_nil_right, List.zipWith_nil_right]
      exact reads_pure []
  | cons file files ih =>
      obtain ⟨word, words, rfl⟩ := List.exists_cons_of_length_eq_add_one h
      have hrest := ih words (Nat.succ.inj h)
      have hentry : Reads getEntry (putEntry false word file) (entryOf word file) :=
        (reads_getU32 false word).bind (reads_getU32 false (.ofNat file.length)).map
      exact hentry.bind hrest.map

theorem length_getEntries {numFiles : Nat} {r r' : StringReader} {entries : List Entry}
    (h : getEntries numFiles r = .ok (entries, r')) : entries.length = numFiles := by
  induction numFiles generalizing r r' entries with
  | zero =>
      obtain ⟨rfl, -⟩ := Prod.mk.inj (Except.ok.inj h)
      rfl
  | succ numFiles ih =>
      obtain ⟨⟨entry, r₁⟩, -, h⟩ :=
        bind_eq_ok.mp (show (getEntry r >>= fun x => (getEntries numFiles >>= fun entries =>
          (return x.1 :: entries : Reader (List Entry))) x.2) = .ok (entries, r') from h)
      obtain ⟨⟨rest, r₂⟩, hrest, h⟩ :=
        bind_eq_ok.mp (show (getEntries numFiles r₁ >>= fun x =>
          (return entry :: x.1 : Reader (List Entry)) x.2) = .ok (entries, r') from h)
      obtain ⟨rfl, -⟩ := Prod.mk.inj (Except.ok.inj h)
      rw [List.length_cons, ih hrest]

theorem generate_eq (files : List (List UInt8)) (bigEndian : Bool) :
    ∃ rest, generate files bigEndian = putU32b 0x41465300 ++ (putU32 bigEndian (.ofNat files.length) ++
      ((List.zipWith (putEntry bigEndian) (wordOffsets 0x800 0x80000 (files.map List.length)) files).flatten ++
        rest)) := by
  have hprefix : header files bigEndian <+: generate files bigEndian := prefix_foldl_put files
  obtain ⟨pages, hpages⟩ := hprefix
  rw [← hpages, header, extendTo]
  exact ⟨_, by rw [List.append_assoc, List.append_assoc, List.append_assoc]⟩

/-- The entries of the files. -/
def entriesOf (files : List (List UInt8)) : List Entry :=
  List.zipWith entryOf (wordOffsets 0x800 0x80000 (files.map List.length)) files

theorem ofData_generate (h : Fits files) :
    AFSArchive.ofData (generate files false) = .ok ⟨generate files false, entriesOf files⟩ := by
  have hcount : (UInt32.ofNat files.length).toNat = files.length := by
    have := h.count
    rw [UInt32.toNat_ofNat', Nat.mod_eq_of_lt (by omega)]
  have hwords : (wordOffsets 0x800 0x80000 (files.map List.length)).length = files.length := by
    rw [length_wordOffsets, List.length_map]
  obtain ⟨rest, hgenerate⟩ := generate_eq files false
  rw [AFSArchive.ofData]
  nth_rewrite 1 [hgenerate]
  rw [StringReader.ofBytes, reads_getU32b, ok_bind]
  dsimp only
  rw [show putU32 false (.ofNat files.length) = putU32l (.ofNat files.length) from rfl, reads_getU32l, ok_bind,
    hcount]
  dsimp only
  rw [reads_entries _ _ hwords]
  rfl

/-- What the getters give for an entry that was read. -/
theorem get_of_entry {self : AFSArchive} {index : Nat} {word : UInt32} {file : List UInt8}
    (hentry : self.entries[index]? = some (entryOf word file)) (hat : HasAt self.data word.toNat file)
    (hsize : file.length < 2 ^ 32) : self.get index = .ok file := by
  have hle := hat.le_length
  have hlength : (UInt32.ofNat file.length).toNat = file.length := by
    rw [UInt32.toNat_ofNat', Nat.mod_eq_of_lt hsize]
  rw [AFSArchive.get, hentry]
  dsimp only [entryOf]
  rw [UInt32.toNat_toUInt64, hlength, if_neg (by omega), if_neg (by omega), hat.take_drop]

theorem get_generate (h : Fits files) (index : Nat) :
    (AFSArchive.mk (generate files false) (entriesOf files)).get index =
      match files[index]? with
      | some file => .ok file
      | none => .error (.outOfRange "vector::at") := by
  rcases getElem?_of_forall₂ (forall₂_generate h false) index with ⟨hword, hfile⟩ | ⟨word, file, hword, hfile, hat⟩
  · have hentry : (entriesOf files)[index]? = none := by
      rw [entriesOf, List.getElem?_zipWith, hword]
    rw [AFSArchive.get, hentry, hfile]
  · have hentry : (entriesOf files)[index]? = some (entryOf word file) := by
      rw [entriesOf, List.getElem?_zipWith, hword, hfile]
    rw [get_of_entry hentry hat (h.sizes file (List.mem_of_getElem? hfile)), hfile]

/-- The bytes of a small number in the wrong order are those of a large one. -/
theorem fromLittleEndian_putU32b {n : Nat} (hn : n ≤ 0xFFFF)
    (h : (UInt32.ofNat (fromLittleEndian (putU32b (.ofNat n)))).toNat = n) : n = 0 := by
  have hsmall : (UInt32.ofNat n).toNat = n := by
    rw [UInt32.toNat_ofNat', Nat.mod_eq_of_lt (by omega)]
  rw [putU32b, hsmall, UInt32.toNat_ofNat'] at h
  simp only [bigEndian, littleEndian, List.reverse_cons, List.reverse_nil, List.nil_append, List.cons_append,
    fromLittleEndian, UInt8.toNat_ofNat'] at h
  have hhigh : n / 256 / 256 = 0 := by omega
  rw [hhigh] at h
  omega

theorem ofData_bigEndian (hcount : files.length ≤ 0xFFFF) {afs : AFSArchive}
    (h : AFSArchive.ofData (generate files true) = .ok afs) (hlength : afs.numEntries = files.length) :
    files = [] := by
  obtain ⟨rest, hgenerate⟩ := generate_eq files true
  have hword : Reads getU32l (putU32b (.ofNat files.length))
      (.ofNat (fromLittleEndian (putU32b (.ofNat files.length)))) :=
    (reads_getParray ⟨putU32b (.ofNat files.length), length_bigEndian 4 _⟩).map
  rw [AFSArchive.ofData] at h
  nth_rewrite 1 [hgenerate] at h
  rw [StringReader.ofBytes, reads_getU32b, ok_bind] at h
  dsimp only at h
  rw [show putU32 true (.ofNat files.length) = putU32b (.ofNat files.length) from rfl, hword, ok_bind] at h
  obtain ⟨⟨entries, r⟩, hentries, h⟩ := bind_eq_ok.mp h
  obtain rfl := Except.ok.inj h
  have hread := length_getEntries hentries
  rw [AFSArchive.numEntries] at hlength
  exact List.length_eq_zero_iff.mp (fromLittleEndian_putU32b hcount (hread.symm.trans hlength))

/-- Files come back from their archive, unless it was made for a big-endian console: its
entries are read in the other order, where only an empty archive stays what it is. -/
theorem afs_roundTrip_iff (h : Fits files) (bigEndian : Bool) :
    (∃ afs, AFSArchive.ofData (generate files bigEndian) = .ok afs ∧ afs.numEntries = files.length ∧
      ∀ index, afs.getCopy index = match files[index]? with
        | some file => .ok file
        | none => .error (.outOfRange "vector::at")) ↔ bigEndian = false ∨ files = [] := by
  constructor
  · rintro ⟨afs, hafs, hlength, -⟩
    cases bigEndian with
    | false => exact .inl rfl
    | true => exact .inr (ofData_bigEndian h.count hafs hlength)
  · intro hor
    have hgenerate : generate files bigEndian = generate files false := by
      rcases hor with rfl | rfl
      · rfl
      · cases bigEndian <;> rfl
    rw [hgenerate]
    refine ⟨_, ofData_generate h, ?_, get_generate h⟩
    rw [AFSArchive.numEntries, entriesOf, List.length_zipWith, length_wordOffsets, List.length_map, Nat.min_self]

/-- An empty file between two others. -/
theorem afs_roundTrip_sampleFiles : ∃ afs,
    AFSArchive.ofData (generate [[1, 2, 3], [], [4]] false) = .ok afs ∧ afs.getCopy 2 = .ok [4] := by
  have hfits : Fits [[1, 2, 3], [], [4]] := ⟨by decide, by decide, by decide⟩
  obtain ⟨afs, hafs, -, hfiles⟩ := (afs_roundTrip_iff hfits false).mpr (.inl rfl)
  exact ⟨afs, hafs, hfiles 2⟩

end HuntersGuild.AfsArchives
