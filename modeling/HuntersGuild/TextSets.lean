import HuntersGuild.CheckedLoops
import HuntersGuild.PagedLayouts
import HuntersGuild.PrsCompression
import HuntersGuild.RareTableRoundTrips

/-!
`UnicodeTextSet`, and the texts of the credits. Equal texts are stored once. The conversions
between the encodings are those of `iconv`.
-/

namespace HuntersGuild.TextSets

open HuntersGuild.ByteStreams
open HuntersGuild.CheckedLoops
open HuntersGuild.ExceptionRules
open HuntersGuild.FuelLoop
open HuntersGuild.PagedLayouts
open HuntersGuild.PrsCompression
open HuntersGuild.PrsDecompression
open HuntersGuild.RareTableFiles
open HuntersGuild.RareTableRoundTrips
open HuntersGuild.StringReaders

abbrev Text := List UInt8

abbrev Transcoder := Text → Except Exception Text

/-- The units before the first zero. -/
def getUnits : List UInt8 → Except Exception (List UInt8)
  | low :: high :: rest =>
    if low = 0 ∧ high = 0 then return [] else do return low :: high :: (← getUnits rest)
  | _ => throw (.outOfRange "end of string")

/-- `pget_cstr`. -/
def getCstr : List UInt8 → Except Exception Text
  | ch :: rest => if ch = 0 then return [] else do return ch :: (← getCstr rest)
  | [] => throw (.outOfRange "end of string")

/-- A loop that reads a number of values. -/
def times {α : Type} (p : Reader α) : Nat → Reader (List α)
  | 0 => return []
  | n + 1 => do
    let x ← p
    let xs ← times p n
    return x :: xs

namespace UnicodeTextSet

/-! `collections` are the lists of texts. -/

def getText (toUtf8 : Transcoder) (data : List UInt8) : Reader Text := do
  let offset ← getU32l
  let units ← liftM (getUnits (data.drop offset.toNat))
  liftM (toUtf8 units)

def getCollections (toUtf8 : Transcoder) (data : List UInt8) : List UInt32 → Reader (List (List Text))
  | [] => return []
  | numStrings :: collectionSizes => do
    let strings ← times (getText toUtf8 data) numStrings.toNat
    let collections ← getCollections toUtf8 data collectionSizes
    return strings :: collections

/-- The constructor, behind the decompressor. -/
def parse (toUtf8 : Transcoder) (data : List UInt8) : Except Exception (List (List Text)) := do
  let (numCollections, r) ← getU32l (.ofBytes data)
  let (collectionSizes, r) ← times getU32l numCollections.toNat r
  let (collections, _) ← getCollections toUtf8 data collectionSizes r
  return collections

def ofData (toUtf8 : Transcoder) (prsData : List UInt8) : Except Exception (List (List Text)) := do
  let data ← prsDecompress prsData 0 false
  parse toUtf8 data

/-- A text as it is stored. -/
def unitsOf (toUtf16 : Transcoder) (s : Text) : Except Exception (List UInt8) := do
  let units ← toUtf16 s
  return units ++ [0, 0]

def sizes (collections : List (List Text)) : List UInt8 :=
  putU32l (.ofNat collections.length) ++ collections.flatMap fun collection => putU32l (.ofNat collection.length)

/-- What is compressed. -/
def layout (toUtf16 : Transcoder) (collections : List (List Text)) : Except Exception (List UInt8) := do
  let dataBaseOffset := collections.flatten.length * 4 + (sizes collections).length
  let (pool, offsets) ← collections.flatten.foldlM (Pool.refer (unitsOf toUtf16) 0 4) (.empty, [])
  return sizes collections ++ ((offsets.flatMap fun offset => putU32l (.ofNat (dataBaseOffset + offset))) ++ pool.bytes)

def serialize (toUtf16 : Transcoder) (collections : List (List Text)) : Except Exception (List UInt8) := do
  let data ← layout toUtf16 collections
  prsCompressOptimal data

end UnicodeTextSet

/-! Readers that may throw. -/

section

variable {α β : Type} {p : Reader α} {f : α → Reader β} {bytes bytes' : List UInt8} {x : Except Exception α}

/-- Wherever these bytes come next, the parser takes exactly them and gives this result. -/
def Gives (p : Reader α) (bytes : List UInt8) (x : Except Exception α) : Prop :=
  ∀ remaining offset, p ⟨bytes ++ remaining, offset⟩ = do
    let a ← x
    return (a, ⟨remaining, offset + bytes.length⟩)

theorem gives_of_reads {a : α} (h : Reads p bytes a) : Gives p bytes (.ok a) := h

theorem gives_lift (x : Except Exception α) : Gives (liftM x : Reader α) [] x := by
  intro remaining offset
  cases x with
  | error e => rfl
  | ok a => rfl

theorem Gives.bind {y : α → Except Exception β} (hp : Gives p bytes x) 
    (hf : ∀ a, x = .ok a → Gives (f a) bytes' (y a)) :
    Gives (p >>= f) (bytes ++ bytes') (x >>= y) := by
  intro remaining offset
  have hfirst := hp (bytes' ++ remaining) offset
  rw [List.append_assoc]
  change (p ⟨bytes ++ (bytes' ++ remaining), offset⟩ >>= fun z => f z.1 z.2) = _
  rw [hfirst]
  cases hx : x with
  | error e => rfl
  | ok a =>
      rw [List.length_append, ← Nat.add_assoc]
      exact hf a hx remaining (offset + bytes.length)

theorem Gives.map {g : α → β} (hp : Gives p bytes x) :
    Gives (p >>= fun a => pure (g a)) bytes (x >>= fun a => pure (g a)) := by
  rw [← List.append_nil bytes]
  exact hp.bind fun a _ => gives_of_reads (reads_pure (g a))

theorem gives_times {γ : Type} {bytesOf : γ → List UInt8} {result : γ → Except Exception α} {xs : List γ}
    (h : ∀ x ∈ xs, Gives p (bytesOf x) (result x)) :
    Gives (times p xs.length) (xs.flatMap bytesOf) (xs.mapM result) := by
  induction xs with
  | nil => exact gives_of_reads (reads_pure [])
  | cons x xs ih =>
      rw [List.forall_mem_cons] at h
      rw [List.flatMap_cons, List.mapM_cons]
      exact h.1.bind fun a _ => (ih h.2).map

end

/-! Zeros behind a text. -/

/-- The units before the first zero, if there is one. -/
def beforeZeroUnit : List UInt8 → List UInt8
  | low :: high :: rest => if low = 0 ∧ high = 0 then [] else low :: high :: beforeZeroUnit rest
  | _ => []

theorem getUnits_append {units : List UInt8} (heven : 2 ∣ units.length) (rest : List UInt8) :
    getUnits (units ++ (0 :: 0 :: rest)) = .ok (beforeZeroUnit units) := by
  induction units using beforeZeroUnit.induct with
  | case1 low high units hzero =>
      rw [List.cons_append, List.cons_append, getUnits, if_pos hzero, beforeZeroUnit, if_pos hzero]
      rfl
  | case2 low high units hne ih =>
      have heven' : 2 ∣ units.length := by
        rw [List.length_cons, List.length_cons] at heven
        omega
      rw [List.cons_append, List.cons_append, getUnits, if_neg hne, beforeZeroUnit, if_neg hne, ih heven']
      rfl
  | case3 units hshort =>
      cases units with
      | nil => rfl
      | cons low units =>
          cases units with
          | nil =>
              rw [List.length_singleton] at heven
              omega
          | cons high units => exact absurd rfl (hshort low high units)

/-! Texts that end with a zero. -/

/-- A text as it is stored. -/
def cstrOf (tt : Transcoder) (s : Text) : Except Exception (List UInt8) := do
  let text ← tt s
  return text ++ [0]

/-- What comes back of such a text. -/
def cstrBack (tt tt' : Transcoder) (s : Text) : Except Exception Text := do
  let text ← tt s
  tt' (text.takeWhile (· ≠ 0))

theorem getCstr_append (s : Text) (rest : List UInt8) : getCstr (s ++ (0 :: rest)) = .ok (s.takeWhile (· ≠ 0)) := by
  induction s with
  | nil => rfl
  | cons ch s ih =>
      rw [List.cons_append, getCstr, ih, List.takeWhile_cons]
      by_cases hzero : ch = 0
      · rw [if_pos hzero, if_neg (by simpa using hzero)]
        rfl
      · rw [if_neg hzero, if_pos (by simpa using hzero)]
        rfl

theorem exists_cstrOf {tt : Transcoder} {texts : List Text} (h : ∀ s ∈ texts, ∃ text, tt s = .ok text) :
    ∀ s ∈ texts, ∃ piece, cstrOf tt s = .ok piece := by
  intro s hs
  obtain ⟨text, htext⟩ := h s hs
  exact ⟨text ++ [0], by rw [cstrOf, htext]; rfl⟩

/-- What is found where a text was put. -/
theorem exists_getCstr {tt : Transcoder} {pool : Pool Text UInt8} (hsound : pool.Sound (cstrOf tt) 4)
    (hfits : pool.bytes.length < 2 ^ 32) (rest : List UInt8) {s : Text} (hs : (pool.offset? s).isSome) :
    ∃ text, tt s = .ok text ∧ getCstr ((pool.bytes ++ rest).drop (UInt32.ofNat ((pool.offset? s).getD 0)).toNat) =
      .ok (text.takeWhile (· ≠ 0)) := by
  obtain ⟨offset, hoffset⟩ := Option.isSome_iff_exists.mp hs
  obtain ⟨piece, hpiece, hat⟩ := hsound.hasAt s offset hoffset
  obtain ⟨text, htext, hpiece⟩ := bind_eq_ok.mp hpiece
  obtain rfl := Except.ok.inj hpiece
  have hle := hat.le_length
  have htoNat : (UInt32.ofNat offset).toNat = offset := by
    rw [UInt32.toNat_ofNat', Nat.mod_eq_of_lt (by omega)]
  obtain ⟨before, behind, rfl, hbytes⟩ := hat
  refine ⟨text, htext, ?_⟩
  rw [hoffset, Option.getD_some, htoNat, hbytes, List.append_assoc, List.append_assoc, List.append_assoc,
    List.drop_left]
  exact getCstr_append text _

/-! Sets of texts. -/

namespace UnicodeTextSet

variable {toUtf16 toUtf8 : Transcoder} {collections : List (List Text)} {data : List UInt8}

/-- What comes back of a text. -/
def back (toUtf16 toUtf8 : Transcoder) (s : Text) : Except Exception Text := do
  let units ← toUtf16 s
  toUtf8 (beforeZeroUnit units)

theorem length_sizes (collections : List (List Text)) : (sizes collections).length = 4 + 4 * collections.length := by
  have hwords : (collections.flatMap fun collection => putU32l (.ofNat collection.length)).length =
      4 * collections.length := by
    induction collections with
    | nil => rfl
    | cons collection collections ih =>
        rw [List.flatMap_cons, List.length_append, ih, putU32l, WordBytes.length_littleEndian, List.length_cons]
        omega
  rw [sizes, List.length_append, hwords, putU32l, WordBytes.length_littleEndian]

/-- The offset of a text, as it is written. -/
def word (collections : List (List Text)) (pool : Pool Text UInt8) (s : Text) : List UInt8 :=
  putU32l (.ofNat (collections.flatten.length * 4 + (sizes collections).length + (pool.offset? s).getD 0))

theorem length_flatMap_word (collections : List (List Text)) (pool : Pool Text UInt8) (strings : List Text) :
    (strings.flatMap (word collections pool)).length = 4 * strings.length := by
  induction strings with
  | nil => rfl
  | cons s strings ih =>
      rw [List.flatMap_cons, List.length_append, ih, word, putU32l, WordBytes.length_littleEndian, List.length_cons]
      omega

/-- The file that is made of the pool. -/
def fileOf (collections : List (List Text)) (pool : Pool Text UInt8) : List UInt8 :=
  sizes collections ++ (collections.flatten.flatMap (word collections pool) ++ pool.bytes)

theorem length_fileOf (collections : List (List Text)) (pool : Pool Text UInt8) :
    (fileOf collections pool).length =
      collections.flatten.length * 4 + (sizes collections).length + pool.bytes.length := by
  rw [fileOf, List.length_append, List.length_append, length_flatMap_word]
  omega

/-- A file is made as soon as all texts can be converted. -/
theorem exists_layout (h : ∀ s ∈ collections.flatten, ∃ units, toUtf16 s = .ok units) :
    ∃ pool, layout toUtf16 collections = .ok (fileOf collections pool) ∧ pool.Sound (unitsOf toUtf16) 4 ∧
      ∀ s ∈ collections.flatten, (pool.offset? s).isSome := by
  have hpieces : ∀ s ∈ collections.flatten, ∃ piece, unitsOf toUtf16 s = .ok piece := by
    intro s hs
    obtain ⟨units, hunits⟩ := h s hs
    exact ⟨units ++ [0, 0], by rw [unitsOf, hunits]; rfl⟩
  obtain ⟨pool, hrun, hsound, -, hall⟩ :=
    (Pool.sound_empty (unitsOf toUtf16) 4).referAll (by decide) hpieces 0 []
  refine ⟨pool, ?_, hsound, hall⟩
  rw [layout, hrun, ok_bind]
  dsimp only
  rw [List.nil_append, List.flatMap_map]
  rfl

theorem encode_of_layout (h : layout toUtf16 collections = .ok data) :
    ∀ s ∈ collections.flatten, ∃ units, toUtf16 s = .ok units := by
  obtain ⟨⟨pool, offsets⟩, hrun, -⟩ := bind_eq_ok.mp h
  intro s hs
  obtain ⟨piece, hpiece⟩ := Pool.encode_of_internAll (Pool.internAll_of_referAll hrun)
    (fun k offset hk => by cases hk) s hs
  obtain ⟨units, hunits, -⟩ := bind_eq_ok.mp hpiece
  exact ⟨units, hunits⟩

/-- A text is read from where its word leads. -/
theorem gives_getText (heven : ∀ s units, toUtf16 s = .ok units → 2 ∣ units.length) {pool : Pool Text UInt8}
    (hsound : pool.Sound (unitsOf toUtf16) 4) (hfits : (fileOf collections pool).length < 2 ^ 32) {s : Text}
    (hs : (pool.offset? s).isSome) :
    Gives (getText toUtf8 (fileOf collections pool)) (word collections pool s) (back toUtf16 toUtf8 s) := by
  obtain ⟨offset, hoffset⟩ := Option.isSome_iff_exists.mp hs
  obtain ⟨piece, hpiece, hat⟩ := hsound.hasAt s offset hoffset
  obtain ⟨units, hunits, hpiece⟩ := bind_eq_ok.mp hpiece
  obtain rfl := Except.ok.inj hpiece
  have hshifted := hat.shift (sizes collections ++ collections.flatten.flatMap (word collections pool))
  rw [List.append_assoc, List.length_append, length_flatMap_word] at hshifted
  have hword : collections.flatten.length * 4 + (sizes collections).length + offset < 2 ^ 32 := by
    have hle := hat.le_length
    rw [length_fileOf] at hfits
    omega
  have htoNat : (UInt32.ofNat (collections.flatten.length * 4 + (sizes collections).length + offset)).toNat =
      (sizes collections).length + 4 * collections.flatten.length + offset := by
    rw [UInt32.toNat_ofNat', Nat.mod_eq_of_lt hword]
    omega
  have hread : getUnits ((fileOf collections pool).drop
      ((sizes collections).length + 4 * collections.flatten.length + offset)) = .ok (beforeZeroUnit units) := by
    obtain ⟨before, rest, hbefore, hfile⟩ := hshifted
    rw [fileOf, hfile, ← hbefore, List.drop_left, List.append_assoc]
    exact getUnits_append (heven s units hunits) rest
  have hback : back toUtf16 toUtf8 s = toUtf8 (beforeZeroUnit units) := by
    rw [back, hunits, ok_bind]
  rw [word, hoffset, Option.getD_some, hback]
  intro remaining position
  rw [getText, bind_of_reads (reads_getU32l _), htoNat, lift_bind_of_ok hread]
  exact gives_lift (toUtf8 (beforeZeroUnit units)) remaining _

theorem gives_getCollections (heven : ∀ s units, toUtf16 s = .ok units → 2 ∣ units.length) {pool : Pool Text UInt8}
    (hsound : pool.Sound (unitsOf toUtf16) 4) (hfits : (fileOf collections pool).length < 2 ^ 32)
    {todo : List (List Text)} (htodo : ∀ c ∈ todo, c.length < 2 ^ 32 ∧ ∀ s ∈ c, (pool.offset? s).isSome) :
    Gives (getCollections toUtf8 (fileOf collections pool) (todo.map fun c => .ofNat c.length))
      (todo.flatMap fun c => c.flatMap (word collections pool)) (todo.mapM fun c => c.mapM (back toUtf16 toUtf8)) := by
  induction todo with
  | nil => exact gives_of_reads (reads_pure [])
  | cons c todo ih =>
      rw [List.forall_mem_cons] at htodo
      have hcount : (UInt32.ofNat c.length).toNat = c.length := by
        rw [UInt32.toNat_ofNat', Nat.mod_eq_of_lt htodo.1.1]
      have hstrings : Gives (times (getText toUtf8 (fileOf collections pool)) c.length)
          (c.flatMap (word collections pool)) (c.mapM (back toUtf16 toUtf8)) :=
        gives_times fun s hs => gives_getText heven hsound hfits (htodo.1.2 s hs)
      rw [List.map_cons, List.flatMap_cons, List.mapM_cons, getCollections, hcount]
      exact hstrings.bind fun strings _ => (ih htodo.2).map

theorem parse_fileOf (heven : ∀ s units, toUtf16 s = .ok units → 2 ∣ units.length) {pool : Pool Text UInt8}
    (hsound : pool.Sound (unitsOf toUtf16) 4) (hfits : (fileOf collections pool).length < 2 ^ 32)
    (hall : ∀ s ∈ collections.flatten, (pool.offset? s).isSome) :
    parse toUtf8 (fileOf collections pool) = collections.mapM fun c => c.mapM (back toUtf16 toUtf8) := by
  have hlength := length_fileOf collections pool
  have hsizes := length_sizes collections
  have hcount : (UInt32.ofNat collections.length).toNat = collections.length := by
    rw [UInt32.toNat_ofNat', Nat.mod_eq_of_lt (by omega)]
  have hcollections : ∀ c ∈ collections, c.length < 2 ^ 32 ∧ ∀ s ∈ c, (pool.offset? s).isSome := by
    refine fun c hc => ⟨?_, fun s hs => hall s (List.mem_flatten_of_mem hc hs)⟩
    have hle : c.length ≤ collections.flatten.length := (List.sublist_flatten_of_mem hc).length_le
    omega
  have hcounts : Gives (times getU32l collections.length)
      (collections.flatMap fun c => putU32l (.ofNat c.length)) (.ok (collections.map fun c => .ofNat c.length)) := by
    have htimes : Gives (times getU32l collections.length) (collections.flatMap fun c => putU32l (.ofNat c.length))
        (collections.mapM fun c => pure (.ofNat c.length)) := gives_times fun c _ => gives_of_reads (reads_getU32l _)
    rwa [List.mapM_pure] at htimes
  have hstrings : Gives (getCollections toUtf8 (fileOf collections pool) (collections.map fun c => .ofNat c.length))
      (collections.flatten.flatMap (word collections pool))
      (collections.mapM fun c => c.mapM (back toUtf16 toUtf8)) := by
    rw [← List.flatMap_id, List.flatMap_assoc]
    exact gives_getCollections heven hsound hfits hcollections
  have hfile : fileOf collections pool = putU32l (.ofNat collections.length) ++
      ((collections.flatMap fun c => putU32l (.ofNat c.length)) ++
        (collections.flatten.flatMap (word collections pool) ++ pool.bytes)) := by
    rw [fileOf, sizes, List.append_assoc]
  rw [parse]
  nth_rewrite 1 [hfile]
  rw [StringReader.ofBytes, reads_getU32l, ok_bind]
  dsimp only
  rw [hcount, hcounts, ok_bind, pure_eq_ok, ok_bind]
  dsimp only
  rw [hstrings]
  cases collections.mapM fun c => c.mapM (back toUtf16 toUtf8) with
  | error e => rfl
  | ok result => rfl

theorem mapM_back_eq_self (collections : List (List Text)) {back : Text → Except Exception Text} :
    (collections.mapM fun c => c.mapM back) = .ok collections ↔ ∀ c ∈ collections, ∀ s ∈ c, back s = .ok s := by
  have hself : ∀ {α : Type} {f : α → Except Exception α} (xs : List α),
      xs.mapM f = .ok xs ↔ ∀ x ∈ xs, f x = .ok x := by
    intro α f xs
    rw [mapM_eq_ok_iff, List.forall₂_same]
  rw [hself]
  exact forall₂_congr fun c _ => hself c

/-- A set comes back if every text does: what stands before the first zero of its conversion is
converted back to it. Texts may be shared, and the file may be of any size below 4 GiB. -/
theorem unicodeTexts_roundTrip_iff (toUtf16 toUtf8 : Transcoder)
    (heven : ∀ s units, toUtf16 s = .ok units → 2 ∣ units.length) (collections : List (List Text))
    (hfits : ∀ data, layout toUtf16 collections = .ok data → data.length < 2 ^ 32) :
    (∃ prsData, serialize toUtf16 collections = .ok prsData ∧ ofData toUtf8 prsData = .ok collections) ↔
      ∀ c ∈ collections, ∀ s ∈ c, ∃ units, toUtf16 s = .ok units ∧ toUtf8 (beforeZeroUnit units) = .ok s := by
  have hback : (∀ c ∈ collections, ∀ s ∈ c, ∃ units, toUtf16 s = .ok units ∧ toUtf8 (beforeZeroUnit units) = .ok s) ↔
      ∀ c ∈ collections, ∀ s ∈ c, back toUtf16 toUtf8 s = .ok s :=
    forall₂_congr fun c _ => forall₂_congr fun s _ => bind_eq_ok.symm
  have hfile : (∀ s ∈ collections.flatten, ∃ units, toUtf16 s = .ok units) → ∃ data prsData,
      serialize toUtf16 collections = .ok prsData ∧ prsDecompress prsData 0 false = .ok data ∧
        parse toUtf8 data = collections.mapM fun c => c.mapM (back toUtf16 toUtf8) := by
    intro h
    obtain ⟨pool, hlayout, hsound, hall⟩ := exists_layout h
    obtain ⟨prsData, -, -, hcompress, -, -, hdecompress⟩ := prsCompressOptimal_spec (fileOf collections pool)
    exact ⟨_, prsData, bind_of_ok hlayout hcompress, hdecompress,
      parse_fileOf heven hsound (hfits _ hlayout) hall⟩
  rw [hback, ← mapM_back_eq_self]
  constructor
  · rintro ⟨prsData, hserialize, hparse⟩
    obtain ⟨data, hlayout, -⟩ := bind_eq_ok.mp hserialize
    obtain ⟨data', prsData', hserialize', hdecompress, hparse'⟩ := hfile (encode_of_layout hlayout)
    obtain rfl := Except.ok.inj (hserialize.symm.trans hserialize')
    rw [ofData, hdecompress, ok_bind, hparse'] at hparse
    exact hparse
  · intro h
    have hconvert : ∀ s ∈ collections.flatten, ∃ units, toUtf16 s = .ok units := by
      intro s hs
      obtain ⟨c, hc, hs⟩ := List.mem_flatten.mp hs
      obtain ⟨units, hunits, -⟩ := bind_eq_ok.mp ((mapM_back_eq_self collections).mp h c hc s hs)
      exact ⟨units, hunits⟩
    obtain ⟨data, prsData, hserialize, hdecompress, hparse⟩ := hfile hconvert
    refine ⟨prsData, hserialize, ?_⟩
    rw [ofData, hdecompress, ok_bind, hparse, h]

/-- The conversions of ASCII texts. -/
def sampleToUtf16 (s : Text) : Except Exception Text :=
  if s.all (· < 0x80) then .ok (s.flatMap fun ch => [ch, 0]) else .error (.runtimeError "untranslatable character")

def sampleToUtf8 : Text → Except Exception Text
  | ch :: 0 :: rest => do return ch :: (← sampleToUtf8 rest)
  | [] => .ok []
  | _ => .error (.runtimeError "untranslatable character")

/-- A text that is there twice, and no texts. -/
theorem unicodeTexts_roundTrip_sample : ∃ prsData, serialize sampleToUtf16 [[[0x41], [0x41, 0x42]], [], [[0x41]]] =
    .ok prsData ∧ ofData sampleToUtf8 prsData = .ok [[[0x41], [0x41, 0x42]], [], [[0x41]]] := by
  have hpairs : ∀ s : Text, 2 ∣ (s.flatMap fun ch => [ch, (0 : UInt8)]).length := by
    intro s
    induction s with
    | nil => exact Nat.dvd_zero 2
    | cons ch s ih =>
        rw [List.flatMap_cons, List.length_append]
        exact Nat.dvd_add (Nat.dvd_refl 2) ih
  have heven : ∀ s units, sampleToUtf16 s = .ok units → 2 ∣ units.length := by
    intro s units h
    rw [sampleToUtf16] at h
    split_ifs at h
    exact Except.ok.inj h ▸ hpairs s
  refine (unicodeTexts_roundTrip_iff sampleToUtf16 sampleToUtf8 heven _ ?_).mpr ?_
  · intro data h
    have hlength : (layout sampleToUtf16 [[[0x41], [0x41, 0x42]], [], [[0x41]]]).map List.length = .ok 40 := by
      decide +kernel
    rw [h] at hlength
    rw [Except.ok.inj hlength]
    decide
  · simp only [List.forall_mem_cons]
    exact ⟨⟨⟨_, rfl, rfl⟩, ⟨_, rfl, rfl⟩, by simp⟩, by simp, ⟨⟨_, rfl, rfl⟩, by simp⟩, by simp⟩

end UnicodeTextSet

/-! ## Credits -/

namespace Credits

/-- `*`, which ends the credits. -/
def star : UInt8 := 0x2A

def encodeCreditsTextSet (bigEndian : Bool) (toSjis : Transcoder) (data : List Text) :
    Except Exception (List UInt8) :=
  if data.getLast? ≠ some [star] then
    throw (.runtimeError "the last string in a credits text set must be \"*\"")
  else do
    let (strings, offsets) ← data.foldlM (Pool.refer (cstrOf toSjis) 0 4) (.empty, [])
    let w := padTo 0x20 (strings.bytes ++ offsets.flatMap fun offset => putU32 bigEndian (.ofNat offset))
    let footer : RELFileFooter :=
      { relocationsOffset := .ofNat w.length
        numRelocations := .ofNat data.length
        rootOffset := .ofNat strings.bytes.length
        unused2 := .replicate 3 0 }
    let w := w ++ (putU16 bigEndian (.ofNat (strings.bytes.length / 4)) ++
      (List.replicate (data.length - 1) (putU16 bigEndian 1)).flatten)
    return padTo 0x20 w ++ footer.bytes bigEndian

/-- One pass of the loop. -/
def decodeBody (bigEndian : Bool) (fromSjis : Transcoder) (data : List UInt8) (s : StringReader × List Text) :
    Step (StringReader × List Text) (Except Exception (List Text)) :=
  .ofExcept do
    let (offset, r) ← getU32 bigEndian s.1
    let text ← getCstr (data.drop offset.toNat)
    let text ← fromSjis text
    let ret := s.2 ++ [text]
    if text.head? = some star then return .done ret else return .next (r, ret)

def decodeCreditsTextSet (bigEndian : Bool) (fromSjis : Transcoder) (data : List UInt8) :
    Except Exception (List Text) := do
  let footer ← pget (getRELFileFooter bigEndian) data (data.length - 0x20)
  let root := footer.rootOffset.toNat
  (run (decodeBody bigEndian fromSjis data) (data.length + 1) (⟨data.drop root, root⟩, [])).getD
    (.error .nonterminating)

variable {bigEndian : Bool} {toSjis fromSjis : Transcoder} {texts : List Text} {data : List UInt8}

/-- The last text begins with the star, and no other one does. -/
def EndsAtStar : List Text → Prop
  | [] => False
  | s :: rest => if s.head? = some star then rest = [] else EndsAtStar rest

/-- The offset of a text, as it is written. -/
def word (bigEndian : Bool) (pool : Pool Text UInt8) (s : Text) : List UInt8 :=
  putU32 bigEndian (.ofNat ((pool.offset? s).getD 0))

theorem reads_footer (bigEndian : Bool) (footer : RELFileFooter) :
    Reads (getRELFileFooter bigEndian) (footer.bytes bigEndian) footer := by
  obtain ⟨relocationsOffset, numRelocations, unused1, rootOffset, unused2⟩ := footer
  have hunused1 : #v[unused1[0], unused1[1]] = unused1 := by
    ext z hz
    rcases z with _ | _ | z
    · rfl
    · rfl
    · omega
  have hunused2 : #v[unused2[0], unused2[1], unused2[2]] = unused2 := by
    ext z hz
    rcases z with _ | _ | _ | z
    · rfl
    · rfl
    · rfl
    · omega
  have hread : Reads (getRELFileFooter bigEndian)
      (RELFileFooter.bytes bigEndian ⟨relocationsOffset, numRelocations, unused1, rootOffset, unused2⟩)
      ⟨relocationsOffset, numRelocations, #v[unused1[0], unused1[1]], rootOffset,
        #v[unused2[0], unused2[1], unused2[2]]⟩ :=
    (reads_getU32 bigEndian _).bind <| (reads_getU32 bigEndian _).bind <|
      (reads_getU32 bigEndian _).bind <| (reads_getU32 bigEndian _).bind <|
      (reads_getU32 bigEndian _).bind <| (reads_getU32 bigEndian _).bind <|
      (reads_getU32 bigEndian _).bind (reads_getU32 bigEndian _).map
  rwa [hunused1, hunused2] at hread

/-- What is written: the texts, where they are, and how to find that. -/
theorem exists_file (hlast : texts.getLast? = some [star]) (h : ∀ s ∈ texts, ∃ text, toSjis s = .ok text)
    (hfits : ∀ data, encodeCreditsTextSet bigEndian toSjis texts = .ok data → data.length < 2 ^ 32) :
    ∃ pool rest footer data, encodeCreditsTextSet bigEndian toSjis texts = .ok data ∧
      data = pool.bytes ++ (texts.flatMap (word bigEndian pool) ++ rest) ∧ pool.Sound (cstrOf toSjis) 4 ∧
      (∀ s ∈ texts, (pool.offset? s).isSome) ∧
      pget (getRELFileFooter bigEndian) data (data.length - 0x20) = .ok footer ∧
      footer.rootOffset.toNat = pool.bytes.length := by
  obtain ⟨pool, hrun, hsound, -, hall⟩ :=
    (Pool.sound_empty (cstrOf toSjis) 4).referAll (by decide) (exists_cstrOf h) 0 []
  rw [List.nil_append] at hrun
  obtain ⟨zeros, hzeros, -⟩ :=
    exists_padTo (show 0 < 0x20 by decide) (pool.bytes ++ texts.flatMap (word bigEndian pool))
  let w := pool.bytes ++ texts.flatMap (word bigEndian pool) ++ zeros
  let footer : RELFileFooter :=
    { relocationsOffset := .ofNat w.length
      numRelocations := .ofNat texts.length
      rootOffset := .ofNat pool.bytes.length
      unused2 := .replicate 3 0 }
  let relocations := putU16 bigEndian (.ofNat (pool.bytes.length / 4)) ++
    (List.replicate (texts.length - 1) (putU16 bigEndian 1)).flatten
  obtain ⟨zeros', hzeros', -⟩ := exists_padTo (show 0 < 0x20 by decide) (w ++ relocations)
  have hfile : encodeCreditsTextSet bigEndian toSjis texts =
      .ok (w ++ relocations ++ zeros' ++ footer.bytes bigEndian) := by
    rw [encodeCreditsTextSet, if_neg (not_not.mpr hlast), hrun, ok_bind]
    dsimp only
    rw [List.flatMap_map]
    change Except.ok (padTo 0x20 (padTo 0x20 (pool.bytes ++ texts.flatMap (word bigEndian pool)) ++ relocations) ++
      RELFileFooter.bytes bigEndian
        { relocationsOffset := .ofNat (padTo 0x20 (pool.bytes ++ texts.flatMap (word bigEndian pool))).length
          numRelocations := .ofNat texts.length
          rootOffset := .ofNat pool.bytes.length
          unused2 := .replicate 3 0 }) = _
    rw [hzeros, hzeros']
  refine ⟨pool, zeros ++ (relocations ++ (zeros' ++ footer.bytes bigEndian)), footer, _, hfile, ?_, hsound, hall,
    ?_, ?_⟩
  · simp only [w, List.append_assoc]
  · rw [List.length_append, length_footerBytes, Nat.add_sub_cancel]
    nth_rewrite 1 [← List.append_nil (footer.bytes bigEndian)]
    exact (reads_footer bigEndian footer).pget _ _
  · have hlt := hfits _ hfile
    simp only [w, List.length_append] at hlt
    exact UInt32.toNat_ofNat_of_lt' (by change _ < 2 ^ 32; omega)

/-- A pass adds a text, or throws. -/
theorem decodeBody_cases (bigEndian : Bool) (fromSjis : Transcoder) (data : List UInt8)
    (st : StringReader × List Text) :
    (∃ r text, decodeBody bigEndian fromSjis data st = .next (r, st.2 ++ [text])) ∨
      (∃ text, decodeBody bigEndian fromSjis data st = .done (.ok (st.2 ++ [text]))) ∨
      ∃ e, decodeBody bigEndian fromSjis data st = .done (.error e) := by
  rw [decodeBody]
  rcases getU32 bigEndian st.1 with e | ⟨offset, r⟩
  · exact .inr (.inr ⟨e, rfl⟩)
  rw [ok_bind]
  dsimp only
  rcases getCstr (data.drop offset.toNat) with e | text
  · exact .inr (.inr ⟨e, rfl⟩)
  rw [ok_bind]
  rcases fromSjis text with e | text
  · exact .inr (.inr ⟨e, rfl⟩)
  rw [ok_bind]
  split_ifs
  · exact .inr (.inl ⟨text, rfl⟩)
  · exact .inl ⟨r, text, rfl⟩

/-- The loop only adds texts, at least one. -/
theorem exists_of_run {fuel : Nat} {st : StringReader × List Text} {ret : List Text}
    (hrun : run (decodeBody bigEndian fromSjis data) fuel st = some (.ok ret)) :
    ∃ s more, ret = st.2 ++ s :: more := by
  induction fuel generalizing st with
  | zero => cases hrun
  | succ fuel ih =>
      rcases decodeBody_cases bigEndian fromSjis data st with ⟨r, text, hbody⟩ | ⟨text, hbody⟩ | ⟨e, hbody⟩
      · rw [run_of_next hbody] at hrun
        obtain ⟨s, more, rfl⟩ := ih hrun
        exact ⟨text, s :: more, by rw [List.append_assoc]; rfl⟩
      · rw [run_of_done hbody] at hrun
        exact ⟨text, [], (Except.ok.inj (Option.some.inj hrun)).symm⟩
      · rw [run_of_done hbody] at hrun
        cases hrun

/-- The pass that reads the word of a text. -/
theorem decodeBody_of_word (bigEndian : Bool) (fromSjis : Transcoder) {pool : Pool Text UInt8}
    (hsound : pool.Sound (cstrOf toSjis) 4) (rest : List UInt8) (hfits : pool.bytes.length < 2 ^ 32) {s : Text}
    (hs : (pool.offset? s).isSome) (remaining : List UInt8)
    (offset : Nat) (ret : List Text) :
    decodeBody bigEndian fromSjis (pool.bytes ++ rest) (⟨word bigEndian pool s ++ remaining, offset⟩, ret) =
      .ofExcept do
        let text ← cstrBack toSjis fromSjis s
        if text.head? = some star then return .done (ret ++ [text])
        else return .next (⟨remaining, offset + (word bigEndian pool s).length⟩, ret ++ [text]) := by
  obtain ⟨text, htext, hcstr⟩ := exists_getCstr hsound hfits rest hs
  rw [decodeBody, cstrBack, htext, ok_bind, word, reads_getU32, ok_bind]
  dsimp only
  rw [hcstr, ok_bind]

/-- Reading the words of some texts gives just these texts if each of them comes back, and if
the first one that begins with the star is the last. -/
theorem run_words_iff {pool : Pool Text UInt8} (hsound : pool.Sound (cstrOf toSjis) 4) {rest remaining : List UInt8}
    (hfits : pool.bytes.length < 2 ^ 32) (hall : ∀ s ∈ texts, (pool.offset? s).isSome) {fuel : Nat}
    (hfuel : texts.length ≤ fuel) (offset : Nat) (ret : List Text) :
    run (decodeBody bigEndian fromSjis (pool.bytes ++ rest)) fuel
        (⟨texts.flatMap (word bigEndian pool) ++ remaining, offset⟩, ret) = some (.ok (ret ++ texts)) ↔
      (∀ s ∈ texts, cstrBack toSjis fromSjis s = .ok s) ∧ EndsAtStar texts := by
  induction texts generalizing fuel offset ret with
  | nil =>
      refine ⟨fun hrun => ?_, fun h => h.2.elim⟩
      obtain ⟨s, more, h⟩ := exists_of_run hrun
      cases List.append_cancel_left h
  | cons s texts ih =>
      rw [List.length_cons] at hfuel
      obtain ⟨fuel, rfl⟩ := Nat.exists_eq_add_of_le' (Nat.le_of_add_left_le hfuel)
      rw [Nat.add_le_add_iff_right] at hfuel
      rw [List.forall_mem_cons] at hall ⊢
      rw [List.flatMap_cons, List.append_assoc, EndsAtStar]
      have hbody := decodeBody_of_word bigEndian fromSjis hsound rest hfits hall.1
        (texts.flatMap (word bigEndian pool) ++ remaining) offset ret
      cases hback : cstrBack toSjis fromSjis s with
      | error e =>
          rw [hback] at hbody
          rw [run_of_done hbody]
          exact ⟨fun h => (by cases h), fun h => (by cases h.1.1)⟩
      | ok text =>
          rw [hback, ok_bind] at hbody
          split_ifs at hbody with hstar
          · rw [run_of_done hbody]
            constructor
            · intro h
              have hsame := List.append_cancel_left (Except.ok.inj (Option.some.inj h))
              obtain ⟨rfl, rfl⟩ := List.cons.inj hsame
              exact ⟨⟨rfl, fun s hs => absurd hs List.not_mem_nil⟩, by rw [if_pos hstar]⟩
            · rintro ⟨⟨h, -⟩, hend⟩
              obtain rfl := Except.ok.inj h
              rw [if_pos hstar] at hend
              rw [hend]
          · rw [run_of_next hbody]
            constructor
            · intro hrun
              obtain ⟨t, more, h⟩ := exists_of_run hrun
              rw [List.append_assoc] at h
              obtain ⟨rfl, -⟩ := List.cons.inj (List.append_cancel_left h)
              rw [List.append_cons ret s texts] at hrun
              have hrest := (ih hall.2 hfuel _ (ret ++ [s])).mp hrun
              exact ⟨⟨rfl, hrest.1⟩, by rw [if_neg hstar]; exact hrest.2⟩
            · rintro ⟨⟨h, hrest⟩, hend⟩
              obtain rfl := Except.ok.inj h
              rw [if_neg hstar] at hend
              rw [List.append_cons ret text texts]
              exact (ih hall.2 hfuel _ _).mpr ⟨hrest, hend⟩

theorem endsAtStar_iff (hlast : texts.getLast? = some [star]) :
    EndsAtStar texts ↔ ∀ s ∈ texts.dropLast, s.head? ≠ some star := by
  induction texts with
  | nil => cases hlast
  | cons s texts ih =>
      rw [EndsAtStar]
      cases texts with
      | nil =>
          rw [List.getLast?_singleton] at hlast
          obtain rfl := Option.some.inj hlast
          rw [if_pos (show [star].head? = some star from rfl)]
          exact ⟨fun _ s hs => absurd hs List.not_mem_nil, fun _ => rfl⟩
      | cons t texts =>
          rw [List.getLast?_cons_cons] at hlast
          rw [List.dropLast_cons_cons, List.forall_mem_cons]
          by_cases hstar : s.head? = some star
          · rw [if_pos hstar]
            exact ⟨fun h => (by cases h), fun h => absurd hstar h.1⟩
          · rw [if_neg hstar, ih hlast]
            exact ⟨fun h => ⟨hstar, h⟩, fun h => h.2⟩

theorem convert_of_encode (h : encodeCreditsTextSet bigEndian toSjis texts = .ok data) :
    texts.getLast? = some [star] ∧ ∀ s ∈ texts, ∃ text, toSjis s = .ok text := by
  rw [encodeCreditsTextSet] at h
  by_cases hlast : texts.getLast? ≠ some [star]
  · rw [if_pos hlast] at h
    cases h
  rw [if_neg hlast] at h
  refine ⟨not_not.mp hlast, fun s hs => ?_⟩
  obtain ⟨⟨pool, offsets⟩, hrun, -⟩ := bind_eq_ok.mp h
  obtain ⟨piece, hpiece⟩ := Pool.encode_of_internAll (Pool.internAll_of_referAll hrun)
    (fun k offset hk => by cases hk) s hs
  obtain ⟨text, htext, -⟩ := bind_eq_ok.mp hpiece
  exact ⟨text, htext⟩

theorem decode_eq_ok_iff {pool : Pool Text UInt8} (hsound : pool.Sound (cstrOf toSjis) 4) {rest : List UInt8}
    (hfits : pool.bytes.length < 2 ^ 32) (hall : ∀ s ∈ texts, (pool.offset? s).isSome) {footer : RELFileFooter}
    (hdata : data = pool.bytes ++ (texts.flatMap (word bigEndian pool) ++ rest))
    (hfooter : pget (getRELFileFooter bigEndian) data (data.length - 0x20) = .ok footer)
    (hroot : footer.rootOffset.toNat = pool.bytes.length) :
    decodeCreditsTextSet bigEndian fromSjis data = .ok texts ↔
      (∀ s ∈ texts, cstrBack toSjis fromSjis s = .ok s) ∧ EndsAtStar texts := by
  have hfuel : texts.length ≤ data.length + 1 := by
    have hwords : (texts.flatMap (word bigEndian pool)).length = texts.length * 4 := by
      simp only [List.length_flatMap, word, length_putU32, List.map_const', List.sum_replicate_nat]
    rw [hdata, List.length_append, List.length_append, hwords]
    omega
  rw [decodeCreditsTextSet, hfooter, ok_bind]
  dsimp only
  rw [hroot]
  nth_rewrite 3 [hdata]
  rw [List.drop_left, ← run_words_iff hsound hfits hall hfuel pool.bytes.length [], ← hdata, List.nil_append]
  cases run (decodeBody bigEndian fromSjis data) (data.length + 1)
      (⟨texts.flatMap (word bigEndian pool) ++ rest, pool.bytes.length⟩, []) with
  | none => exact ⟨fun h => (by cases h), fun h => (by cases h)⟩
  | some result => exact ⟨fun h => congrArg some h, fun h => Option.some.inj h⟩

/-- The credits come back if they end with `*`, no text before that begins with a star, and every
text comes back from what its conversion has before the first zero. -/
theorem credits_roundTrip_iff (bigEndian : Bool) (toSjis fromSjis : Transcoder) (texts : List Text)
    (hfits : ∀ data, encodeCreditsTextSet bigEndian toSjis texts = .ok data → data.length < 2 ^ 32) :
    (∃ data, encodeCreditsTextSet bigEndian toSjis texts = .ok data ∧
        decodeCreditsTextSet bigEndian fromSjis data = .ok texts) ↔
      texts.getLast? = some [star] ∧ (∀ s ∈ texts.dropLast, s.head? ≠ some star) ∧
        ∀ s ∈ texts, ∃ text, toSjis s = .ok text ∧ fromSjis (text.takeWhile (· ≠ 0)) = .ok s := by
  have hback : (∀ s ∈ texts, ∃ text, toSjis s = .ok text ∧ fromSjis (text.takeWhile (· ≠ 0)) = .ok s) ↔
      ∀ s ∈ texts, cstrBack toSjis fromSjis s = .ok s := forall₂_congr fun s _ => bind_eq_ok.symm
  have hfile : texts.getLast? = some [star] → (∀ s ∈ texts, ∃ text, toSjis s = .ok text) →
      ∃ data, encodeCreditsTextSet bigEndian toSjis texts = .ok data ∧
        (decodeCreditsTextSet bigEndian fromSjis data = .ok texts ↔
          (∀ s ∈ texts, cstrBack toSjis fromSjis s = .ok s) ∧ EndsAtStar texts) := by
    intro hlast h
    obtain ⟨pool, rest, footer, data, hencode, hdata, hsound, hall, hfooter, hroot⟩ := exists_file hlast h hfits
    have hlt := hfits data hencode
    have hpool : pool.bytes.length < 2 ^ 32 := by
      rw [hdata, List.length_append] at hlt
      omega
    exact ⟨data, hencode, decode_eq_ok_iff hsound hpool hall hdata hfooter hroot⟩
  rw [hback]
  constructor
  · rintro ⟨data, hencode, hdecode⟩
    obtain ⟨hlast, h⟩ := convert_of_encode hencode
    obtain ⟨data', hencode', hiff⟩ := hfile hlast h
    obtain rfl := Except.ok.inj (hencode.symm.trans hencode')
    obtain ⟨hback, hend⟩ := hiff.mp hdecode
    exact ⟨hlast, (endsAtStar_iff hlast).mp hend, hback⟩
  · rintro ⟨hlast, hstars, hback⟩
    have hconvert : ∀ s ∈ texts, ∃ text, toSjis s = .ok text := by
      intro s hs
      obtain ⟨text, htext, -⟩ := bind_eq_ok.mp (hback s hs)
      exact ⟨text, htext⟩
    obtain ⟨data, hencode, hiff⟩ := hfile hlast hconvert
    exact ⟨data, hencode, hiff.mpr ⟨hback, (endsAtStar_iff hlast).mpr hstars⟩⟩

/-- A line that is there twice. -/
theorem credits_roundTrip_sample : ∃ data,
    encodeCreditsTextSet true .ok [[0x41, 0x42], [], [0x41, 0x42], [0x2A]] = .ok data ∧
      decodeCreditsTextSet true .ok data = .ok [[0x41, 0x42], [], [0x41, 0x42], [0x2A]] := by
  refine (credits_roundTrip_iff true .ok .ok _ ?_).mpr ⟨rfl, by decide, ?_⟩
  · intro data h
    have hlength : (encodeCreditsTextSet true .ok [[0x41, 0x42], [], [0x41, 0x42], [0x2A]]).map List.length =
        .ok 96 := by
      decide +kernel
    rw [h] at hlength
    rw [Except.ok.inj hlength]
    decide
  · simp only [List.forall_mem_cons]
    exact ⟨⟨_, rfl, rfl⟩, ⟨_, rfl, rfl⟩, ⟨_, rfl, rfl⟩, ⟨_, rfl, rfl⟩, by simp⟩

end Credits

end HuntersGuild.TextSets
