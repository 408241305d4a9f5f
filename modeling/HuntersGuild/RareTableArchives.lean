import HuntersGuild.AfsArchives
import HuntersGuild.GslArchives
import HuntersGuild.Lobbies
import HuntersGuild.MapStates
import HuntersGuild.QuestExpressions
import HuntersGuild.RareTableRoundTrips

/-!
The tables of a `RareItemSet`, and the archives that they are written to and read from.
-/

namespace HuntersGuild.RareTableArchives

open HuntersGuild.AfsArchives (AFSArchive)
open HuntersGuild.ByteStreams
open HuntersGuild.CheckedLoops
open HuntersGuild.ExceptionRules
open HuntersGuild.GslArchives (GSLArchive)
open HuntersGuild.KeyedLists
open HuntersGuild.Lobbies (GameMode)
open HuntersGuild.MapStates (Difficulty)
open HuntersGuild.QuestExpressions (Episode)
open HuntersGuild.QuestFiles (StringMap)
open HuntersGuild.RareItemSets
open HuntersGuild.RareTableFiles
open HuntersGuild.RareTableRoundTrips
open HuntersGuild.StringReaders

/-- The parameters of a table. -/
structure Place where
  mode : GameMode
  episode : Episode
  difficulty : Difficulty
  sectionId : UInt8
  deriving DecidableEq

def allGameModesV23 : List GameMode := [.normal, .battle, .challenge]

def allGameModesV4 : List GameMode := [.normal, .battle, .challenge, .solo]

def allEpisodesV3 : List Episode := [.ep1, .ep2]

def allEpisodesV4 : List Episode := [.ep1, .ep2, .ep4]

def allDifficultiesV234 : List Difficulty := [.normal, .hard, .veryHard, .ultimate]

/-- The loops over all tables of these modes and episodes. -/
def places (modes : List GameMode) (episodes : List Episode) : List Place :=
  modes.flatMap fun mode => episodes.flatMap fun episode => allDifficultiesV234.flatMap fun difficulty =>
    (List.range 10).map fun sectionId => ⟨mode, episode, difficulty, .ofNat sectionId⟩

def difficultyIndex : Difficulty → Nat
  | .normal => 0
  | .hard => 1
  | .veryHard => 2
  | .ultimate => 3

def keyForParams (p : Place) : Except Exception UInt16 :=
  if p.sectionId > 10 then throw (.logicError "incorrect section id")
  else
    let key := (UInt16.ofNat (difficultyIndex p.difficulty) &&& 3) <<< 4 ||| (p.sectionId.toUInt16 &&& 0x0F)
    let key := match p.mode with
      | .normal => key
      | .battle => key ||| 0x0040
      | .challenge => key ||| 0x0080
      | .solo => key ||| 0x00C0
    match p.episode with
    | .ep1 => return key
    | .ep2 => return key ||| 0x0100
    | .ep4 => return key ||| 0x0200
    | .none | .ep3 => throw (.logicError "invalid episode in RareItemSet")

/-- `tolower(abbreviation_for_difficulty(difficulty))`. -/
def difficultyLetter : Difficulty → UInt8
  | .normal => 0x6E
  | .hard => 0x68
  | .veryHard => 0x76
  | .ultimate => 0x75

/-- `ItemRT`, `c` for the challenge mode, `l` for the second episode, the letter, the section
and `.rel`. -/
def gslEntryNameForTable (p : Place) : List UInt8 :=
  [0x49, 0x74, 0x65, 0x6D, 0x52, 0x54] ++ ((if p.mode = .challenge then [0x63] else []) ++
    ((if p.episode = .ep2 then [0x6C] else []) ++ (difficultyLetter p.difficulty ::
      ((Nat.toDigits 10 p.sectionId.toNat).map (fun c => .ofNat c.toNat) ++ [0x2E, 0x72, 0x65, 0x6C]))))

structure RareItemSet where
  collections : UInt16 → Option SpecCollection

namespace RareItemSet

def empty : RareItemSet := ⟨fun _ => none⟩

/-- A table that is there is kept. -/
def emplace (key : UInt16) (collection : SpecCollection) (self : RareItemSet) : RareItemSet :=
  ⟨fun k => if k = key then (self.collections k).or (some collection) else self.collections k⟩

def getCollection (p : Place) (self : RareItemSet) : Except Exception SpecCollection := do
  let key ← keyForParams p
  match self.collections key with
  | some collection => return collection
  | none => throw (.outOfRange "unordered_map::at")

/-- The body of the loops that read tables. `out_of_range` is caught. -/
def addTable (p : Place) (table : Except Exception SpecCollection) (self : RareItemSet) :
    Except Exception RareItemSet :=
  let added : Except Exception RareItemSet := do
    let collection ← table
    let key ← keyForParams p
    return self.emplace key collection
  match added with
  | .error (.outOfRange _) => .ok self
  | added => added

/-! Reading. -/

def afsTable (afs : AFSArchive) (isV1 : Bool) (p : Place) : Except Exception SpecCollection := do
  let index := difficultyIndex p.difficulty * 10 + p.sectionId.toNat
  let r ← afs.getReader index
  let rel ← ParsedRELData.parse r.remaining false isV1
  return rel.asCollection

def ofAfs (afs : AFSArchive) (isV1 : Bool) : Except Exception RareItemSet :=
  (places allGameModesV4 [.ep1]).foldlM (fun self p => self.addTable p (afsTable afs isV1 p)) empty

def gslTable (gsl : GSLArchive) (isBigEndian : Bool) (p : Place) : Except Exception SpecCollection := do
  let r ← gsl.getReader (gslEntryNameForTable p)
  let rel ← ParsedRELData.parse r.remaining isBigEndian false
  return rel.asCollection

def ofGsl (gsl : GSLArchive) (isBigEndian : Bool) : Except Exception RareItemSet :=
  (places allGameModesV23 allEpisodesV3).foldlM (fun self p => self.addTable p (gslTable gsl isBigEndian p)) empty

/-! Writing. -/

def tableFile (bigEndian isV1 : Bool) (self : RareItemSet) (p : Place) : Except Exception (List UInt8) := do
  let collection ← self.getCollection p
  let rel ← ParsedRELData.ofCollection collection
  rel.serialize bigEndian isV1

/-- There are no tables of the highest difficulty on V1. -/
def afsPlaces (isV1 : Bool) : List Place :=
  (places [.normal] [.ep1]).filter fun p => ¬(isV1 ∧ p.difficulty = .ultimate)

def serializeAfs (isV1 : Bool) (self : RareItemSet) : Except Exception (List UInt8) := do
  let files ← (afsPlaces isV1).mapM (self.tableFile false isV1)
  return AfsArchives.generate files false

def gslPlaces : List Place := places [.normal] allEpisodesV3 ++ places [.challenge] [.ep1]

/-- The body of the loops that write tables. `out_of_range` is caught. -/
def addFile (bigEndian : Bool) (self : RareItemSet) (files : StringMap (List UInt8)) (p : Place) :
    Except Exception (StringMap (List UInt8)) :=
  match self.tableFile bigEndian false p with
  | .ok file => .ok ((files.emplace (gslEntryNameForTable p) file).getD files)
  | .error (.outOfRange _) => .ok files
  | .error e => .error e

def gslFiles (bigEndian : Bool) (self : RareItemSet) : Except Exception (StringMap (List UInt8)) :=
  gslPlaces.foldlM (self.addFile bigEndian) []

/-- The map lists its files in some order. -/
def serializeGsl (listed : StringMap (List UInt8) → StringMap (List UInt8)) (bigEndian : Bool) (self : RareItemSet) :
    Except Exception (List UInt8) := do
  let files ← self.gslFiles bigEndian
  return GslArchives.generate (listed files) bigEndian

end RareItemSet

/-! Keys and names. -/

/-- The parameters that a key stands for. -/
def placeOf (key : UInt16) : Place where
  mode := if key &&& 0x00C0 = 0 then .normal else if key &&& 0x00C0 = 0x0040 then .battle
    else if key &&& 0x00C0 = 0x0080 then .challenge else .solo
  episode := if key &&& 0x0300 = 0 then .ep1 else if key &&& 0x0300 = 0x0100 then .ep2 else .ep4
  difficulty := if key &&& 0x0030 = 0 then .normal else if key &&& 0x0030 = 0x0010 then .hard
    else if key &&& 0x0030 = 0x0020 then .veryHard else .ultimate
  sectionId := (key &&& 0x000F).toUInt8

/-- The key of a table with valid parameters. -/
def tableKey (p : Place) : UInt16 := (keyForParams p).toOption.getD 0

theorem tableKey_places : ∀ p ∈ places allGameModesV4 allEpisodesV4,
    keyForParams p = .ok (tableKey p) ∧ placeOf (tableKey p) = p := by
  decide +kernel

/-- The letter of the difficulty and the section, behind the letters for the mode and the
episode. -/
def difficultyAndSection : List UInt8 → Difficulty × UInt8
  | letter :: digit :: _ =>
    (if letter = 0x6E then .normal else if letter = 0x68 then .hard else if letter = 0x76 then .veryHard
      else .ultimate, digit - 0x30)
  | _ => (.normal, 0)

/-- The parameters that a name stands for, with the normal mode for those that share its
names. -/
def placeOfName (name : List UInt8) : Place :=
  let name := name.drop 6
  let (mode, name) := if name.head? = some 0x63 then (GameMode.challenge, name.drop 1) else (.normal, name)
  let (episode, name) := if name.head? = some 0x6C then (Episode.ep2, name.drop 1) else (.ep1, name)
  let (difficulty, sectionId) := difficultyAndSection name
  ⟨mode, episode, difficulty, sectionId⟩

/-- The table whose name a table has. -/
def named (p : Place) : Place := if p.mode = .challenge then p else { p with mode := .normal }

theorem placeOfName_places : ∀ p ∈ places allGameModesV23 allEpisodesV3,
    placeOfName (gslEntryNameForTable p) = named p := by
  decide +kernel

/-- The tables of an archive come from the normal mode, except those of the challenge mode. -/
def gslSource (p : Place) : Option Place :=
  if p.mode = .solo ∨ p.episode = .ep4 ∨ p.mode = .challenge ∧ p.episode = .ep2 then none else some (named p)

/-- Tables follow each other in the order of these numbers. -/
def rank (p : Place) : Nat :=
  let mode := match p.mode with
    | .normal => 0
    | .battle => 1
    | .challenge => 2
    | .solo => 3
  let episode := match p.episode with
    | .ep1 => 0
    | .ep2 => 1
    | _ => 2
  ((mode * 3 + episode) * 4 + difficultyIndex p.difficulty) * 16 + p.sectionId.toNat

theorem nodup_of_isChain {xs : List Place} (h : (xs.map rank).IsChain (· < ·)) : xs.Nodup :=
  (h.pairwise.imp Nat.ne_of_lt).of_map rank fun _ _ hne heq => hne (congrArg rank heq)

theorem nodup_afsTables : (places allGameModesV4 [.ep1]).Nodup := nodup_of_isChain (by decide +kernel)

theorem nodup_gslTables : (places allGameModesV23 allEpisodesV3).Nodup := nodup_of_isChain (by decide +kernel)

theorem nodup_gslPlaces : RareItemSet.gslPlaces.Nodup := nodup_of_isChain (by decide +kernel)

theorem mem_places {modes : List GameMode} {episodes : List Episode} {p : Place} :
    p ∈ places modes episodes ↔ p.mode ∈ modes ∧ p.episode ∈ episodes ∧ p.sectionId < 10 := by
  have hsection : (∃ n < 10, UInt8.ofNat n = p.sectionId) ↔ p.sectionId < 10 := by
    constructor
    · rintro ⟨n, hn, heq⟩
      rw [← heq, UInt8.lt_iff_toNat_lt, UInt8.toNat_ofNat', Nat.mod_eq_of_lt (by omega)]
      exact hn
    · intro h
      exact ⟨p.sectionId.toNat, UInt8.lt_iff_toNat_lt.mp h, UInt8.ofNat_toNat⟩
  obtain ⟨mode, episode, difficulty, sectionId⟩ := p
  have hdifficulty : difficulty ∈ allDifficultiesV234 := by cases difficulty <;> decide
  rw [← hsection]
  simp only [places, List.mem_flatMap, List.mem_map, List.mem_range, Place.mk.injEq]
  constructor
  · rintro ⟨mode', hmode, episode', hepisode, difficulty', -, n, hn, rfl, rfl, rfl, hn'⟩
    exact ⟨hmode, hepisode, n, hn, hn'⟩
  · rintro ⟨hmode, hepisode, n, hn, hn'⟩
    exact ⟨mode, hmode, episode, hepisode, difficulty, hdifficulty, n, hn, rfl, rfl, rfl, hn'⟩

theorem mem_allGameModesV4 (mode : GameMode) : mode ∈ allGameModesV4 := by cases mode <;> decide

theorem mem_places_of_subset {modes : List GameMode} {episodes : List Episode} {p : Place}
    (h : p ∈ places modes episodes) (hepisodes : episodes ⊆ allEpisodesV4) :
    p ∈ places allGameModesV4 allEpisodesV4 := by
  obtain ⟨-, hepisode, hsection⟩ := mem_places.mp h
  exact mem_places.mpr ⟨mem_allGameModesV4 _, hepisodes hepisode, hsection⟩

theorem tableKey_inj {p q : Place} (hp : p ∈ places allGameModesV4 allEpisodesV4)
    (hq : q ∈ places allGameModesV4 allEpisodesV4) (h : tableKey p = tableKey q) : p = q := by
  rw [← (tableKey_places p hp).2, h, (tableKey_places q hq).2]

/-! Loading tables. -/

namespace RareItemSet

variable {p : Place} {self : RareItemSet}

theorem getCollection_eq (hp : p ∈ places allGameModesV4 allEpisodesV4) (self : RareItemSet) :
    self.getCollection p = match self.collections (tableKey p) with
      | some collection => .ok collection
      | none => .error (.outOfRange "unordered_map::at") := by
  rw [getCollection, (tableKey_places p hp).1, ok_bind]
  cases self.collections (tableKey p) <;> rfl

/-- A table can be read, or there is none. -/
def Readable (table : Except Exception SpecCollection) : Prop :=
  ∀ e, table = .error e → ∃ what, e = .outOfRange what

theorem exists_addTable (hp : p ∈ places allGameModesV4 allEpisodesV4) {table : Except Exception SpecCollection}
    (htable : Readable table) (self : RareItemSet) :
    ∃ next, self.addTable p table = .ok next ∧
      next.collections (tableKey p) = (self.collections (tableKey p)).or table.toOption ∧
        ∀ k, k ≠ tableKey p → next.collections k = self.collections k := by
  cases table with
  | error e =>
      obtain ⟨what, rfl⟩ := htable e rfl
      exact ⟨self, rfl, (Option.or_none).symm, fun _ _ => rfl⟩
  | ok collection =>
      refine ⟨self.emplace (tableKey p) collection, ?_, if_pos rfl, fun k hk => if_neg hk⟩
      rw [addTable, ok_bind, (tableKey_places p hp).1]
      rfl

/-- Every table that can be read is in the set, and no other. -/
theorem exists_addTables {xs : List Place} (hxs : ∀ p ∈ xs, p ∈ places allGameModesV4 allEpisodesV4)
    (hnodup : xs.Nodup) {table : Place → Except Exception SpecCollection} (htable : ∀ p ∈ xs, Readable (table p))
    (self : RareItemSet) :
    ∃ loaded, xs.foldlM (fun self p => self.addTable p (table p)) self = .ok loaded ∧
      (∀ p ∈ xs, loaded.collections (tableKey p) = (self.collections (tableKey p)).or (table p).toOption) ∧
        ∀ p ∈ places allGameModesV4 allEpisodesV4, p ∉ xs →
          loaded.collections (tableKey p) = self.collections (tableKey p) := by
  induction xs generalizing self with
  | nil => exact ⟨self, rfl, fun p hp => absurd hp List.not_mem_nil, fun _ _ _ => rfl⟩
  | cons p xs ih =>
      rw [List.forall_mem_cons] at hxs htable
      rw [List.nodup_cons] at hnodup
      obtain ⟨next, hnext, hadded, hothers⟩ := exists_addTable hxs.1 htable.1 self
      obtain ⟨loaded, hloaded, hin, hout⟩ := ih hxs.2 hnodup.2 htable.2 next
      have hkeep : ∀ q ∈ places allGameModesV4 allEpisodesV4, q ≠ p →
          next.collections (tableKey q) = self.collections (tableKey q) := fun q hq hne =>
        hothers _ fun heq => hne (tableKey_inj hq hxs.1 heq)
      refine ⟨loaded, ?_, List.forall_mem_cons.mpr ⟨?_, fun q hq => ?_⟩, fun q hq hnot => ?_⟩
      · rw [List.foldlM_cons, hnext, ok_bind, hloaded]
      · rw [hout p hxs.1 hnodup.1, hadded]
      · rw [hin q hq, hkeep q (hxs.2 q hq) fun heq => hnodup.1 (heq ▸ hq)]
      · rw [List.mem_cons, not_or] at hnot
        rw [hout q hq hnot.2, hkeep q hq hnot.1]

/-! Storing tables. -/

/-- The items and rates are such as are stored, and an archive has room for the table. -/
structure Plain (c : SpecCollection) : Prop where
  codes : ∀ spec ∈ specs c, HasItemCode spec
  rates : ∀ spec ∈ specs c, HasRate spec
  modest : 4 * max c.rtIndexToSpecs.length 0x65 + 5 * max c.boxAreaNormToSpecs.flatten.length 30 + 0x1000 ≤ 2 ^ 25

/-- What a table becomes on its way through a file. -/
def Stored (isV1 : Bool) (c result : SpecCollection) : Prop :=
  (∀ z, result.rtIndexToSpecs.getD z [] =
    if z < monsterCount isV1 then ((c.rtIndexToSpecs.getD z []).map withoutId).dedup else []) ∧
  ∀ areaNorm, result.boxAreaNormToSpecs.getD areaNorm [] = (c.boxAreaNormToSpecs.getD areaNorm []).map withoutId

variable {c : SpecCollection} {bigEndian isV1 : Bool}

theorem Plain.fits (h : Plain c) : Fits c := by
  have hmodest := h.modest
  unfold Fits
  omega

theorem length_padTo_le {size : Nat} (hsize : 0 < size) (w : List UInt8) :
    (padTo size w).length ≤ w.length + size := by
  obtain ⟨zeros, hzeros, hlt⟩ := exists_padTo hsize w
  rw [hzeros, List.length_append]
  omega

theorem length_finish_le (bigEndian : Bool) (sections : List UInt8) (root : Offsets) :
    (finish bigEndian sections root).length ≤ sections.length + 0x80 := by
  have hsections := length_padTo_le (show 0 < 4 by decide) sections
  have hroot := length_padTo_le (show 0 < 0x20 by decide) (padTo 4 sections ++ root.bytes bigEndian)
  have hrelocations := length_padTo_le (show 0 < 0x20 by decide)
    (padTo 0x20 (padTo 4 sections ++ root.bytes bigEndian) ++
      (putU16 bigEndian (UInt32.ofNat (padTo 4 sections).length >>> 2).toUInt16 ++ putU16 bigEndian 2 ++
        putU16 bigEndian 1))
  rw [List.length_append, length_rootBytes] at hroot
  rw [List.length_append, List.length_append, List.length_append, length_putU16, length_putU16, length_putU16]
    at hrelocations
  rw [finish, List.length_append, length_footerBytes]
  omega

theorem length_serialize_le {rel : ParsedRELData} {data : List UInt8} (h : rel.serialize bigEndian isV1 = .ok data) :
    data.length ≤ 4 * max rel.monsterRares.length 0x65 + 5 * max rel.boxRares.length 30 + 0x80 := by
  obtain ⟨monsterDrops, hmonsters, h⟩ := bind_eq_ok.mp h
  obtain ⟨boxDrops, hboxes, h⟩ := bind_eq_ok.mp h
  obtain rfl := Except.ok.inj h
  have hmonstersLength := (mapM_eq_ok_iff.mp hmonsters).length_eq
  have hboxesLength := (mapM_eq_ok_iff.mp hboxes).length_eq
  obtain ⟨-, -, hareas⟩ := boxAreasSection_eq rel.boxRares
  obtain ⟨-, -, hrares⟩ := boxRaresSection_eq boxDrops
  have hcount : monsterCount isV1 ≤ 0x65 := by cases isV1 <;> decide
  refine (length_finish_le _ _ _).trans ?_
  rw [List.length_append, List.length_append, length_monsterRaresSection, hareas, hrares]
  omega

theorem exists_tableFile (hget : self.getCollection p = .ok c) (hplain : Plain c) (hconvertible : Convertible c)
    (bigEndian isV1 : Bool) :
    ∃ file rel, self.tableFile bigEndian isV1 p = .ok file ∧ ParsedRELData.parse file bigEndian isV1 = .ok rel ∧
      Stored isV1 c rel.asCollection ∧ file.length + 0x7FF ≤ 2 ^ 25 := by
  obtain ⟨result, hconvert, hstored⟩ :=
    exists_convert bigEndian isV1 hconvertible hplain.codes hplain.rates hplain.fits
  obtain ⟨rel, hrel, hconvert⟩ := bind_eq_ok.mp hconvert
  obtain ⟨file, hfile, hconvert⟩ := bind_eq_ok.mp hconvert
  obtain ⟨read, hread, hresult⟩ := bind_eq_ok.mp hconvert
  obtain rfl := Except.ok.inj hresult
  have hlength := length_serialize_le hfile
  obtain ⟨rfl, -, -⟩ := (ofCollection_eq_ok hplain.codes).mp hrel
  have hmonsters : (written c).monsterRares.length = c.rtIndexToSpecs.length := List.length_map _
  have hboxes : (written c).boxRares.length = c.boxAreaNormToSpecs.flatten.length := length_boxRaresFrom _ 0
  have hmodest := hplain.modest
  refine ⟨file, read, ?_, hread, hstored, by omega⟩
  rw [tableFile, hget, ok_bind, hrel, ok_bind, hfile]

/-- Only such a table is written. -/
theorem convertible_of_tableFile (hget : self.getCollection p = .ok c) (hplain : Plain c) {file : List UInt8}
    (h : self.tableFile bigEndian isV1 p = .ok file) : Convertible c := by
  rw [tableFile, hget, ok_bind] at h
  obtain ⟨rel, hrel, h⟩ := bind_eq_ok.mp h
  obtain ⟨monsterDrops, hmonsters, h⟩ := bind_eq_ok.mp h
  obtain ⟨drops, hboxes, -⟩ := bind_eq_ok.mp h
  obtain ⟨rfl, -, -⟩ := (ofCollection_eq_ok hplain.codes).mp hrel
  have hwritten : ∃ drops,
      ((written c).boxRares.mapM fun boxRare => PackedDrop.ofExpanded boxRare.drop) = .ok drops ∧
        List.Forall₂ (fun boxRare drop => StoredAs boxRare.drop drop) (written c).boxRares drops := by
    refine exists_mapM fun boxRare hbox => ?_
    have hspec : boxRare.drop ∈ specs c := List.mem_append_right _ (mem_boxRaresFrom hbox)
    obtain ⟨drop, hdrop⟩ := eq_ok_of_mapM hboxes hbox
    exact exists_ofExpanded (plain_of_ofExpanded hdrop) (hplain.codes _ hspec) (hplain.rates _ hspec)
  obtain ⟨boxDrops, hboxes, hstored⟩ := hwritten
  have hmonstersLength : (written c).monsterRares.length = monsterDrops.length :=
    (mapM_eq_ok_iff.mp hmonsters).length_eq
  have hmonstersCount : (written c).monsterRares.length = c.rtIndexToSpecs.length := List.length_map _
  have hboxesCount : (written c).boxRares.length = c.boxAreaNormToSpecs.flatten.length := length_boxRaresFrom _ 0
  have hboxesLength := hstored.length_eq
  have hcount : monsterCount isV1 ≤ 0x65 := by cases isV1 <;> decide
  have hmodest := hplain.modest
  obtain ⟨data, hserialize, hparse⟩ := exists_parse_serialize bigEndian isV1 hmonsters hboxes hstored (by omega)
  exact convertible_of_convert hplain.codes (bind_of_ok hrel (bind_of_ok hserialize (bind_of_ok hparse rfl)))

theorem error_ofExpanded {exp : ExpandedDrop} {e : Exception} (h : PackedDrop.ofExpanded exp = .error e) :
    ∃ what, e = .runtimeError what := by
  rw [PackedDrop.ofExpanded] at h
  split_ifs at h
  exact ⟨_, (Except.error.inj h).symm⟩

theorem error_ofCollection {e : Exception} (h : ParsedRELData.ofCollection c = .error e) :
    ∃ what, e = .runtimeError what := by
  rw [ParsedRELData.ofCollection, bind_eq_error] at h
  rcases h with h | ⟨monsterRares, -, h⟩
  · obtain ⟨specs, -, h⟩ := error_of_mapM h
    rw [monsterRare, bind_eq_error] at h
    rcases h with h | ⟨spec, -, h⟩
    · obtain ⟨spec, spec', -, h⟩ := error_of_foldlM h
      rw [checkSpec] at h
      split_ifs at h
      exact ⟨_, (Except.error.inj h).symm⟩
    · cases h
  · dsimp only at h
    split_ifs at h
    · exact ⟨_, (Except.error.inj h).symm⟩
    · cases h

theorem error_serialize {rel : ParsedRELData} {e : Exception} (h : rel.serialize bigEndian isV1 = .error e) :
    ∃ what, e = .runtimeError what := by
  rw [ParsedRELData.serialize, bind_eq_error] at h
  rcases h with h | ⟨monsterDrops, -, h⟩
  · obtain ⟨exp, -, h⟩ := error_of_mapM h
    exact error_ofExpanded h
  · rcases bind_eq_error.mp h with h | ⟨boxDrops, -, h⟩
    · obtain ⟨boxRare, -, h⟩ := error_of_mapM h
      exact error_ofExpanded h
    · cases h

/-- A table that is there is not passed over: what is thrown for it is not caught. -/
theorem error_tableFile (hget : self.getCollection p = .ok c) {e : Exception}
    (h : self.tableFile bigEndian isV1 p = .error e) : ∃ what, e = .runtimeError what := by
  rw [tableFile, hget, ok_bind, bind_eq_error] at h
  rcases h with h | ⟨rel, -, h⟩
  · exact error_ofCollection h
  · exact error_serialize h

/-! Sets that are read back. -/

/-- The table at `p` was read from what was written of the one at `source`, or there was none. -/
def Loads (isV1 : Bool) (self loaded : RareItemSet) (p : Place) (source : Option Place) : Prop :=
  match source.bind fun q => (self.getCollection q).toOption with
  | some c => ∃ result, loaded.getCollection p = .ok result ∧ Stored isV1 c result
  | none => loaded.getCollection p = .error (.outOfRange "unordered_map::at")

theorem readable_ok (c : SpecCollection) : Readable (.ok c) := by
  rintro _ ⟨⟩

theorem readable_outOfRange (what : String) : Readable (.error (.outOfRange what)) := fun _ h =>
  ⟨what, (Except.error.inj h).symm⟩

/-- What is read for a table, when it is read from the table at `source`. -/
structure ReadFrom (isV1 : Bool) (original : RareItemSet) (source : Option Place)
    (table : Except Exception SpecCollection) : Prop where
  readable : Readable table
  stored : match source.bind fun q => (original.getCollection q).toOption with
    | some c => ∃ result, table = .ok result ∧ Stored isV1 c result
    | none => table.toOption = none

/-- From what is read for each table to the set. -/
theorem exists_loaded {xs : List Place} (hxs : ∀ p ∈ xs, p ∈ places allGameModesV4 allEpisodesV4) (hnodup : xs.Nodup)
    {table : Place → Except Exception SpecCollection} {source : Place → Option Place}
    (htable : ∀ p ∈ xs, ReadFrom isV1 self (source p) (table p))
    (hsource : ∀ p ∈ places allGameModesV4 allEpisodesV4, p ∉ xs → source p = none) :
    ∃ loaded, xs.foldlM (fun self p => self.addTable p (table p)) empty = .ok loaded ∧
      ∀ p ∈ places allGameModesV4 allEpisodesV4, Loads isV1 self loaded p (source p) := by
  obtain ⟨loaded, hloaded, hin, hout⟩ := exists_addTables hxs hnodup (fun p hp => (htable p hp).readable) empty
  refine ⟨loaded, hloaded, fun p hp => ?_⟩
  rw [Loads, getCollection_eq hp]
  by_cases hmem : p ∈ xs
  · have hstored := (htable p hmem).stored
    have htables : loaded.collections (tableKey p) = (table p).toOption := hin p hmem
    rw [htables]
    cases hc : (source p).bind fun q => (self.getCollection q).toOption with
    | none =>
        rw [hc] at hstored
        dsimp only at hstored ⊢
        rw [hstored]
    | some c =>
        rw [hc] at hstored
        obtain ⟨result, htable, hresult⟩ := hstored
        rw [htable]
        exact ⟨result, rfl, hresult⟩
  · rw [hsource p hp hmem, hout p hp hmem]
    rfl

/-! AFS archives. -/

/-- All modes share the tables of the normal one. -/
def afsSource (isV1 : Bool) (p : Place) : Option Place :=
  if p.episode = .ep1 ∧ ¬(isV1 ∧ p.difficulty = .ultimate) then some { p with mode := .normal } else none

/-- The tables are in the order in which they are numbered. -/
theorem getElem?_afsPlaces : ∀ isV1, ∀ p ∈ places allGameModesV4 [.ep1],
    (afsPlaces isV1)[difficultyIndex p.difficulty * 10 + p.sectionId.toNat]? = afsSource isV1 p := by
  decide +kernel

theorem length_afsPlaces (isV1 : Bool) : (afsPlaces isV1).length ≤ 40 := by
  cases isV1 <;> decide +kernel

theorem fits_afsFiles {files : List (List UInt8)} (hcount : files.length ≤ 40)
    (hsizes : ∀ file ∈ files, file.length + 0x7FF ≤ 2 ^ 25) : AfsArchives.Fits files := by
  refine ⟨by omega, fun offset hoffset => ?_, fun file hfile => ?_⟩
  · have hle := PagedLayouts.offsets_le (List.forall_mem_map.mpr hsizes) offset hoffset
    rw [List.length_map] at hle
    omega
  · have hsize := hsizes file hfile
    omega

/-- A file that gives the table at `p`. -/
def IsTableFile (bigEndian isV1 : Bool) (self : RareItemSet) (p : Place) (file : List UInt8) : Prop :=
  file.length + 0x7FF ≤ 2 ^ 25 ∧ ∃ c rel, self.getCollection p = .ok c ∧
    ParsedRELData.parse file bigEndian isV1 = .ok rel ∧ Stored isV1 c rel.asCollection

theorem isTableFile_of_tableFile {file : List UInt8} (h : self.tableFile bigEndian isV1 p = .ok file)
    (hplain : ∀ c, self.getCollection p = .ok c → Plain c) : IsTableFile bigEndian isV1 self p file := by
  obtain ⟨c, hget, -⟩ := bind_eq_ok.mp h
  have hconvertible := convertible_of_tableFile hget (hplain c hget) h
  obtain ⟨file', rel, hfile, hrel, hstored, hsize⟩ :=
    exists_tableFile hget (hplain c hget) hconvertible bigEndian isV1
  obtain rfl := Except.ok.inj (hfile.symm.trans h)
  exact ⟨hsize, c, rel, hget, hrel, hstored⟩

/-- What is read from a file of the archive. -/
theorem readFrom_of_isTableFile {q : Place} {source : Option Place} {file : List UInt8}
    (hsource : source = some q) (h : IsTableFile bigEndian isV1 self q file) {r : Except Exception StringReader}
    (hr : r = .ok (.ofBytes file)) :
    ReadFrom isV1 self source (do
      let r ← r
      let rel ← ParsedRELData.parse r.remaining bigEndian isV1
      return rel.asCollection) := by
  obtain ⟨-, c, rel, hget, hrel, hstored⟩ := h
  rw [hr, ok_bind, StringReader.ofBytes, hrel, ok_bind, hsource]
  refine ⟨readable_ok _, ?_⟩
  rw [Option.bind_some, hget]
  exact ⟨_, rfl, hstored⟩

theorem readFrom_of_error {source : Option Place}
    (hsource : (source.bind fun q => (self.getCollection q).toOption) = none)
    {r : Except Exception StringReader} {what : String} (hr : r = .error (.outOfRange what)) :
    ReadFrom isV1 self source (do
      let r ← r
      let rel ← ParsedRELData.parse r.remaining bigEndian isV1
      return rel.asCollection) := by
  rw [hr, error_bind]
  refine ⟨readable_outOfRange _, ?_⟩
  rw [hsource]
  rfl

/-- The files are written if all tables are there and can be stored. -/
theorem exists_afsFiles_iff (hplain : ∀ p ∈ afsPlaces isV1, ∀ c, self.getCollection p = .ok c → Plain c) :
    (∃ files, (afsPlaces isV1).mapM (self.tableFile false isV1) = .ok files) ↔
      ∀ p ∈ afsPlaces isV1, ∃ c, self.getCollection p = .ok c ∧ Convertible c := by
  constructor
  · rintro ⟨files, hfiles⟩ p hp
    obtain ⟨file, hfile⟩ := eq_ok_of_mapM hfiles hp
    obtain ⟨c, hget, -⟩ := bind_eq_ok.mp hfile
    exact ⟨c, hget, convertible_of_tableFile hget (hplain p hp c hget) hfile⟩
  · intro h
    have hfiles : ∃ files, (afsPlaces isV1).mapM (self.tableFile false isV1) = .ok files ∧
        List.Forall₂ (fun _ _ => True) (afsPlaces isV1) files := by
      refine exists_mapM fun p hp => ?_
      obtain ⟨c, hget, hconvertible⟩ := h p hp
      obtain ⟨file, -, hfile, -⟩ := exists_tableFile hget (hplain p hp c hget) hconvertible false isV1
      exact ⟨file, hfile, trivial⟩
    obtain ⟨files, hfiles, -⟩ := hfiles
    exact ⟨files, hfiles⟩

theorem isTableFile_of_getElem? {files : List (List UInt8)} {i : Nat} {file : List UInt8}
    (hplain : ∀ p ∈ afsPlaces isV1, ∀ c, self.getCollection p = .ok c → Plain c)
    (hfiles : List.Forall₂ (fun p file => self.tableFile false isV1 p = .ok file) (afsPlaces isV1) files)
    (hfile : files[i]? = some file) :
    ∃ q, (afsPlaces isV1)[i]? = some q ∧ IsTableFile false isV1 self q file := by
  rcases getElem?_of_forall₂ hfiles i with ⟨-, hnone⟩ | ⟨q, file', hq, hfile', htable⟩
  · rw [hfile] at hnone
    cases hnone
  · rw [hfile] at hfile'
    obtain rfl := Option.some.inj hfile'
    exact ⟨q, hq, isTableFile_of_tableFile htable (hplain q (List.mem_of_getElem? hq))⟩

/-- Each place of the first episode is read from the file of its table. -/
theorem readFrom_afsTable {files : List (List UInt8)}
    (hplain : ∀ p ∈ afsPlaces isV1, ∀ c, self.getCollection p = .ok c → Plain c)
    (hfiles : List.Forall₂ (fun p file => self.tableFile false isV1 p = .ok file) (afsPlaces isV1) files)
    (hfits : AfsArchives.Fits files) (hp : p ∈ places allGameModesV4 [.ep1]) :
    ReadFrom isV1 self (afsSource isV1 p)
      (afsTable ⟨AfsArchives.generate files false, AfsArchives.entriesOf files⟩ isV1 p) := by
  have hplace := getElem?_afsPlaces isV1 p hp
  have hget := AfsArchives.get_generate hfits (difficultyIndex p.difficulty * 10 + p.sectionId.toNat)
  cases hfile : files[difficultyIndex p.difficulty * 10 + p.sectionId.toNat]? with
  | none =>
      rw [hfile] at hget
      have hnone := List.getElem?_eq_none_iff.mp hfile
      rw [← hfiles.length_eq, ← List.getElem?_eq_none_iff, hplace] at hnone
      exact readFrom_of_error (by rw [hnone]; rfl) (by rw [AFSArchive.getReader, hget]; rfl)
  | some file =>
      rw [hfile] at hget
      obtain ⟨q, hq, hq'⟩ := isTableFile_of_getElem? hplain hfiles hfile
      exact readFrom_of_isTableFile (hplace.symm.trans hq) hq' (by rw [AFSArchive.getReader, hget]; rfl)

theorem afsSource_eq_none (hp : p ∈ places allGameModesV4 allEpisodesV4)
    (hnot : p ∉ places allGameModesV4 [.ep1]) : afsSource isV1 p = none := by
  refine if_neg fun hep => hnot (mem_places.mpr ⟨mem_allGameModesV4 _, ?_, (mem_places.mp hp).2.2⟩)
  exact List.mem_singleton.mpr hep.1

/-- A set comes back from its AFS archive: every mode gets the tables of the normal mode in the
first episode. The archive is written if all of these are there and can be stored. -/
theorem rareTables_throughAfs (isV1 : Bool) (self : RareItemSet)
    (hplain : ∀ p ∈ afsPlaces isV1, ∀ c, self.getCollection p = .ok c → Plain c) :
    ((∃ data, self.serializeAfs isV1 = .ok data) ↔
        ∀ p ∈ afsPlaces isV1, ∃ c, self.getCollection p = .ok c ∧ Convertible c) ∧
      ∀ data, self.serializeAfs isV1 = .ok data → ∃ afs loaded, AFSArchive.ofData data = .ok afs ∧
        ofAfs afs isV1 = .ok loaded ∧
          ∀ p ∈ places allGameModesV4 allEpisodesV4, Loads isV1 self loaded p (afsSource isV1 p) := by
  refine ⟨⟨?_, fun h => ?_⟩, fun data hdata => ?_⟩
  · rintro ⟨data, hdata⟩
    obtain ⟨files, hfiles, -⟩ := bind_eq_ok.mp hdata
    exact (exists_afsFiles_iff hplain).mp ⟨files, hfiles⟩
  · obtain ⟨files, hfiles⟩ := (exists_afsFiles_iff hplain).mpr h
    exact ⟨_, bind_of_ok hfiles rfl⟩
  · obtain ⟨files, hrun, hdata⟩ := bind_eq_ok.mp hdata
    obtain rfl := Except.ok.inj hdata
    have hfiles : List.Forall₂ (fun p file => self.tableFile false isV1 p = .ok file) (afsPlaces isV1) files :=
      mapM_eq_ok_iff.mp hrun
    have hfits : AfsArchives.Fits files := by
      refine fits_afsFiles (hfiles.length_eq ▸ length_afsPlaces isV1) fun file hfile => ?_
      obtain ⟨i, hi⟩ := List.mem_iff_getElem?.mp hfile
      obtain ⟨q, -, hsize, -⟩ := isTableFile_of_getElem? hplain hfiles hi
      exact hsize
    obtain ⟨loaded, hloaded, hloads⟩ := exists_loaded (fun p hp => mem_places_of_subset hp (by decide))
      nodup_afsTables (fun p hp => readFrom_afsTable hplain hfiles hfits hp) fun p hp hnot =>
        afsSource_eq_none hp hnot
    exact ⟨_, loaded, AfsArchives.ofData_generate hfits, hloaded, hloads⟩

theorem mem_specs_sampleCollection {spec : ExpandedDrop} (h : spec ∈ specs sampleCollection) : spec = sampleDrop := by
  simpa [specs, sampleCollection] using h

theorem plain_sampleCollection : Plain sampleCollection where
  codes spec hspec := mem_specs_sampleCollection hspec ▸ hasItemCode_sampleDrop
  rates spec hspec := mem_specs_sampleCollection hspec ▸ hasRate_sampleDrop
  modest := by decide

theorem convertible_sampleCollection : Convertible sampleCollection where
  single := by decide
  areas := by decide
  plain spec hspec := mem_specs_sampleCollection hspec ▸ by decide

/-- A set in which all tables are the same. -/
def sampleSet : RareItemSet := ⟨fun _ => some sampleCollection⟩

theorem getCollection_sampleSet {modes : List GameMode} {episodes : List Episode} (hp : p ∈ places modes episodes)
    (hepisodes : episodes ⊆ allEpisodesV4) : sampleSet.getCollection p = .ok sampleCollection := by
  rw [getCollection_eq (mem_places_of_subset hp hepisodes)]
  rfl

theorem rareTables_throughAfs_sampleSet : ∃ data afs loaded result, sampleSet.serializeAfs true = .ok data ∧
    AFSArchive.ofData data = .ok afs ∧ ofAfs afs true = .ok loaded ∧
      loaded.getCollection ⟨.battle, .ep1, .hard, 3⟩ = .ok result ∧ Stored true sampleCollection result := by
  have hget : ∀ p ∈ afsPlaces true, sampleSet.getCollection p = .ok sampleCollection := fun p hp =>
    getCollection_sampleSet (List.mem_filter.mp hp).1 (by decide)
  have hplain : ∀ p ∈ afsPlaces true, ∀ c, sampleSet.getCollection p = .ok c → Plain c := by
    intro p hp c hc
    obtain rfl := Except.ok.inj ((hget p hp).symm.trans hc)
    exact plain_sampleCollection
  obtain ⟨hwritten, hread⟩ := rareTables_throughAfs true sampleSet hplain
  obtain ⟨data, hdata⟩ := hwritten.mpr fun p hp => ⟨_, hget p hp, convertible_sampleCollection⟩
  obtain ⟨afs, loaded, hafs, hloaded, hloads⟩ := hread data hdata
  obtain ⟨result, hresult, hstored⟩ := hloads ⟨.battle, .ep1, .hard, 3⟩ (by decide)
  exact ⟨data, afs, loaded, result, hdata, hafs, hloaded, hresult, hstored⟩

/-! GSL archives. -/

theorem name_named (p : Place) : gslEntryNameForTable (named p) = gslEntryNameForTable p := by
  rw [named]
  split_ifs with h
  · rfl
  · rw [gslEntryNameForTable, gslEntryNameForTable, if_neg h]
    rfl

theorem gslPlaces_facts : ∀ q ∈ gslPlaces, q ∈ places allGameModesV23 allEpisodesV3 ∧ named q = q ∧
    gslSource q = some q ∧ GslArchives.Named (gslEntryNameForTable q) := by
  unfold GslArchives.Named
  decide +kernel

/-- A table is read from the file of the one that it comes from. -/
theorem name_eq_iff {p q : Place} (hp : p ∈ places allGameModesV23 allEpisodesV3) (hq : q ∈ gslPlaces) :
    gslEntryNameForTable p = gslEntryNameForTable q ↔ gslSource p = some q := by
  obtain ⟨hq', hnamed, hsource, -⟩ := gslPlaces_facts q hq
  constructor
  · intro heq
    have hsame : named p = q := by
      rw [← placeOfName_places p hp, heq, placeOfName_places q hq', hnamed]
    by_cases hnone : p.mode = .solo ∨ p.episode = .ep4 ∨ p.mode = .challenge ∧ p.episode = .ep2
    · obtain ⟨hmode, hepisode, -⟩ := mem_places.mp hp
      rcases hnone with hsolo | hep4 | ⟨hchallenge, hep2⟩
      · rw [hsolo] at hmode
        exact absurd hmode (by decide)
      · rw [hep4] at hepisode
        exact absurd hepisode (by decide)
      · rw [named, if_pos hchallenge] at hsame
        rw [← hsame, gslSource, if_pos (.inr (.inr ⟨hchallenge, hep2⟩))] at hsource
        cases hsource
    · rw [gslSource, if_neg hnone, hsame]
  · intro h
    rw [gslSource] at h
    split_ifs at h
    rw [← Option.some.inj h, name_named]

/-- The tables that are written are all that is read. -/
theorem gslSource_mem {p q : Place} (hp : p ∈ places allGameModesV23 allEpisodesV3) (h : gslSource p = some q) :
    q ∈ gslPlaces := by
  obtain ⟨-, hepisode, hsection⟩ := mem_places.mp hp
  rw [gslSource] at h
  split_ifs at h with hnone
  obtain rfl := Option.some.inj h
  rw [named]
  split_ifs with hmode
  · have hep1 : p.episode = .ep1 := by
      rcases List.mem_pair.mp hepisode with hep1 | hep2
      · exact hep1
      · exact absurd (.inr (.inr ⟨hmode, hep2⟩)) hnone
    exact List.mem_append_right _ (mem_places.mpr ⟨hmode ▸ List.mem_singleton_self _, hep1 ▸ List.mem_singleton_self _,
      hsection⟩)
  · exact List.mem_append_left _ (mem_places.mpr ⟨List.mem_singleton_self _, hepisode, hsection⟩)

theorem gslSource_eq_none {p : Place} (hp : p ∈ places allGameModesV4 allEpisodesV4)
    (hnot : p ∉ places allGameModesV23 allEpisodesV3) : gslSource p = none := by
  obtain ⟨hmode, hepisode, hsection⟩ := mem_places.mp hp
  refine if_pos ?_
  by_contra h
  rw [not_or, not_or] at h
  refine hnot (mem_places.mpr ⟨?_, ?_, hsection⟩)
  · simp only [allGameModesV4, List.mem_cons, List.not_mem_nil, or_false] at hmode
    simp only [allGameModesV23, List.mem_cons, List.not_mem_nil, or_false]
    tauto
  · simp only [allEpisodesV4, List.mem_cons, List.not_mem_nil, or_false] at hepisode
    simp only [allEpisodesV3, List.mem_cons, List.not_mem_nil, or_false]
    tauto

theorem nodup_names : (gslPlaces.map gslEntryNameForTable).Nodup := by
  refine List.Nodup.map_on (fun p hp q hq heq => ?_) nodup_gslPlaces
  obtain ⟨hp', -, hsource, -⟩ := gslPlaces_facts p hp
  exact Option.some.inj (hsource.symm.trans ((name_eq_iff hp' hq).mp heq))

/-- The file of a table, if there is one. -/
def fileOf (bigEndian : Bool) (self : RareItemSet) (p : Place) : Option (List UInt8 × List UInt8) :=
  (self.tableFile bigEndian false p).toOption.map (Prod.mk (gslEntryNameForTable p))

/-- The loop passes over tables for which `out_of_range` is thrown, and over no others. -/
theorem foldlM_addFile_eq_ok_iff {xs : List Place} {files files' : StringMap (List UInt8)}
    (hnodup : (files.map Prod.fst ++ xs.map gslEntryNameForTable).Nodup) :
    xs.foldlM (self.addFile bigEndian) files = .ok files' ↔
      (∀ p ∈ xs, ∀ e, self.tableFile bigEndian false p = .error e → ∃ what, e = .outOfRange what) ∧
        files' = files ++ xs.filterMap (fileOf bigEndian self) := by
  induction xs generalizing files with
  | nil =>
      rw [List.filterMap_nil, List.append_nil]
      constructor
      · intro h
        exact ⟨fun p hp => absurd hp List.not_mem_nil, (Except.ok.inj h).symm⟩
      · rintro ⟨-, rfl⟩
        rfl
  | cons p xs ih =>
      rw [List.map_cons] at hnodup
      have hnew : gslEntryNameForTable p ∉ files.map Prod.fst := fun hmem =>
        (List.nodup_append.mp hnodup).2.2 _ hmem _ List.mem_cons_self rfl
      have hsmaller : (files.map Prod.fst ++ xs.map gslEntryNameForTable).Nodup :=
        hnodup.sublist (List.Sublist.append_left (List.sublist_cons_self _ _) _)
      rw [List.foldlM_cons, List.forall_mem_cons, addFile]
      cases hfile : self.tableFile bigEndian false p with
      | ok file =>
          have hof : fileOf bigEndian self p = some (gslEntryNameForTable p, file) := by
            rw [fileOf, hfile]
            rfl
          have hemplace : (files.emplace (gslEntryNameForTable p) file).getD files =
              files ++ [(gslEntryNameForTable p, file)] := by
            rw [StringMap.emplace, lookup_eq_none_iff.mpr hnew]
            rfl
          have hnext : ((files ++ [(gslEntryNameForTable p, file)]).map Prod.fst ++
              xs.map gslEntryNameForTable).Nodup := by
            rwa [List.map_append, List.append_assoc]
          dsimp only
          rw [hemplace, ok_bind, ih hnext, List.filterMap_cons_some hof, List.append_assoc]
          refine and_congr_left fun _ => ⟨fun h => ⟨fun e he => (by cases he), h⟩, And.right⟩
      | error e =>
          have hof : fileOf bigEndian self p = none := by
            rw [fileOf, hfile]
            rfl
          rw [List.filterMap_cons_none hof]
          by_cases hcaught : ∃ what, e = .outOfRange what
          · obtain ⟨what, rfl⟩ := hcaught
            dsimp only
            rw [ok_bind, ih hsmaller]
            refine and_congr_left fun _ => ⟨fun h => ⟨fun e he => ?_, h⟩, And.right⟩
            exact ⟨what, (Except.error.inj he).symm⟩
          · refine iff_of_false (fun h => ?_) fun h => hcaught (h.1.1 e rfl)
            cases e with
            | outOfRange what => exact hcaught ⟨what, rfl⟩
            | _ => cases h

theorem gslFiles_eq_ok_iff {files : StringMap (List UInt8)} :
    self.gslFiles bigEndian = .ok files ↔
      (∀ p ∈ gslPlaces, ∀ e, self.tableFile bigEndian false p = .error e → ∃ what, e = .outOfRange what) ∧
        files = gslPlaces.filterMap (fileOf bigEndian self) := by
  have hnodup : (([] : StringMap (List UInt8)).map Prod.fst ++ gslPlaces.map gslEntryNameForTable).Nodup :=
    nodup_names
  rw [gslFiles, foldlM_addFile_eq_ok_iff hnodup, List.nil_append]

theorem mem_filterMap_fileOf {file : List UInt8 × List UInt8} :
    file ∈ gslPlaces.filterMap (fileOf bigEndian self) ↔
      ∃ q ∈ gslPlaces, self.tableFile bigEndian false q = .ok file.2 ∧ file.1 = gslEntryNameForTable q := by
  rw [List.mem_filterMap]
  refine exists_congr fun q => and_congr_right fun _ => ?_
  rw [fileOf, Option.map_eq_some_iff]
  cases self.tableFile bigEndian false q with
  | error e =>
      refine iff_of_false ?_ fun h => by cases h.1
      rintro ⟨data, h, -⟩
      cases h
  | ok data =>
      constructor
      · rintro ⟨data', h, rfl⟩
        exact ⟨congrArg _ (Option.some.inj h), rfl⟩
      · rintro ⟨h, hname⟩
        exact ⟨file.2, congrArg _ (Except.ok.inj h), by rw [← hname]⟩

theorem nodup_keys (bigEndian : Bool) (self : RareItemSet) :
    ((gslPlaces.filterMap (fileOf bigEndian self)).map Prod.fst).Nodup := by
  refine List.Nodup.sublist ?_ nodup_names
  induction gslPlaces with
  | nil => exact List.Sublist.refl _
  | cons p xs ih =>
      cases hof : fileOf bigEndian self p with
      | none =>
          rw [List.filterMap_cons_none hof, List.map_cons]
          exact ih.cons _
      | some file =>
          obtain ⟨data, -, rfl⟩ := Option.map_eq_some_iff.mp hof
          rw [List.filterMap_cons_some hof, List.map_cons, List.map_cons]
          exact ih.cons_cons _

theorem fits_gslFiles {files : StringMap (List UInt8)} (hcount : files.length ≤ 120)
    (hsizes : ∀ file ∈ files, file.2.length + 0x7FF ≤ 2 ^ 25) : GslArchives.Fits files := by
  have hstart := PagedLayouts.alignUp_le 0x800 (0x30 * (files.length + 1))
  refine ⟨by omega, fun offset hoffset => ?_, fun file hfile => ?_⟩
  · have hle := PagedLayouts.offsets_le (List.forall_mem_map.mpr hsizes) offset hoffset
    rw [List.length_map] at hle
    omega
  · have hsize := hsizes file hfile
    omega

/-- The files are written if all tables that are there can be stored. -/
theorem exists_gslFiles_iff (hplain : ∀ p ∈ gslPlaces, ∀ c, self.getCollection p = .ok c → Plain c) :
    (∃ files, self.gslFiles bigEndian = .ok files) ↔
      ∀ p ∈ gslPlaces, ∀ c, self.getCollection p = .ok c → Convertible c := by
  constructor
  · rintro ⟨files, hfiles⟩ p hp c hget
    cases hfile : self.tableFile bigEndian false p with
    | ok file => exact convertible_of_tableFile hget (hplain p hp c hget) hfile
    | error e =>
        obtain ⟨what, rfl⟩ := error_tableFile hget hfile
        obtain ⟨what', hcaught⟩ := (gslFiles_eq_ok_iff.mp hfiles).1 p hp _ hfile
        cases hcaught
  · intro h
    refine ⟨_, gslFiles_eq_ok_iff.mpr ⟨fun p hp e he => ?_, rfl⟩⟩
    cases hget : self.getCollection p with
    | ok c =>
        obtain ⟨file, -, hfile, -⟩ := exists_tableFile hget (hplain p hp c hget) (h p hp c hget) bigEndian false
        rw [hfile] at he
        cases he
    | error e' =>
        rw [tableFile, hget] at he
        rw [getCollection_eq (mem_places_of_subset (gslPlaces_facts p hp).1 (by decide))] at hget
        obtain rfl := Except.error.inj he
        split at hget
        · cases hget
        · exact ⟨_, (Except.error.inj hget).symm⟩

theorem isTableFile_of_mem {files : StringMap (List UInt8)} {file : List UInt8 × List UInt8}
    (hplain : ∀ p ∈ gslPlaces, ∀ c, self.getCollection p = .ok c → Plain c)
    (hperm : files.Perm (gslPlaces.filterMap (fileOf bigEndian self))) (hfile : file ∈ files) :
    ∃ q ∈ gslPlaces, file.1 = gslEntryNameForTable q ∧ IsTableFile bigEndian false self q file.2 := by
  obtain ⟨q, hq, htable, hname⟩ := mem_filterMap_fileOf.mp (hperm.mem_iff.mp hfile)
  exact ⟨q, hq, hname, isTableFile_of_tableFile htable (hplain q hq)⟩

/-- A place without a file has no table. -/
theorem bind_gslSource_eq_none {files : StringMap (List UInt8)} (hfiles : self.gslFiles bigEndian = .ok files)
    (hp : p ∈ places allGameModesV23 allEpisodesV3) (hnot : gslEntryNameForTable p ∉ files.map Prod.fst) :
    ((gslSource p).bind fun q => (self.getCollection q).toOption) = none := by
  obtain ⟨hcaught, rfl⟩ := gslFiles_eq_ok_iff.mp hfiles
  cases hsource : gslSource p with
  | none => rfl
  | some q =>
      have hq := gslSource_mem hp hsource
      rw [Option.bind_some]
      cases hget : self.getCollection q with
      | error e => rfl
      | ok c =>
          cases htable : self.tableFile bigEndian false q with
          | ok file =>
              have hfile : (gslEntryNameForTable q, file) ∈ gslPlaces.filterMap (fileOf bigEndian self) :=
                mem_filterMap_fileOf.mpr ⟨q, hq, htable, rfl⟩
              rw [(name_eq_iff hp hq).mpr hsource] at hnot
              exact absurd (List.mem_map_of_mem hfile) hnot
          | error e =>
              obtain ⟨what, rfl⟩ := error_tableFile hget htable
              obtain ⟨what', hwhat⟩ := hcaught q hq _ htable
              cases hwhat

/-- Each place is read from the file of the table that it comes from. -/
theorem readFrom_gslTable {written files : StringMap (List UInt8)}
    (hplain : ∀ p ∈ gslPlaces, ∀ c, self.getCollection p = .ok c → Plain c)
    (hwritten : self.gslFiles bigEndian = .ok written) (hperm : files.Perm written)
    (hfits : GslArchives.Fits files) (hp : p ∈ places allGameModesV23 allEpisodesV3) :
    ReadFrom false self (gslSource p) (gslTable (GslArchives.loaded files bigEndian) bigEndian p) := by
  obtain ⟨hget, hcopy⟩ := GslArchives.get_loaded hfits bigEndian (gslEntryNameForTable p)
  rw [hcopy] at hget
  cases hlookup : lookup Prod.fst files (gslEntryNameForTable p) with
  | some file =>
      obtain ⟨hmem, hname⟩ := mem_of_lookup_eq_some hlookup
      obtain ⟨q, hq, hname', htable⟩ := isTableFile_of_mem hplain ((gslFiles_eq_ok_iff.mp hwritten).2 ▸ hperm) hmem
      rw [hlookup] at hget
      exact readFrom_of_isTableFile ((name_eq_iff hp hq).mp (hname.symm.trans hname')) htable
        (by rw [GSLArchive.getReader, hget]; rfl)
  | none =>
      have hnot := lookup_eq_none_iff.mp hlookup
      rw [(hperm.map Prod.fst).mem_iff] at hnot
      rw [hlookup] at hget
      exact readFrom_of_error (bind_gslSource_eq_none hwritten hp hnot) (by rw [GSLArchive.getReader, hget]; rfl)

/-- A set comes back from its GSL archive in either byte order: the normal and the battle mode
get the tables of the normal mode, and the challenge mode gets its own for the first episode.
The archive is written if all tables among these that are there can be stored. -/
theorem rareTables_throughGsl (bigEndian : Bool) (self : RareItemSet)
    (hplain : ∀ p ∈ gslPlaces, ∀ c, self.getCollection p = .ok c → Plain c)
    {listed : StringMap (List UInt8) → StringMap (List UInt8)} (hlisted : ∀ files, (listed files).Perm files) :
    ((∃ data, self.serializeGsl listed bigEndian = .ok data) ↔
        ∀ p ∈ gslPlaces, ∀ c, self.getCollection p = .ok c → Convertible c) ∧
      ∀ data, self.serializeGsl listed bigEndian = .ok data → ∃ gsl loaded,
        GSLArchive.ofData data bigEndian = .ok gsl ∧ ofGsl gsl bigEndian = .ok loaded ∧
          ∀ p ∈ places allGameModesV4 allEpisodesV4, Loads false self loaded p (gslSource p) := by
  refine ⟨⟨?_, fun h => ?_⟩, fun data hdata => ?_⟩
  · rintro ⟨data, hdata⟩
    obtain ⟨files, hfiles, -⟩ := bind_eq_ok.mp hdata
    exact (exists_gslFiles_iff hplain).mp ⟨files, hfiles⟩
  · obtain ⟨files, hfiles⟩ := (exists_gslFiles_iff hplain).mpr h
    exact ⟨_, bind_of_ok hfiles rfl⟩
  · obtain ⟨files, hfiles, hdata⟩ := bind_eq_ok.mp hdata
    obtain rfl := Except.ok.inj hdata
    have heq := (gslFiles_eq_ok_iff.mp hfiles).2
    have hperm : (listed files).Perm (gslPlaces.filterMap (fileOf bigEndian self)) := heq ▸ hlisted files
    have hkeys : ((listed files).map Prod.fst).Nodup :=
      (hperm.map Prod.fst).nodup_iff.mpr (nodup_keys bigEndian self)
    have hfits : GslArchives.Fits (listed files) := by
      refine fits_gslFiles (hperm.length_eq.trans_le (List.length_filterMap_le _ _)) fun file hfile => ?_
      obtain ⟨q, -, -, hsize, -⟩ := isTableFile_of_mem hplain hperm hfile
      exact hsize
    have hnames : ∀ file ∈ listed files, GslArchives.Named file.1 := by
      intro file hfile
      obtain ⟨q, hq, hname, -⟩ := isTableFile_of_mem hplain hperm hfile
      rw [hname]
      exact (gslPlaces_facts q hq).2.2.2
    obtain ⟨loaded, hloaded, hloads⟩ := exists_loaded (fun p hp => mem_places_of_subset hp (by decide))
      nodup_gslTables (fun p hp => readFrom_gslTable hplain hfiles (hlisted files) hfits hp) fun p hp hnot =>
        gslSource_eq_none hp hnot
    exact ⟨_, loaded, GslArchives.ofData_generate hfits hkeys hnames bigEndian, hloaded, hloads⟩

theorem rareTables_throughGsl_sampleSet : ∃ data gsl loaded result,
    sampleSet.serializeGsl List.reverse true = .ok data ∧ GSLArchive.ofData data true = .ok gsl ∧
      ofGsl gsl true = .ok loaded ∧ loaded.getCollection ⟨.challenge, .ep1, .ultimate, 9⟩ = .ok result ∧
        Stored false sampleCollection result := by
  have hget : ∀ p ∈ gslPlaces, sampleSet.getCollection p = .ok sampleCollection := fun p hp =>
    getCollection_sampleSet (gslPlaces_facts p hp).1 (by decide)
  have hsame : ∀ p ∈ gslPlaces, ∀ c, sampleSet.getCollection p = .ok c → c = sampleCollection := fun p hp c hc =>
    Except.ok.inj (hc.symm.trans (hget p hp))
  obtain ⟨hwritten, hread⟩ := rareTables_throughGsl true sampleSet
    (fun p hp c hc => hsame p hp c hc ▸ plain_sampleCollection) List.reverse_perm
  obtain ⟨data, hdata⟩ := hwritten.mpr fun p hp c hc => hsame p hp c hc ▸ convertible_sampleCollection
  obtain ⟨gsl, loaded, hgsl, hloaded, hloads⟩ := hread data hdata
  obtain ⟨result, hresult, hstored⟩ := hloads ⟨.challenge, .ep1, .ultimate, 9⟩ (by decide)
  exact ⟨data, gsl, loaded, result, hdata, hgsl, hloaded, hresult, hstored⟩

end RareItemSet

end HuntersGuild.RareTableArchives
