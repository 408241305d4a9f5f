import Mathlib.Data.List.Dedup
import Mathlib.Tactic.IntervalCases
import HuntersGuild.CheckedLoops
import HuntersGuild.RareTableFiles

/-!
Which collections come back from a file as they were written.
-/

namespace HuntersGuild.RareTableRoundTrips

open HuntersGuild.ExceptionRules
open HuntersGuild.CheckedLoops
open HuntersGuild.ByteStreams
open HuntersGuild.Items (Data1 ItemData)
open HuntersGuild.StringReaders
open HuntersGuild.RareItemSets
open HuntersGuild.RareTableFiles

/-! ## Drops -/

/-- What a file holds of a specification: its item has the default id. -/
def withoutId (d : ExpandedDrop) : ExpandedDrop :=
  { d with data := { d.data with id := ItemData.cleared.id } }

@[simp] theorem empty_withoutId (d : ExpandedDrop) : (withoutId d).data.empty = d.data.empty := rfl

/-- The first three bytes of an item. -/
def HasItemCode (d : ExpandedDrop) : Prop :=
  d.data.data1[0] ≠ 0 ∨ d.data.data1[1] ≠ 0 ∨ d.data.data1[2] ≠ 0

def HasRate (d : ExpandedDrop) : Prop :=
  ∃ pc, d.probability = expandRate pc

/-- A specification and the drop that stands for it in a file. -/
def StoredAs (d : ExpandedDrop) (drop : PackedDrop) : Prop :=
  drop.expand = withoutId d ∧ drop.itemCode.bytes.all (· == 0) = false

theorem data1_of_canBeEncoded {data : ItemData} (h : data.canBeEncodedInRelRareTable = true) :
    data.data1 = #v[data.data1[0], data.data1[1], data.data1[2], 0, 0, 0, 0, 0, 0, 0, 0, 0] ∧
      data.data2d = 0 := by
  unfold ItemData.canBeEncodedInRelRareTable at h
  rw [Bool.and_eq_true, beq_iff_eq, List.all_eq_true] at h
  refine ⟨?_, h.2⟩
  have hrest : ∀ z (hz : z < 12), 3 ≤ z → data.data1[z] = 0 := by
    intro z hz hle
    refine beq_iff_eq.mp (h.1 _ ?_)
    rw [List.mem_iff_getElem?]
    refine ⟨z - 3, ?_⟩
    rw [List.getElem?_drop, Nat.add_sub_cancel' hle]
    exact data.data1.getElem?_toList hz
  apply Data1.ext
  intro z hz
  have hcases : z = 0 ∨ z = 1 ∨ z = 2 ∨ 3 ≤ z := by omega
  rcases hcases with rfl | rfl | rfl | hle
  · rfl
  · rfl
  · rfl
  · rw [hrest z hz hle]
    interval_cases z <;> rfl

theorem not_empty_of_hasItemCode {d : ExpandedDrop} (h : HasItemCode d) :
    d.data.empty = false := by
  unfold ItemData.empty
  rw [Bool.and_eq_false_iff]
  left
  rw [List.all_eq_false]
  have hmem : ∀ z (hz : z < 12), d.data.data1[z] ∈ d.data.data1.toList := by
    intro z hz
    exact List.mem_of_getElem? (d.data.data1.getElem?_toList hz)
  rcases h with h | h | h
  · exact ⟨_, hmem 0 (by decide), by simpa using h⟩
  · exact ⟨_, hmem 1 (by decide), by simpa using h⟩
  · exact ⟨_, hmem 2 (by decide), by simpa using h⟩

theorem exists_ofExpanded {d : ExpandedDrop} (hplain : d.data.canBeEncodedInRelRareTable = true)
    (hcode : HasItemCode d) (hrate : HasRate d) :
    ∃ drop, PackedDrop.ofExpanded d = .ok drop ∧ StoredAs d drop := by
  obtain ⟨hdata1, hdata2⟩ := data1_of_canBeEncoded hplain
  obtain ⟨pc, hpc⟩ := hrate
  refine ⟨_, if_pos hplain, ?_, ?_⟩
  · unfold PackedDrop.expand withoutId
    rw [ExpandedDrop.mk.injEq]
    refine ⟨?_, ?_⟩
    · dsimp only
      rw [hpc, expandRate_compressRate]
    · rw [ItemData.mk.injEq]
      exact ⟨hdata1.symm, rfl, hdata2.symm⟩
  · dsimp only [HasItemCode] at hcode ⊢
    simp only [List.all_cons, List.all_nil, Bool.and_true, Bool.and_eq_false_iff, beq_eq_false_iff_ne]
    exact hcode

theorem plain_of_ofExpanded {d : ExpandedDrop} {drop : PackedDrop}
    (h : PackedDrop.ofExpanded d = .ok drop) : d.data.canBeEncodedInRelRareTable = true := by
  unfold PackedDrop.ofExpanded at h
  split at h
  · assumption
  · cases h

/-! ## Sections of a file -/

theorem length_bytes (drop : PackedDrop) : drop.bytes.length = 4 := by
  unfold PackedDrop.bytes
  rw [List.length_cons, drop.itemCode.length_eq]

theorem length_flatMap_bytes (drops : List PackedDrop) :
    (drops.flatMap PackedDrop.bytes).length = 4 * drops.length := by
  induction drops with
  | nil => rfl
  | cons drop drops ih =>
      rw [List.flatMap_cons, List.length_append, length_bytes, ih, List.length_cons]
      omega

theorem reads_getPackedDrop (drop : PackedDrop) : Reads getPackedDrop drop.bytes drop :=
  (reads_getU8 drop.probability).bind (reads_getParray drop.itemCode).map

theorem reads_getMonsterRares (drops : List PackedDrop) :
    Reads (getMonsterRares drops.length) (drops.flatMap PackedDrop.bytes)
      (drops.map PackedDrop.expand) := by
  induction drops with
  | nil => exact reads_pure []
  | cons drop drops ih => exact (reads_getPackedDrop drop).bind ih.map

theorem reads_getOffsets (bigEndian : Bool) (root : Offsets) :
    Reads (getOffsets bigEndian) (root.bytes bigEndian) root :=
  (reads_getU32 bigEndian _).bind <| (reads_getU32 bigEndian _).bind <|
    (reads_getU32 bigEndian _).bind (reads_getU32 bigEndian _).map

theorem reads_getRELFileFooter (bigEndian : Bool) {footer : RELFileFooter}
    (h : footer.unused1 = #v[1, 0]) (h' : footer.unused2 = #v[0, 0, 0]) :
    Reads (getRELFileFooter bigEndian) (footer.bytes bigEndian) footer := by
  obtain ⟨relocationsOffset, numRelocations, unused1, rootOffset, unused2⟩ := footer
  subst h h'
  exact (reads_getU32 bigEndian _).bind <| (reads_getU32 bigEndian _).bind <|
    (reads_getU32 bigEndian _).bind <| (reads_getU32 bigEndian _).bind <|
    (reads_getU32 bigEndian _).bind <| (reads_getU32 bigEndian _).bind <|
    (reads_getU32 bigEndian _).bind (reads_getU32 bigEndian _).map

@[simp] theorem length_rootBytes (bigEndian : Bool) (root : Offsets) :
    (root.bytes bigEndian).length = 0x10 := by
  simp [Offsets.bytes]

@[simp] theorem length_footerBytes (bigEndian : Bool) (footer : RELFileFooter) :
    (footer.bytes bigEndian).length = 0x20 := by
  simp [RELFileFooter.bytes]

/-- The drops of a section, with the empty ones behind them. -/
def padded (isV1 : Bool) (drops : List PackedDrop) : List PackedDrop :=
  drops ++ List.replicate (monsterCount isV1 - drops.length) emptyDrop

theorem length_padded (isV1 : Bool) (drops : List PackedDrop) :
    (padded isV1 drops).length = max drops.length (monsterCount isV1) := by
  unfold padded
  rw [List.length_append, List.length_replicate]
  omega

theorem monsterRaresSection_eq (isV1 : Bool) (drops : List PackedDrop) :
    monsterRaresSection isV1 drops =
      ((padded isV1 drops).take (monsterCount isV1)).flatMap PackedDrop.bytes ++
        ((padded isV1 drops).drop (monsterCount isV1)).flatMap PackedDrop.bytes := by
  rw [← List.flatMap_append, List.take_append_drop]
  rfl

theorem length_monsterRaresSection (isV1 : Bool) (drops : List PackedDrop) :
    (monsterRaresSection isV1 drops).length = 4 * max drops.length (monsterCount isV1) := by
  rw [← length_padded, ← length_flatMap_bytes]
  rfl

/-- The two arrays give back the boxes. -/
theorem getBoxRares_eq {boxRares : List BoxRare} {drops : List PackedDrop}
    (h : List.Forall₂ (fun boxRare drop => StoredAs boxRare.drop drop) boxRares drops)
    (offset offset' : Nat) :
    getBoxRares boxRares.length ⟨boxRares.map BoxRare.areaNormPlus1, offset⟩
        ⟨drops.flatMap PackedDrop.bytes, offset'⟩ =
      .ok (boxRares.map fun boxRare => { boxRare with drop := withoutId boxRare.drop }) := by
  induction h generalizing offset offset' with
  | nil => rfl
  | @cons boxRare drop boxRares drops hfirst _ ih =>
      have hread := reads_getPackedDrop drop (drops.flatMap PackedDrop.bytes) offset'
      obtain ⟨hexpand, hcode⟩ := hfirst
      have hrest := ih (offset + 1) (offset' + drop.bytes.length)
      unfold getBoxRares
      refine bind_of_ok rfl ?_
      refine bind_of_ok hread ?_
      refine bind_of_ok hrest ?_
      rw [hcode, hexpand]
      rfl

theorem exists_padTo {size : Nat} (hsize : 0 < size) (w : List UInt8) :
    ∃ zeros, padTo size w = w ++ zeros ∧ zeros.length < size := by
  refine ⟨_, rfl, ?_⟩
  rw [List.length_replicate]
  exact Nat.mod_lt _ hsize

/-- The footer is found behind the sections, and it leads to the root. -/
theorem exists_finish (bigEndian : Bool) {sections : List UInt8} (root : Offsets)
    (hfits : sections.length + 4 < 2 ^ 32) :
    ∃ zeros rest footer, finish bigEndian sections root =
        sections ++ zeros ++ (root.bytes bigEndian ++ rest) ∧
      pget (getRELFileFooter bigEndian) (finish bigEndian sections root)
        ((finish bigEndian sections root).length - 0x20) = .ok footer ∧
      footer.rootOffset.toNat = (sections ++ zeros).length := by
  obtain ⟨zeros, hzeros, hlt⟩ := exists_padTo (show 0 < 4 by decide) sections
  let rootOffset := UInt32.ofNat (sections ++ zeros).length
  obtain ⟨zeros', hzeros', -⟩ :=
    exists_padTo (show 0 < 0x20 by decide) (sections ++ zeros ++ root.bytes bigEndian)
  let relocations := putU16 bigEndian (rootOffset >>> 2).toUInt16 ++ putU16 bigEndian 2 ++
    putU16 bigEndian 1
  obtain ⟨zeros'', hzeros'', -⟩ := exists_padTo (show 0 < 0x20 by decide)
    (sections ++ zeros ++ root.bytes bigEndian ++ zeros' ++ relocations)
  let footer : RELFileFooter :=
    { relocationsOffset := .ofNat (sections ++ zeros ++ root.bytes bigEndian ++ zeros').length
      numRelocations := 3
      unused1 := #v[1, 0]
      rootOffset }
  have hfile : finish bigEndian sections root =
      sections ++ zeros ++ root.bytes bigEndian ++ zeros' ++ relocations ++ zeros'' ++
        (footer.bytes bigEndian ++ []) := by
    unfold finish
    dsimp only
    rw [hzeros, hzeros', hzeros'', List.append_nil]
  refine ⟨zeros, zeros' ++ (relocations ++ (zeros'' ++ (footer.bytes bigEndian ++ []))), footer,
    ?_, ?_, ?_⟩
  · rw [hfile]
    simp only [List.append_assoc]
  · have hbefore : (finish bigEndian sections root).length - 0x20 =
        (sections ++ zeros ++ root.bytes bigEndian ++ zeros' ++ relocations ++ zeros'').length := by
      rw [hfile, List.append_nil, List.length_append, length_footerBytes, Nat.add_sub_cancel]
    rw [hbefore, hfile]
    exact (reads_getRELFileFooter bigEndian rfl rfl).pget _ _
  · refine UInt32.toNat_ofNat_of_lt' ?_
    rw [List.length_append]
    change _ < 2 ^ 32
    omega

theorem take_drop_section {data before bytes : List UInt8} (rest : List UInt8)
    (offset count : Nat) (h : data = before ++ (bytes ++ rest)) (hoffset : offset = before.length)
    (hcount : bytes.length = count) : (data.drop offset).take count = bytes := by
  rw [h, hoffset, List.drop_left, ← hcount, List.take_left]

theorem boxAreasSection_eq (boxRares : List BoxRare) : ∃ rest,
    boxAreasSection boxRares = boxRares.map BoxRare.areaNormPlus1 ++ rest ∧
      (boxAreasSection boxRares).length = max boxRares.length 30 := by
  refine ⟨_, rfl, ?_⟩
  unfold boxAreasSection
  rw [List.length_append, List.length_map, List.length_replicate]
  omega

theorem boxRaresSection_eq (drops : List PackedDrop) : ∃ rest,
    boxRaresSection drops = drops.flatMap PackedDrop.bytes ++ rest ∧
      (boxRaresSection drops).length = 4 * max drops.length 30 := by
  refine ⟨_, rfl, ?_⟩
  have hpadding : (List.replicate (30 - drops.length) (putU32l 0)).flatten.length =
      (30 - drops.length) * 4 := by
    rw [List.length_flatten, List.map_replicate, List.sum_replicate]
    rfl
  unfold boxRaresSection
  rw [List.length_append, length_flatMap_bytes, hpadding]
  omega

/-- A file of fewer than 2^32 bytes gives the first monsters and all the boxes
that were written. -/
theorem exists_parse_serialize (bigEndian isV1 : Bool) {rel : ParsedRELData}
    {monsterDrops boxDrops : List PackedDrop}
    (hmonsters : rel.monsterRares.mapM PackedDrop.ofExpanded = .ok monsterDrops)
    (hboxes : (rel.boxRares.mapM fun boxRare => PackedDrop.ofExpanded boxRare.drop) = .ok boxDrops)
    (hstored : List.Forall₂ (fun boxRare drop => StoredAs boxRare.drop drop) rel.boxRares boxDrops)
    (hfits : 4 * max monsterDrops.length (monsterCount isV1) + 5 * max boxDrops.length 30 + 4 <
      2 ^ 32) :
    ∃ data, rel.serialize bigEndian isV1 = .ok data ∧
      ParsedRELData.parse data bigEndian isV1 =
        .ok ⟨((padded isV1 monsterDrops).take (monsterCount isV1)).map PackedDrop.expand,
          rel.boxRares.map fun boxRare => { boxRare with drop := withoutId boxRare.drop }⟩ := by
  refine ⟨_, bind_of_ok hmonsters (bind_of_ok hboxes rfl), ?_⟩
  have hlength := hstored.length_eq
  have hmonstersLength := length_monsterRaresSection isV1 monsterDrops
  have hmonstersRead := reads_getMonsterRares ((padded isV1 monsterDrops).take (monsterCount isV1))
  have htaken : ((padded isV1 monsterDrops).take (monsterCount isV1)).length =
      monsterCount isV1 := by
    rw [List.length_take, length_padded]
    omega
  rw [htaken] at hmonstersRead
  obtain ⟨areasRest, hareas, hareasLength⟩ := boxAreasSection_eq rel.boxRares
  obtain ⟨raresRest, hrares, hraresLength⟩ := boxRaresSection_eq boxDrops
  have hsections := monsterRaresSection_eq isV1 monsterDrops
  generalize monsterRaresSection isV1 monsterDrops = monsters at *
  generalize boxAreasSection rel.boxRares = areas at *
  generalize boxRaresSection boxDrops = rares at *
  have hfits' : (monsters ++ areas ++ rares).length + 4 < 2 ^ 32 := by
    rw [List.length_append, List.length_append]
    omega
  obtain ⟨zeros, rest, footer, hfile, hfooter, hroot⟩ := exists_finish bigEndian
    (rootStructure monsters areas rel.boxRares) hfits'
  generalize finish bigEndian (monsters ++ areas ++ rares)
    (rootStructure monsters areas rel.boxRares) = data at *
  have hcount : (rootStructure monsters areas rel.boxRares).boxCount.toNat =
      rel.boxRares.length := UInt32.toNat_ofNat_of_lt' (by change _ < 2 ^ 32; omega)
  have hareasOffset : (rootStructure monsters areas rel.boxRares).boxAreasOffset.toNat =
      monsters.length := UInt32.toNat_ofNat_of_lt' (by change _ < 2 ^ 32; omega)
  have hraresOffset : (rootStructure monsters areas rel.boxRares).boxRaresOffset.toNat =
      (monsters ++ areas).length := by
    refine UInt32.toNat_ofNat_of_lt' ?_
    rw [List.length_append]
    change _ < 2 ^ 32
    omega
  have hrootRead : pget (getOffsets bigEndian) data footer.rootOffset.toNat =
      .ok (rootStructure monsters areas rel.boxRares) := by
    rw [hroot, hfile]
    exact (reads_getOffsets bigEndian _).pget _ _
  have hmonsterRares : pget (getMonsterRares (monsterCount isV1)) data 0 =
      .ok (((padded isV1 monsterDrops).take (monsterCount isV1)).map PackedDrop.expand) := by
    rw [hfile, hsections]
    simp only [List.append_assoc]
    exact hmonstersRead.pget [] _
  have hareasRead : (data.drop monsters.length).take rel.boxRares.length =
      rel.boxRares.map BoxRare.areaNormPlus1 := by
    refine take_drop_section (areasRest ++ (rares ++ (zeros ++
      ((rootStructure monsters areas rel.boxRares).bytes bigEndian ++ rest)))) _ _ ?_ rfl
      (List.length_map _)
    rw [hfile, hareas]
    simp only [List.append_assoc]
  have hraresRead : (data.drop (monsters ++ areas).length).take (rel.boxRares.length * 4) =
      boxDrops.flatMap PackedDrop.bytes := by
    refine take_drop_section (raresRest ++ (zeros ++
      ((rootStructure monsters areas rel.boxRares).bytes bigEndian ++ rest))) _ _ ?_ rfl ?_
    · rw [hfile, hrares]
      simp only [List.append_assoc]
    · rw [length_flatMap_bytes, hlength, mul_comm]
  refine bind_of_ok hfooter ?_
  refine bind_of_ok hrootRead ?_
  refine bind_of_ok hmonsterRares ?_
  rw [hcount, hareasOffset, hraresOffset, hareasRead, hraresRead]
  exact bind_of_ok (getBoxRares_eq hstored 0 0) rfl

/-! ## Collections -/

theorem getD_emplaceBackAt (specs : List (List ExpandedDrop)) (z y : Nat) (drop : ExpandedDrop) :
    (emplaceBackAt specs z drop).getD y [] =
      specs.getD y [] ++ if y = z then [drop] else [] := by
  have hextend : (specs ++ List.replicate (z + 1 - specs.length) []).getD y [] = specs.getD y [] := by
    rcases Nat.lt_or_ge y specs.length with hlt | hge
    · rw [List.getD_append _ _ _ _ hlt]
    · rw [List.getD_append_right _ _ _ _ hge, List.getD_eq_default _ _ hge,
        List.getD_eq_getElem?_getD]
      exact List.getElem?_getD_replicate_default_eq _ _ _
  unfold emplaceBackAt
  rw [List.getD_eq_getElem?_getD, List.getElem?_modify, ← hextend, List.getD_eq_getElem?_getD]
  by_cases hy : y = z
  · subst hy
    have hbound : y < (specs ++ List.replicate (y + 1 - specs.length) []).length := by
      rw [List.length_append, List.length_replicate]
      omega
    simp only [if_true, List.getElem?_eq_getElem hbound]
    rfl
  · simp only [if_neg hy, if_neg (Ne.symm hy), List.append_nil]
    cases (specs ++ List.replicate (z + 1 - specs.length) [])[y]? <;> rfl

/-- A loop that files some of its elements leaves in each list those that
belong there, in their order. -/
theorem getD_foldl {α : Type} {add : List (List ExpandedDrop) → α → List (List ExpandedDrop)}
    {belongs : Nat → α → Bool} {drop : α → ExpandedDrop}
    (hadd : ∀ specs x y, (add specs x).getD y [] =
      specs.getD y [] ++ if belongs y x then [drop x] else [])
    (xs : List α) (specs : List (List ExpandedDrop)) (y : Nat) :
    (xs.foldl add specs).getD y [] = specs.getD y [] ++ (xs.filter (belongs y)).map drop := by
  induction xs generalizing specs with
  | nil => exact (List.append_nil _).symm
  | cons x xs ih =>
      rw [List.foldl_cons, ih, hadd, List.append_assoc, List.filter_cons]
      cases belongs y x <;> rfl

theorem getD_addMonsterRare (specs : List (List ExpandedDrop)) (x : ExpandedDrop × Nat) (y : Nat) :
    (addMonsterRare specs x).getD y [] =
      specs.getD y [] ++ if !x.1.data.empty && y == x.2 then [x.1] else [] := by
  obtain ⟨drop, z⟩ := x
  dsimp only [addMonsterRare]
  cases drop.data.empty with
  | true => exact (List.append_nil _).symm
  | false =>
      rw [if_neg Bool.false_ne_true, getD_emplaceBackAt]
      simp only [Bool.not_false, Bool.true_and, beq_iff_eq]

theorem getD_addBoxRare (specs : List (List ExpandedDrop)) (drop : BoxRare) (y : Nat) :
    (addBoxRare specs drop).getD y [] = specs.getD y [] ++
      if !drop.drop.data.empty && (drop.areaNormPlus1 != 0 && y == (drop.areaNormPlus1 - 1).toNat)
      then [drop.drop] else [] := by
  unfold addBoxRare
  by_cases h : drop.areaNormPlus1 = 0 ∨ drop.drop.data.empty
  · rw [if_pos h, if_neg, List.append_nil]
    rcases h with h | h <;> simp [h]
  · obtain ⟨harea, hempty⟩ := not_or.mp h
    rw [if_neg h, getD_emplaceBackAt]
    simp [harea, hempty]

/-- Each monster has at most the one drop at its index. -/
theorem getD_rtIndexToSpecs (rel : ParsedRELData) (y : Nat) :
    rel.asCollection.rtIndexToSpecs.getD y [] =
      rel.monsterRares[y]?.toList.filter (!·.data.empty) := by
  have hindex : ∀ (drops : List ExpandedDrop) (k : Nat),
      ((drops.zipIdx k).filter fun x => !x.1.data.empty && y == x.2).map (·.1) =
        if k ≤ y then drops[y - k]?.toList.filter (!·.data.empty) else [] := by
    intro drops
    induction drops with
    | nil => simp
    | cons drop drops ih =>
        intro k
        rw [List.zipIdx_cons, List.filter_cons]
        rcases Nat.lt_trichotomy y k with hlt | rfl | hgt
        · rw [if_neg (by simp; omega), ih, if_neg (by omega), if_neg (by omega)]
        · have hrest := ih (y + 1)
          rw [if_neg (Nat.not_succ_le_self y)] at hrest
          rw [if_pos (Nat.le_refl y), Nat.sub_self]
          cases hempty : drop.data.empty <;> simp [hempty, hrest]
        · obtain ⟨d, rfl⟩ := Nat.exists_eq_add_of_lt hgt
          rw [if_neg (by simp; omega), ih, if_pos (by omega), if_pos (by omega)]
          have hd : k + d + 1 - k = d + 1 := by omega
          have hd' : k + d + 1 - (k + 1) = d := by omega
          rw [hd, hd', List.getElem?_cons_succ]
  have hrun := getD_foldl getD_addMonsterRare rel.monsterRares.zipIdx [] y
  rw [hindex, if_pos (Nat.zero_le y)] at hrun
  exact hrun

/-- The boxes of a collection, from an area on. -/
def boxRaresFrom (areas : List (List ExpandedDrop)) (areaNorm : Nat) : List BoxRare :=
  (areas.zipIdx areaNorm).flatMap fun (specs, areaNorm) =>
    specs.map fun spec => ⟨.ofNat areaNorm + 1, spec⟩

def belongsToArea (y : Nat) (drop : BoxRare) : Bool :=
  !drop.drop.data.empty && (drop.areaNormPlus1 != 0 && y == (drop.areaNormPlus1 - 1).toNat)

theorem filter_belongsToArea {specs : List ExpandedDrop} {k : Nat} (hk : k < 0xFF)
    (hspecs : ∀ spec ∈ specs, HasItemCode spec) (y : Nat) :
    ((specs.map fun spec => (⟨.ofNat k + 1, spec⟩ : BoxRare)).filter (belongsToArea y)).map
      BoxRare.drop = if y = k then specs else [] := by
  have harea : UInt8.ofNat k + 1 ≠ 0 ∧ (UInt8.ofNat k + 1 - 1).toNat = k := by
    constructor
    · intro h
      have hval := congrArg UInt8.toNat h
      rw [UInt8.toNat_add, UInt8.toNat_ofNat_of_lt' (Nat.lt_succ_of_lt hk)] at hval
      change (k + 1) % 256 = 0 at hval
      omega
    · rw [UInt8.add_sub_cancel]
      exact UInt8.toNat_ofNat_of_lt' (Nat.lt_succ_of_lt hk)
  have hbelongs : ∀ spec ∈ specs, belongsToArea y ⟨.ofNat k + 1, spec⟩ = decide (y = k) := by
    intro spec hspec
    unfold belongsToArea
    rw [not_empty_of_hasItemCode (hspecs spec hspec), harea.2, bne_iff_ne.mpr harea.1]
    rfl
  have hfilter : (specs.map fun spec => (⟨.ofNat k + 1, spec⟩ : BoxRare)).filter (belongsToArea y) =
      if y = k then specs.map fun spec => ⟨.ofNat k + 1, spec⟩ else [] := by
    split_ifs with hy
    · refine List.filter_eq_self.mpr (List.forall_mem_map.mpr fun spec hspec => ?_)
      rw [hbelongs spec hspec, decide_eq_true hy]
    · refine List.filter_eq_nil_iff.mpr (List.forall_mem_map.mpr fun spec hspec => ?_)
      rw [hbelongs spec hspec, decide_eq_false hy]
      exact Bool.false_ne_true
  rw [hfilter]
  split_ifs with hy
  · rw [List.map_map]
    exact List.map_id specs
  · rfl

/-- The boxes of a collection lie in the areas from which they were taken. -/
theorem filter_boxRaresFrom {areas : List (List ExpandedDrop)}
    (hcodes : ∀ specs ∈ areas, ∀ spec ∈ specs, HasItemCode spec) {k : Nat}
    (hlength : k + areas.length ≤ 0xFF) (y : Nat) :
    ((boxRaresFrom areas k).filter (belongsToArea y)).map BoxRare.drop =
      if k ≤ y then areas.getD (y - k) [] else [] := by
  induction areas generalizing k with
  | nil => simp [boxRaresFrom]
  | cons specs areas ih =>
      have hcons : boxRaresFrom (specs :: areas) k =
          (specs.map fun spec => ⟨.ofNat k + 1, spec⟩) ++ boxRaresFrom areas (k + 1) := rfl
      rw [List.length_cons] at hlength
      rw [hcons, List.filter_append, List.map_append,
        filter_belongsToArea (by omega) (hcodes specs List.mem_cons_self),
        ih (fun specs hspecs => hcodes specs (List.mem_cons_of_mem _ hspecs)) (by omega)]
      rcases Nat.lt_trichotomy y k with hlt | rfl | hgt
      · rw [if_neg (by omega), if_neg (by omega), if_neg (by omega)]
        rfl
      · rw [if_pos rfl, if_neg (Nat.not_succ_le_self y), if_pos (Nat.le_refl y), Nat.sub_self,
          List.append_nil]
        rfl
      · obtain ⟨d, rfl⟩ := Nat.exists_eq_add_of_lt hgt
        rw [if_neg (by omega), if_pos (by omega), if_pos (by omega)]
        have hd : k + d + 1 - k = d + 1 := by omega
        have hd' : k + d + 1 - (k + 1) = d := by omega
        rw [hd, hd', List.getD_cons_succ]
        rfl

theorem getD_boxAreaNormToSpecs (rel : ParsedRELData) (y : Nat) :
    rel.asCollection.boxAreaNormToSpecs.getD y [] =
      (rel.boxRares.filter (belongsToArea y)).map BoxRare.drop :=
  getD_foldl getD_addBoxRare rel.boxRares [] y

/-! ## What can be written -/

/-- The specifications of a collection. -/
def specs (c : SpecCollection) : List ExpandedDrop :=
  c.rtIndexToSpecs.flatten ++ c.boxAreaNormToSpecs.flatten

/-- A file can hold this collection. -/
structure Convertible (c : SpecCollection) : Prop where
  single : ∀ specs ∈ c.rtIndexToSpecs, ∀ spec ∈ specs, ∀ spec' ∈ specs, spec = spec'
  areas : c.boxAreaNormToSpecs.length ≤ 0xFF
  plain : ∀ spec ∈ specs c, spec.data.canBeEncodedInRelRareTable = true

theorem foldlM_checkSpec {spec spec' : ExpandedDrop} {specs : List ExpandedDrop}
    (h : spec.data.empty = false) :
    specs.foldlM checkSpec spec = .ok spec' ↔ spec' = spec ∧ ∀ s ∈ specs, s = spec := by
  induction specs with
  | nil =>
      constructor
      · intro hrun
        exact ⟨(Except.ok.inj hrun).symm, fun s hs => nomatch hs⟩
      · rintro ⟨rfl, -⟩
        rfl
  | cons s specs ih =>
      rw [List.foldlM_cons, bind_eq_ok, List.forall_mem_cons]
      have hround : ∀ mid, checkSpec spec s = .ok mid ↔ mid = spec ∧ s = spec := by
        intro mid
        unfold checkSpec
        rw [h, if_neg Bool.false_ne_true]
        split_ifs with hne
        · refine iff_of_false (fun h => nomatch h) ?_
          rintro ⟨-, rfl⟩
          exact hne.elim (· rfl) (· rfl)
        · obtain ⟨hprobability, hdata⟩ := not_or.mp hne
          have hs : s = spec := by
            cases s
            cases spec
            exact congrArg₂ ExpandedDrop.mk (not_not.mp hprobability).symm (not_not.mp hdata).symm
          rw [Except.ok.injEq]
          exact ⟨fun hmid => ⟨hmid.symm, hs⟩, fun hmid => hmid.1.symm⟩
      constructor
      · rintro ⟨mid, hmid, hrun⟩
        obtain ⟨rfl, hs⟩ := (hround mid).mp hmid
        obtain ⟨hspec', hrest⟩ := ih.mp hrun
        exact ⟨hspec', hs, hrest⟩
      · rintro ⟨hspec', hs, hrest⟩
        exact ⟨spec, (hround spec).mpr ⟨rfl, hs⟩, ih.mpr ⟨hspec', hrest⟩⟩

theorem monsterRare_eq_ok {specs : List ExpandedDrop} {d : ExpandedDrop}
    (hcodes : ∀ spec ∈ specs, HasItemCode spec) :
    monsterRare specs = .ok d ↔
      d = specs.headD {} ∧ ∀ spec ∈ specs, ∀ spec' ∈ specs, spec = spec' := by
  unfold monsterRare
  rw [bind_eq_ok]
  cases specs with
  | nil =>
      constructor
      · rintro ⟨-, -, hd⟩
        exact ⟨(Except.ok.inj hd).symm, fun s hs => nomatch hs⟩
      · rintro ⟨rfl, -⟩
        exact ⟨{}, rfl, rfl⟩
  | cons spec specs =>
      have hspec := not_empty_of_hasItemCode (hcodes spec List.mem_cons_self)
      have hfirst : (spec :: specs).foldlM checkSpec {} = specs.foldlM checkSpec spec := rfl
      rw [hfirst]
      constructor
      · rintro ⟨mid, hmid, hd⟩
        obtain ⟨-, hall⟩ := (foldlM_checkSpec hspec).mp hmid
        have hsame : ∀ s ∈ spec :: specs, s = spec := List.forall_mem_cons.mpr ⟨rfl, hall⟩
        exact ⟨(Except.ok.inj hd).symm, fun s hs s' hs' => (hsame s hs).trans (hsame s' hs').symm⟩
      · rintro ⟨hd, hall⟩
        rw [hd]
        refine ⟨spec, (foldlM_checkSpec hspec).mpr ⟨rfl, fun s hs => ?_⟩, rfl⟩
        exact hall s (List.mem_cons_of_mem spec hs) spec List.mem_cons_self

theorem mem_specs_of_mem_rtIndexToSpecs {c : SpecCollection} {list : List ExpandedDrop}
    (hlist : list ∈ c.rtIndexToSpecs) {spec : ExpandedDrop} (hspec : spec ∈ list) :
    spec ∈ specs c :=
  List.mem_append_left _ (List.mem_flatten_of_mem hlist hspec)

theorem mem_specs_of_mem_boxAreaNormToSpecs {c : SpecCollection} {list : List ExpandedDrop}
    (hlist : list ∈ c.boxAreaNormToSpecs) {spec : ExpandedDrop} (hspec : spec ∈ list) :
    spec ∈ specs c :=
  List.mem_append_right _ (List.mem_flatten_of_mem hlist hspec)

/-- The monsters and boxes that are written for a collection. -/
def written (c : SpecCollection) : ParsedRELData :=
  ⟨c.rtIndexToSpecs.map (·.headD {}), boxRaresFrom c.boxAreaNormToSpecs 0⟩

theorem mapM_monsterRare {lists : List (List ExpandedDrop)} {drops : List ExpandedDrop}
    (hcodes : ∀ list ∈ lists, ∀ spec ∈ list, HasItemCode spec) :
    lists.mapM monsterRare = .ok drops ↔ drops = lists.map (·.headD {}) ∧
      ∀ list ∈ lists, ∀ spec ∈ list, ∀ spec' ∈ list, spec = spec' := by
  rw [mapM_eq_ok_iff]
  induction lists generalizing drops with
  | nil =>
      rw [List.forall₂_nil_left_iff]
      exact (and_iff_left fun list hlist => nomatch hlist).symm
  | cons list lists ih =>
      rw [List.forall_mem_cons] at hcodes
      rw [List.forall₂_cons_left_iff, List.forall_mem_cons, List.map_cons]
      constructor
      · rintro ⟨d, rest, hd, hrest, rfl⟩
        obtain ⟨rfl, hsame⟩ := (monsterRare_eq_ok hcodes.1).mp hd
        obtain ⟨rfl, hall⟩ := (ih hcodes.2).mp hrest
        exact ⟨rfl, hsame, hall⟩
      · rintro ⟨rfl, hsame, hall⟩
        exact ⟨_, _, (monsterRare_eq_ok hcodes.1).mpr ⟨rfl, hsame⟩,
          (ih hcodes.2).mpr ⟨rfl, hall⟩, rfl⟩

theorem ofCollection_eq_ok {c : SpecCollection} {rel : ParsedRELData}
    (hcodes : ∀ spec ∈ specs c, HasItemCode spec) :
    ParsedRELData.ofCollection c = .ok rel ↔ rel = written c ∧
      (∀ specs ∈ c.rtIndexToSpecs, ∀ spec ∈ specs, ∀ spec' ∈ specs, spec = spec') ∧
        c.boxAreaNormToSpecs.length ≤ 0xFF := by
  have hmonsters : ∀ list ∈ c.rtIndexToSpecs, ∀ spec ∈ list, HasItemCode spec :=
    fun list hlist spec hspec => hcodes spec (mem_specs_of_mem_rtIndexToSpecs hlist hspec)
  unfold ParsedRELData.ofCollection
  rw [bind_eq_ok]
  constructor
  · rintro ⟨monsterRares, hrun, hrel⟩
    obtain ⟨rfl, hsingle⟩ := (mapM_monsterRare hmonsters).mp hrun
    dsimp only at hrel
    rcases Nat.lt_or_ge 0xFF c.boxAreaNormToSpecs.length with hareas | hareas
    · rw [if_pos hareas] at hrel
      cases hrel
    · rw [if_neg (Nat.not_lt.mpr hareas)] at hrel
      exact ⟨(Except.ok.inj hrel).symm, hsingle, hareas⟩
  · rintro ⟨rfl, hsingle, hareas⟩
    refine ⟨_, (mapM_monsterRare hmonsters).mpr ⟨rfl, hsingle⟩, ?_⟩
    dsimp only
    rw [if_neg (Nat.not_lt.mpr hareas)]
    rfl

/-- The number of bytes of the sections stays below 2^32, where the offsets in
a file end. -/
def Fits (c : SpecCollection) : Prop :=
  4 * max c.rtIndexToSpecs.length 0x65 + 5 * max c.boxAreaNormToSpecs.flatten.length 30 + 4 < 2 ^ 32

/-- What stands for a monster in a file. -/
def Marks (d : ExpandedDrop) (drop : PackedDrop) : Prop :=
  drop.expand.data.empty = d.data.empty ∧ (d.data.empty = false → drop.expand = withoutId d)

theorem exists_marks_default : ∃ drop, PackedDrop.ofExpanded {} = .ok drop ∧ Marks {} drop := by
  refine ⟨_, if_pos rfl, rfl, fun h => ?_⟩
  cases h

theorem exists_written_monsters {c : SpecCollection} (h : Convertible c)
    (hcodes : ∀ spec ∈ specs c, HasItemCode spec) (hrates : ∀ spec ∈ specs c, HasRate spec) :
    ∃ drops, (written c).monsterRares.mapM PackedDrop.ofExpanded = .ok drops ∧
      List.Forall₂ Marks (written c).monsterRares drops := by
  refine exists_mapM (List.forall_mem_map.mpr fun list hlist => ?_)
  cases list with
  | nil => exact exists_marks_default
  | cons spec list =>
      have hspec := mem_specs_of_mem_rtIndexToSpecs hlist List.mem_cons_self
      obtain ⟨drop, hdrop, hexpand, -⟩ :=
        exists_ofExpanded (h.plain spec hspec) (hcodes spec hspec) (hrates spec hspec)
      refine ⟨drop, hdrop, ?_, fun _ => hexpand⟩
      rw [hexpand]
      rfl

theorem mem_boxRaresFrom {areas : List (List ExpandedDrop)} {k : Nat} {boxRare : BoxRare}
    (h : boxRare ∈ boxRaresFrom areas k) : boxRare.drop ∈ areas.flatten := by
  obtain ⟨⟨list, areaNorm⟩, hlist, hbox⟩ := List.mem_flatMap.mp h
  obtain ⟨spec, hspec, rfl⟩ := List.mem_map.mp hbox
  exact List.mem_flatten_of_mem (List.fst_mem_of_mem_zipIdx hlist) hspec

theorem exists_mem_boxRaresFrom {areas : List (List ExpandedDrop)} (k : Nat) {spec : ExpandedDrop}
    (h : spec ∈ areas.flatten) : ∃ boxRare ∈ boxRaresFrom areas k, boxRare.drop = spec := by
  obtain ⟨list, hlist, hspec⟩ := List.mem_flatten.mp h
  obtain ⟨i, hi⟩ := List.mem_iff_getElem?.mp hlist
  have hmem : (list, i + k) ∈ areas.zipIdx k := by
    rw [List.mem_iff_getElem?]
    exact ⟨i, by rw [List.getElem?_zipIdx, hi, Nat.add_comm]; rfl⟩
  exact ⟨_, List.mem_flatMap.mpr ⟨_, hmem, List.mem_map_of_mem hspec⟩, rfl⟩

theorem exists_written_boxes {c : SpecCollection} (h : Convertible c)
    (hcodes : ∀ spec ∈ specs c, HasItemCode spec) (hrates : ∀ spec ∈ specs c, HasRate spec) :
    ∃ drops,
      ((written c).boxRares.mapM fun boxRare => PackedDrop.ofExpanded boxRare.drop) = .ok drops ∧
      List.Forall₂ (fun boxRare drop => StoredAs boxRare.drop drop) (written c).boxRares drops := by
  refine exists_mapM fun boxRare hbox => ?_
  have hspec : boxRare.drop ∈ specs c := List.mem_append_right _ (mem_boxRaresFrom hbox)
  exact exists_ofExpanded (h.plain _ hspec) (hcodes _ hspec) (hrates _ hspec)

theorem length_boxRaresFrom (areas : List (List ExpandedDrop)) (k : Nat) :
    (boxRaresFrom areas k).length = areas.flatten.length := by
  induction areas generalizing k with
  | nil => rfl
  | cons list areas ih =>
      have hcons : boxRaresFrom (list :: areas) k =
          (list.map fun spec => ⟨.ofNat k + 1, spec⟩) ++ boxRaresFrom areas (k + 1) := rfl
      rw [hcons, List.length_append, List.length_map, ih, List.flatten_cons, List.length_append]

/-- The drop of one monster that is read, if it is one of the first. -/
theorem filter_padded (isV1 : Bool) {rares : List ExpandedDrop} {drops : List PackedDrop}
    (h : List.Forall₂ Marks rares drops) (y : Nat) :
    (((padded isV1 drops).take (monsterCount isV1)).map PackedDrop.expand)[y]?.toList.filter
        (!·.data.empty) =
      if y < monsterCount isV1 then (rares[y]?.toList.filter (!·.data.empty)).map withoutId
      else [] := by
  rw [List.getElem?_map, List.getElem?_take]
  rcases Nat.lt_or_ge y (monsterCount isV1) with hy | hy
  · rw [if_pos hy, if_pos hy]
    unfold padded
    rcases getElem?_of_forall₂ h y with ⟨hrare, hdrop⟩ | ⟨d, drop, hrare, hdrop, hempty, hexpand⟩
    · have hlength := List.getElem?_eq_none_iff.mp hdrop
      rw [List.getElem?_append_right hlength, List.getElem?_replicate, if_pos (by omega), hrare]
      rfl
    · obtain ⟨hlt, -⟩ := List.getElem?_eq_some_iff.mp hdrop
      rw [List.getElem?_append_left hlt, hdrop, hrare]
      change [drop.expand].filter _ = ([d].filter _).map withoutId
      rw [List.filter_cons, List.filter_cons, hempty]
      cases hd : d.data.empty with
      | true => rfl
      | false =>
          rw [hexpand hd]
          rfl
  · rw [if_neg (Nat.not_lt.mpr hy), if_neg (Nat.not_lt.mpr hy)]
    rfl

/-- A collection comes back from its file like this. -/
def RoundTrips (bigEndian isV1 : Bool) (c : SpecCollection) : Prop :=
  ∀ result, convert bigEndian isV1 c = .ok result →
    (∀ z, result.rtIndexToSpecs.getD z [] = ((c.rtIndexToSpecs.getD z []).map withoutId).dedup) ∧
      ∀ areaNorm, result.boxAreaNormToSpecs.getD areaNorm [] =
        (c.boxAreaNormToSpecs.getD areaNorm []).map withoutId

/-- The one specification of a monster, as it is written. -/
theorem filter_written {c : SpecCollection} (h : Convertible c)
    (hcodes : ∀ spec ∈ specs c, HasItemCode spec) (z : Nat) :
    ((written c).monsterRares[z]?.toList.filter (!·.data.empty)).map withoutId =
      ((c.rtIndexToSpecs.getD z []).map withoutId).dedup := by
  unfold written
  rw [List.getElem?_map, List.getD_eq_getElem?_getD]
  cases hz : c.rtIndexToSpecs[z]? with
  | none => rfl
  | some list =>
      have hlist := List.mem_of_getElem? hz
      cases list with
      | nil => rfl
      | cons spec list =>
          have hspec := mem_specs_of_mem_rtIndexToSpecs hlist List.mem_cons_self
          have hempty := not_empty_of_hasItemCode (hcodes spec hspec)
          have hsame : spec :: list = List.replicate (list.length + 1) spec :=
            List.eq_replicate_iff.mpr ⟨rfl, fun s hs =>
              h.single _ hlist s hs spec List.mem_cons_self⟩
          change ([spec].filter _).map withoutId = ((spec :: list).map withoutId).dedup
          rw [hsame, List.map_replicate, List.replicate_dedup (Nat.succ_ne_zero _),
            List.filter_cons, hempty]
          rfl

/-- What a file gives back of a collection that can be written. -/
theorem exists_convert (bigEndian isV1 : Bool) {c : SpecCollection} (h : Convertible c)
    (hcodes : ∀ spec ∈ specs c, HasItemCode spec) (hrates : ∀ spec ∈ specs c, HasRate spec)
    (hfits : Fits c) :
    ∃ result, convert bigEndian isV1 c = .ok result ∧
      (∀ z, result.rtIndexToSpecs.getD z [] =
        if z < monsterCount isV1 then ((c.rtIndexToSpecs.getD z []).map withoutId).dedup else []) ∧
      ∀ areaNorm, result.boxAreaNormToSpecs.getD areaNorm [] =
        (c.boxAreaNormToSpecs.getD areaNorm []).map withoutId := by
  obtain ⟨monsterDrops, hmonsters, hmarks⟩ := exists_written_monsters h hcodes hrates
  obtain ⟨boxDrops, hboxes, hstored⟩ := exists_written_boxes h hcodes hrates
  have hcount : monsterCount isV1 ≤ 0x65 := by
    cases isV1 <;> decide
  have hmonstersLength : monsterDrops.length = c.rtIndexToSpecs.length :=
    hmarks.length_eq.symm.trans (List.length_map _)
  have hboxesLength : boxDrops.length = c.boxAreaNormToSpecs.flatten.length :=
    hstored.length_eq.symm.trans (length_boxRaresFrom _ 0)
  unfold Fits at hfits
  obtain ⟨data, hserialize, hparse⟩ := exists_parse_serialize bigEndian isV1 hmonsters hboxes hstored
    (by omega)
  refine ⟨_, bind_of_ok ((ofCollection_eq_ok hcodes).mpr ⟨rfl, h.single, h.areas⟩)
    (bind_of_ok hserialize (bind_of_ok hparse rfl)), fun z => ?_, fun areaNorm => ?_⟩
  · rw [getD_rtIndexToSpecs, filter_padded isV1 hmarks, filter_written h hcodes]
  · have hfilter := filter_boxRaresFrom (k := 0)
      (fun list hlist spec hspec => hcodes spec (mem_specs_of_mem_boxAreaNormToSpecs hlist hspec))
      (by rw [Nat.zero_add]; exact h.areas) areaNorm
    rw [if_pos (Nat.zero_le _)] at hfilter
    rw [getD_boxAreaNormToSpecs, List.filter_map, List.map_map]
    change ((written c).boxRares.filter (belongsToArea areaNorm)).map
      (withoutId ∘ BoxRare.drop) = _
    rw [← List.map_map]
    exact congrArg (List.map withoutId) hfilter

/-- Only such a collection is written. -/
theorem convertible_of_convert {bigEndian isV1 : Bool} {c result : SpecCollection}
    (hcodes : ∀ spec ∈ specs c, HasItemCode spec) (h : convert bigEndian isV1 c = .ok result) :
    Convertible c := by
  obtain ⟨rel, hrel, h⟩ := bind_eq_ok.mp h
  obtain ⟨data, hdata, -⟩ := bind_eq_ok.mp h
  obtain ⟨rfl, hsingle, hareas⟩ := (ofCollection_eq_ok hcodes).mp hrel
  obtain ⟨monsterDrops, hmonsters, hdata⟩ := bind_eq_ok.mp hdata
  obtain ⟨boxDrops, hboxes, -⟩ := bind_eq_ok.mp hdata
  refine ⟨hsingle, hareas, fun spec hspec => ?_⟩
  rcases List.mem_append.mp hspec with hspec | hspec
  · obtain ⟨list, hlist, hspec⟩ := List.mem_flatten.mp hspec
    have hhead : list.headD {} ∈ list := by
      cases list with
      | nil => cases hspec
      | cons first list => exact List.mem_cons_self
    obtain ⟨drop, hdrop⟩ := eq_ok_of_mapM hmonsters (List.mem_map_of_mem hlist)
    rw [hsingle list hlist spec hspec _ hhead]
    exact plain_of_ofExpanded hdrop
  · obtain ⟨boxRare, hbox, rfl⟩ := exists_mem_boxRaresFrom 0 hspec
    obtain ⟨drop, hdrop⟩ := eq_ok_of_mapM hboxes hbox
    exact plain_of_ofExpanded hdrop

/-- Below 2^32 bytes a file gives back the collection, or none is written,
unless a monster behind the last one that is read has specifications. -/
theorem collectionRoundTrips_iff (bigEndian isV1 : Bool) {c : SpecCollection}
    (hcodes : ∀ spec ∈ specs c, HasItemCode spec) (hrates : ∀ spec ∈ specs c, HasRate spec)
    (hfits : Fits c) :
    RoundTrips bigEndian isV1 c ↔
      (Convertible c → ∀ z, monsterCount isV1 ≤ z → c.rtIndexToSpecs.getD z [] = []) := by
  constructor
  · intro h hconvertible z hz
    obtain ⟨result, hresult, hmonsters, -⟩ :=
      exists_convert bigEndian isV1 hconvertible hcodes hrates hfits
    have hdedup := (h result hresult).1 z
    rw [hmonsters, if_neg (Nat.not_lt.mpr hz)] at hdedup
    exact List.map_eq_nil_iff.mp ((List.dedup_eq_nil _).mp hdedup.symm)
  · intro h result hresult
    have hconvertible := convertible_of_convert hcodes hresult
    obtain ⟨result', hresult', hmonsters, hboxes⟩ :=
      exists_convert bigEndian isV1 hconvertible hcodes hrates hfits
    obtain rfl := Except.ok.inj (hresult.symm.trans hresult')
    refine ⟨fun z => ?_, hboxes⟩
    rw [hmonsters]
    rcases Nat.lt_or_ge z (monsterCount isV1) with hz | hz
    · rw [if_pos hz]
    · rw [if_neg (Nat.not_lt.mpr hz), h hconvertible z hz]
      rfl

def sampleDrop : ExpandedDrop :=
  ⟨expandRate 0x80, ⟨#v[0, 1, 2, 0, 0, 0, 0, 0, 0, 0, 0, 0], 0xFFFFFFFF, 0⟩⟩

theorem hasItemCode_sampleDrop : HasItemCode sampleDrop := .inr (.inl (by decide))

theorem hasRate_sampleDrop : HasRate sampleDrop := ⟨0x80, rfl⟩

/-- A monster of two equal specifications and an area of two boxes. -/
def sampleCollection : SpecCollection :=
  ⟨[[], [sampleDrop, sampleDrop]], [[], [sampleDrop, sampleDrop]]⟩

theorem roundTrips_sampleCollection : RoundTrips true true sampleCollection := by
  refine (collectionRoundTrips_iff true true ?_ ?_ (by unfold Fits; decide)).mpr fun _ z hz => ?_
  · intro spec hspec
    have hmem : spec = sampleDrop := by
      simpa [specs, sampleCollection] using hspec
    rw [hmem]
    exact hasItemCode_sampleDrop
  · intro spec hspec
    have hmem : spec = sampleDrop := by
      simpa [specs, sampleCollection] using hspec
    rw [hmem]
    exact hasRate_sampleDrop
  · have hlength : sampleCollection.rtIndexToSpecs.length ≤ z := le_trans (by decide) hz
    exact List.getD_eq_default _ _ hlength

/-- A collection whose only specification is behind the monsters of a v1 file. -/
def droppedCollection : SpecCollection :=
  ⟨List.replicate 0x33 [] ++ [[sampleDrop]], []⟩

/-- Its file is written and read, and it has no monster at all. -/
theorem not_roundTrips_droppedCollection :
    (∀ spec ∈ specs droppedCollection, HasItemCode spec ∧ HasRate spec) ∧
      convert false true droppedCollection = .ok {} ∧
      ¬ RoundTrips false true droppedCollection := by
  have hconvert : convert false true droppedCollection = .ok {} := by
    decide +kernel
  refine ⟨?_, hconvert, fun h => ?_⟩
  · intro spec hspec
    have hmem : spec = sampleDrop := by
      simpa [specs, droppedCollection] using hspec
    rw [hmem]
    exact ⟨hasItemCode_sampleDrop, hasRate_sampleDrop⟩
  · have hempty := (h {} hconvert).1 0x33
    have hne : ((droppedCollection.rtIndexToSpecs.getD 0x33 []).map withoutId).dedup ≠ [] := by
      decide +kernel
    exact hne hempty.symm

end HuntersGuild.RareTableRoundTrips
