import HuntersGuild.CheckedLoops
import HuntersGuild.IpRangeTexts
import HuntersGuild.ItemDescriptions
import HuntersGuild.ItemRoundTrip

/-!
Descriptions of S-rank weapons: what they are read as, and which of them are
understood.
-/

namespace HuntersGuild.SRankDescriptions

open HuntersGuild.ByteStreams
open HuntersGuild.CheckedLoops
open HuntersGuild.ExceptionRules
open HuntersGuild.IpRangeTexts (Decimal)
open HuntersGuild.ItemDescriptions
open HuntersGuild.ItemEncoding
open HuntersGuild.ItemRoundTrip
open HuntersGuild.Items (ItemData StackLimits getElem_withByte)
open HuntersGuild.Numerals

/-! ## Characters -/

/-- A character that is no lower-case letter is its own lower case only. -/
theorem eq_of_toLower_eq {c d : Char} (h : c.toLower = d) (hd : ¬ (97 ≤ d.toNat ∧ d.toNat ≤ 122)) :
    c = d := by
  change dite _ _ _ = d at h
  split at h
  · next hupper =>
    obtain ⟨hge, hle⟩ := hupper
    have hvalue := congrArg UInt32.toNat (congrArg Char.val h)
    rw [UInt32.toNat_add] at hvalue
    rw [ge_iff_le, UInt32.le_iff_toNat_le] at hge
    rw [UInt32.le_iff_toNat_le] at hle
    change 65 ≤ c.val.toNat at hge
    change c.val.toNat ≤ 90 at hle
    change (c.val.toNat + 32) % 2 ^ 32 = d.toNat at hvalue
    omega
  · exact h

/-! ## Names -/

theorem bswap16_bswap16 (v : UInt16) : bswap16 (bswap16 v) = v := by
  apply UInt16.eq_of_toBitVec_eq
  ext i hi
  interval_cases i <;> simp [bswap16]

theorem nameWord_fields (a b c : UInt16) :
    (nameWord a b c >>> 10) &&& 0x1F = a &&& 0x1F ∧ (nameWord a b c >>> 5) &&& 0x1F = b &&& 0x1F ∧
      nameWord a b c &&& 0x1F = c &&& 0x1F := by
  refine ⟨?_, ?_, ?_⟩
  all_goals
    apply UInt16.eq_of_toBitVec_eq
    ext i hi
    interval_cases i <;> simp [nameWord]

theorem firstWord_fields (b c : UInt16) :
    ((0x8000 ||| (c &&& 0x1F) ||| ((b &&& 0x1F) <<< (5 : UInt16))) >>> (5 : UInt16)) &&& 0x1F =
        b &&& 0x1F ∧
      (0x8000 ||| (c &&& 0x1F) ||| ((b &&& 0x1F) <<< (5 : UInt16))) &&& 0x1F = c &&& 0x1F ∧
      (0x8000 ||| (c &&& 0x1F) ||| ((b &&& 0x1F) <<< (5 : UInt16))) &&& 0x7C00 = 0 := by
  refine ⟨?_, ?_, ?_⟩
  all_goals
    apply UInt16.eq_of_toBitVec_eq
    ext i hi
    interval_cases i <;> simp

theorem charIndexes_putName (indexes : List UInt16) (ret : ItemData) :
    charIndexes (putName indexes ret) = (List.range 8).map fun z => indexes.getD z 0 &&& 0x1F := by
  unfold charIndexes putName
  obtain ⟨h1, h2, -⟩ := firstWord_fields (indexes.getD 0 0) (indexes.getD 1 0)
  obtain ⟨h3, h4, h5⟩ := nameWord_fields (indexes.getD 2 0) (indexes.getD 3 0) (indexes.getD 4 0)
  obtain ⟨h6, h7, h8⟩ := nameWord_fields (indexes.getD 5 0) (indexes.getD 6 0) (indexes.getD 7 0)
  simp only [data1w_withData1w, bswap16_bswap16, Fin.isValue, Fin.reduceEq, if_false, if_true, h1, h2,
    h3, h4, h5, h6, h7, h8]
  rfl

/-- The letters and the other characters that names are rendered with. -/
def nameLetters : Text := sRankNameCharacters.drop 1

def IsNameChar (c : Char) : Prop := c ∈ nameLetters ++ nameLetters.map Char.toLower

def indexOf (c : Char) : UInt16 := .ofNat (sRankNameCharacters.idxOf c.toUpper)

theorem nameChar_cases {c : Char} (h : IsNameChar c) :
    charIndex c.toLower = .ok (indexOf c) ∧ indexOf c &&& 0x1F = indexOf c ∧
      sRankNameCharacters.getD (indexOf c).toNat '\x00' = c.toUpper ∧ c.toUpper ≠ '\x00' ∧ c ≠ ' ' := by
  revert c
  apply forall_mem_of_all
  decide

structure SRankName where
  text : Text
  nonempty : text ≠ []
  length_le : text.length ≤ 8
  characters : ∀ c ∈ text, IsNameChar c
  not_special : ∀ special, some special ∈ nameForSRankSpecial → tolower text ≠ tolower special.toList

namespace SRankName

variable (self : SRankName)

def upper : Text := self.text.map Char.toUpper

theorem upper_ne_nil : self.upper ≠ [] := fun h => self.nonempty (List.map_eq_nil_iff.mp h)

theorem parseName_eq (ret : ItemData) :
    parseName (tolower self.text) ret = .ok (putName (self.text.map indexOf) ret) := by
  have hindexes : (tolower self.text).mapM charIndex = .ok (self.text.map indexOf) := by
    rw [mapM_eq_ok_iff, tolower, List.forall₂_map_left_iff, List.forall₂_map_right_iff,
      List.forall₂_same]
    exact fun c hc => (nameChar_cases (self.characters c hc)).1
  have hlength : ¬ 8 < (tolower self.text).length := by
    rw [tolower, List.length_map]
    exact Nat.not_lt.mpr self.length_le
  rw [parseName, if_neg hlength, hindexes]
  rfl

/-- What is rendered of a name that was put into an item. -/
theorem sRankName_putName (ret : ItemData) :
    sRankName (putName (self.text.map indexOf) ret) = self.upper := by
  have hlength := self.length_le
  have hchars : (charIndexes (putName (self.text.map indexOf) ret)).map
      (fun index => sRankNameCharacters.getD index.toNat '\x00') =
        self.upper ++ List.replicate (8 - self.text.length) '\x00' := by
    rw [charIndexes_putName]
    apply List.ext_getElem
    · simp [upper]
      omega
    · intro z hz hz'
      simp only [List.getElem_map, List.getElem_range]
      by_cases hlt : z < self.text.length
      · have hget : (self.text.map indexOf).getD z 0 = indexOf self.text[z] := by
          simp [List.getD_eq_getElem?_getD, hlt]
        obtain ⟨-, hmask, hchar, -, -⟩ :=
          nameChar_cases (self.characters _ (List.getElem_mem hlt))
        rw [hget, hmask, hchar, List.getElem_append_left (by simpa [upper] using hlt)]
        simp [upper]
      · have hget : (self.text.map indexOf).getD z 0 = 0 := by
          simp [List.getD_eq_getElem?_getD, Nat.le_of_not_lt hlt]
        rw [hget, List.getElem_append_right (by simpa [upper] using Nat.le_of_not_lt hlt),
          List.getElem_replicate]
        rfl
  have hname : ∀ c ∈ self.upper, decide (c ≠ '\x00') = true := by
    intro c hc
    obtain ⟨c', hc', rfl⟩ := List.mem_map.mp hc
    exact decide_eq_true (nameChar_cases (self.characters c' hc')).2.2.2.1
  rw [sRankName, hchars, List.takeWhile_append_of_pos hname]
  cases 8 - self.text.length with
  | zero => exact List.append_nil _
  | succ n => exact List.append_nil _

theorem parseSpecial_eq (ret : ItemData) : parseSpecial (tolower self.text) ret = none := by
  have hnone : nameForSRankSpecial.findIdx?
      (fun name => name.map (tolower ·.toList) = some (tolower self.text)) = none := by
    rw [List.findIdx?_eq_none_iff]
    intro name hname
    cases name with
    | none => rfl
    | some special =>
        apply decide_eq_false
        rw [Option.map_some, Option.some.injEq]
        exact fun h => self.not_special special hname h.symm
  rw [parseSpecial, hnone]
  rfl

theorem space_not_mem : ' ' ∉ self.text :=
  fun h => (nameChar_cases (self.characters _ h)).2.2.2.2 rfl

end SRankName

/-- What is not in the bytes of the name leaves it as it is. -/
theorem charIndexes_withByte (item : ItemData) {z : Fin 12} (hz : z.val < 6) (v : UInt8) :
    charIndexes (item.withByte z v) = charIndexes item := by
  unfold charIndexes
  rw [data1w_withByte item (by omega), data1w_withByte item (by omega),
    data1w_withByte item (by omega)]

theorem sRankName_withByte (item : ItemData) {z : Fin 12} (hz : z.val < 6) (v : UInt8) :
    sRankName (item.withByte z v) = sRankName item := by
  rw [sRankName, charIndexes_withByte item hz, sRankName]

theorem data1_putName (indexes : List UInt16) (ret : ItemData) {z : Nat} (hz : z < 6) :
    (putName indexes ret).data1[z] = ret.data1[z] := by
  have hword : ∀ k : Fin 6, 3 ≤ k.val → z / 2 ≠ k.val := fun k hk => by omega
  unfold putName
  dsimp only
  rw [data1_withData1w _ (hword 5 (by decide)),
    data1_withData1w _ (hword 4 (by decide)),
    data1_withData1w _ (hword 3 (by decide))]

theorem hideTypeName_putName (indexes : List UInt16) (ret : ItemData) :
    hideTypeName (putName indexes ret) = false := by
  unfold hideTypeName putName
  simp only [data1w_withData1w, bswap16_bswap16, Fin.isValue, Fin.reduceEq, if_false, if_true,
    (firstWord_fields _ _).2.2]
  rfl

theorem hideTypeName_withByte (item : ItemData) {z : Fin 12} (hz : z.val < 6) (v : UInt8) :
    hideTypeName (item.withByte z v) = hideTypeName item := by
  rw [hideTypeName, data1w_withByte item (by omega), hideTypeName]

/-! ## Specials -/

structure SRankSpecial where
  number : Nat
  name : String
  get : nameForSRankSpecial[number]? = some (some name)
  text : Text
  lower : tolower text = tolower name.toList

theorem special_cases {number : Nat} {name : String}
    (h : nameForSRankSpecial[number]? = some (some name)) :
    number ≠ 0 ∧ number < 0x11 ∧ ' ' ∉ tolower name.toList ∧
      nameForSRankSpecial.findIdx?
        (fun other => other.map (tolower ·.toList) = some (tolower name.toList)) = some number := by
  have hlt : number < 0x11 := (List.getElem?_eq_some_iff.mp h).1
  have hall : (List.range 0x11).all fun number =>
      nameForSRankSpecial[number]?.join.all fun name =>
        number ≠ 0 ∧ number < 0x11 ∧ ' ' ∉ tolower name.toList ∧
          nameForSRankSpecial.findIdx?
            (fun other => other.map (tolower ·.toList) = some (tolower name.toList)) = some number := by
    decide
  have hnumber := List.all_eq_true.mp hall number (List.mem_range.mpr hlt)
  rw [h] at hnumber
  exact of_decide_eq_true hnumber

namespace SRankSpecial

variable (self : SRankSpecial)

theorem parseSpecial_eq (ret : ItemData) :
    parseSpecial (tolower self.text) ret = some (ret.withByte 2 (.ofNat self.number)) := by
  rw [parseSpecial, self.lower, (special_cases self.get).2.2.2]
  rfl

theorem toNat_number : (UInt8.ofNat self.number).toNat = self.number :=
  UInt8.toNat_ofNat_of_lt' (Nat.lt_trans (special_cases self.get).2.1 (by decide))

theorem specialToken_eq : specialToken (.ofNat self.number) = self.name.toList := by
  rw [specialToken, self.toNat_number, self.get]

end SRankSpecial

theorem space_not_mem_of_lower {text : Text} (h : ' ' ∉ tolower text) : ' ' ∉ text :=
  fun hmem => h (List.mem_map_of_mem (f := Char.toLower) hmem)

theorem space_not_mem_tolower {text : Text} (h : ' ' ∉ text) : ' ' ∉ tolower text := by
  intro hmem
  obtain ⟨c, hc, hlower⟩ := List.mem_map.mp hmem
  have hspace := eq_of_toLower_eq hlower (by decide)
  rw [hspace] at hc
  exact h hc

/-! ## Types -/

/-- What an index has under the names of S-rank weapons. -/
structure EsEntry (index : ItemNameIndex) (metadata : ItemMetadata) : Prop where
  kind : metadata.primaryIdentifier = (metadata.primaryIdentifier >>> 16).toUInt8.toUInt32 <<< 16
  rank : ((metadata.primaryIdentifier >>> 16).toUInt8 > 0x6F ∧
      (metadata.primaryIdentifier >>> 16).toUInt8 < 0x89) ∨
    ((metadata.primaryIdentifier >>> 16).toUInt8 > 0xA4 ∧
      (metadata.primaryIdentifier >>> 16).toUInt8 < 0xAA)
  indexed : index.primaryIdentifierIndex metadata.primaryIdentifier = some metadata

/-- What the constructor keeps. -/
structure Sound (source : NameSource) (index : ItemNameIndex) : Prop where
  names : ∀ id metadata, index.primaryIdentifierIndex id = some metadata →
    metadata.primaryIdentifier = id ∧ ∃ rank, source.findName id = .ok (some (metadata.name, rank))
  esNames : ∀ key metadata, index.esNameIndex key = some metadata →
    metadata.primaryIdentifier &&& 0x0000FFFF = 0 ∧
      source.findName metadata.primaryIdentifier = .ok (some (metadata.name, true)) ∧
      index.primaryIdentifierIndex metadata.primaryIdentifier = some metadata

theorem emplace_cases {κ α : Type} [DecidableEq κ] {key k : κ} {value a : α} {index : κ → Option α}
    (h : emplace key value index k = some a) :
    index k = some a ∨ k = key ∧ a = value ∧ index key = none := by
  unfold emplace at h
  cases hkey : index key with
  | some old =>
      rw [hkey] at h
      exact .inl h
  | none =>
      rw [hkey] at h
      by_cases hk : k = key
      · subst hk
        dsimp only at h
        rw [Function.update_self] at h
        exact .inr ⟨rfl, (Option.some.inj h).symm, rfl⟩
      · dsimp only at h
        rw [Function.update_of_ne hk] at h
        exact .inl h

theorem emplace_of_some {κ α : Type} [DecidableEq κ] {key k : κ} {value a : α}
    {index : κ → Option α} (h : index k = some a) : emplace key value index k = some a := by
  unfold emplace
  cases hkey : index key with
  | some old => exact h
  | none =>
      have hk : k ≠ key := by
        rintro rfl
        rw [h] at hkey
        cases hkey
      exact (Function.update_of_ne hk _ _).trans h

theorem sound_add {source : NameSource} {index index' : ItemNameIndex} {id : UInt32}
    (h : Sound source index) (hadd : ItemNameIndex.add source index id = .ok index') :
    Sound source index' := by
  unfold ItemNameIndex.add at hadd
  split_ifs at hadd
  · obtain rfl := Except.ok.inj hadd
    exact h
  obtain ⟨found, hfind, hadd⟩ := bind_eq_ok.mp hadd
  cases found with
  | none =>
      obtain rfl := Except.ok.inj hadd
      exact h
  | some entry =>
      obtain ⟨name, rank⟩ := entry
      obtain rfl := Except.ok.inj hadd
      -- an entry that is there already is the same one
      have hself : emplace id ⟨id, name⟩ index.primaryIdentifierIndex id = some ⟨id, name⟩ := by
        cases hold : index.primaryIdentifierIndex id with
        | none =>
            rw [emplace, hold]
            exact Function.update_self _ _ _
        | some old =>
            obtain ⟨hid, rank', hname⟩ := h.names id old hold
            rw [hfind] at hname
            obtain ⟨hname, -⟩ := Prod.mk.inj (Option.some.inj (Except.ok.inj hname))
            rw [emplace_of_some hold, hname, ← hid]
      have hesOld : ∀ key metadata, index.esNameIndex key = some metadata →
          metadata.primaryIdentifier &&& 0x0000FFFF = 0 ∧
            source.findName metadata.primaryIdentifier = .ok (some (metadata.name, true)) ∧
            emplace id ⟨id, name⟩ index.primaryIdentifierIndex metadata.primaryIdentifier =
              some metadata := by
        intro key metadata hget
        obtain ⟨hbits, hname, hindexed⟩ := h.esNames key metadata hget
        exact ⟨hbits, hname, emplace_of_some hindexed⟩
      constructor
      · intro id' metadata hget
        rcases emplace_cases hget with hold | ⟨rfl, rfl, -⟩
        · exact h.names id' metadata hold
        · exact ⟨rfl, rank, hfind⟩
      · intro key metadata hget
        dsimp only at hget
        split_ifs at hget with hes
        · rcases emplace_cases hget with hold | ⟨-, rfl, -⟩
          · exact hesOld key metadata hold
          · rw [hes.1] at hfind
            exact ⟨hes.2, hfind, hself⟩
        · exact hesOld key metadata hget

theorem sound_empty (source : NameSource) : Sound source .empty := ⟨nofun, nofun⟩

theorem sound_build {source : NameSource} {ids : List UInt32} {index : ItemNameIndex}
    (h : ItemNameIndex.build source ids = .ok index) : Sound source index := by
  have hstep : ∀ (i : Nat) id index index', ids[i]? = some id → Sound source index →
      ItemNameIndex.add source index id = .ok index' → Sound source index' ∧ True :=
    fun _ _ _ _ _ hsound hadd => ⟨sound_add hsound hadd, trivial⟩
  exact (foldlM_spec (fun _ => Sound source) hstep (sound_empty source) h).1

theorem kind_of_fromPrimaryIdentifier {limits : StackLimits} {id : UInt32} {item : ItemData}
    (h : fromPrimaryIdentifier limits id = .ok item) :
    item.data1[0] = (id >>> 24).toUInt8 ∧ item.data1[1] = (id >>> 16).toUInt8 := by
  unfold fromPrimaryIdentifier at h
  dsimp only at h
  split at h
  · cases h
  · obtain ⟨stackable, -, h⟩ := bind_eq_ok.mp h
    generalize hret : (if id &&& 0xFFFF0000 = 0x03020000 then _ else _ : ItemData) = ret at h
    have hkind : ret.data1[0] = (id >>> 24).toUInt8 ∧ ret.data1[1] = (id >>> 16).toUInt8 := by
      rw [← hret]
      split <;> simp
    split at h
    · obtain rfl := Except.ok.inj h
      simpa using hkind
    · split at h
      · obtain rfl := Except.ok.inj h
        simpa using hkind
      · obtain rfl := Except.ok.inj h
        exact hkind

theorem rank_of_findName {source : NameSource} {id : UInt32} {name : Text}
    (h : source.findName id = .ok (some (name, true))) :
    ∃ item, fromPrimaryIdentifier source.limits id = .ok item ∧ item.isSRankWeapon = true := by
  unfold NameSource.findName at h
  cases hitem : fromPrimaryIdentifier source.limits id with
  | error e =>
      rw [hitem] at h
      cases e <;> cases h
  | ok item =>
      refine ⟨item, rfl, ?_⟩
      rw [hitem, ok_bind] at h
      cases hid : source.getItemId item with
      | error e =>
          rw [hid] at h
          cases e <;> cases h
      | ok itemId =>
          rw [hid, ok_bind] at h
          cases hname : source.nameColl[itemId.toNat]? with
          | none =>
              rw [hname] at h
              cases h
          | some other =>
              rw [hname] at h
              exact (Prod.mk.inj (Option.some.inj (Except.ok.inj h))).2

/-- The identifier of a weapon has its kind in one byte only. -/
theorem eq_shiftLeft_of_bits {id : UInt32} (hlow : id &&& 0x0000FFFF = 0)
    (hhigh : (id >>> 24).toUInt8 = 0) : id = (id >>> 16).toUInt8.toUInt32 <<< 16 := by
  have hlow' := congrArg UInt32.toNat hlow
  have hhigh' := congrArg UInt8.toNat hhigh
  have hlt := id.toNat_lt
  rw [UInt32.toNat_and] at hlow'
  rw [UInt32.toNat_toUInt8, UInt32.toNat_shiftRight, Nat.shiftRight_eq_div_pow] at hhigh'
  change id.toNat &&& (2 ^ 16 - 1) = 0 at hlow'
  change id.toNat / 2 ^ 24 % 2 ^ 8 = 0 at hhigh'
  rw [Nat.and_two_pow_sub_one_eq_mod] at hlow'
  apply UInt32.toNat_inj.mp
  rw [UInt32.toNat_shiftLeft, UInt8.toNat_toUInt32, UInt32.toNat_toUInt8, UInt32.toNat_shiftRight,
    Nat.shiftRight_eq_div_pow, Nat.shiftLeft_eq]
  change id.toNat = id.toNat / 2 ^ 16 % 2 ^ 8 * 2 ^ 16 % 2 ^ 32
  omega

theorem esEntry_of_build {source : NameSource} {ids : List UInt32} {index : ItemNameIndex}
    (h : ItemNameIndex.build source ids = .ok index) {key : Text} {metadata : ItemMetadata}
    (hget : index.esNameIndex key = some metadata) : EsEntry index metadata := by
  obtain ⟨hlow, hname, hindexed⟩ := (sound_build h).esNames key metadata hget
  obtain ⟨item, hitem, hrank⟩ := rank_of_findName hname
  obtain ⟨h0, h1⟩ := kind_of_fromPrimaryIdentifier hitem
  have hranges := of_decide_eq_true hrank
  rw [h0, h1] at hranges
  exact ⟨eq_shiftLeft_of_bits hlow hranges.1, hranges.2, hindexed⟩

structure EsType (index : ItemNameIndex) where
  text : Text
  metadata : ItemMetadata
  get : index.esNameIndex (tolower text) = some metadata
  nonempty : text ≠ []
  one_word : ' ' ∉ text

variable {index : ItemNameIndex}

def EsType.kind (self : EsType index) : UInt8 := (self.metadata.primaryIdentifier >>> 16).toUInt8

theorem EsType.parseType_eq (self : EsType index) (h : EsEntry index self.metadata)
    (ret : ItemData) :
    index.parseType (tolower self.text) ret = .ok (ret.withByte 1 self.kind) := by
  have hbits (kind : UInt8) : (kind.toUInt32 <<< 16) &&& 0xFF00FFFF = 0 := by
    apply UInt32.eq_of_toBitVec_eq
    ext i hi
    interval_cases i <;> simp
  have hvalid : self.metadata.primaryIdentifier &&& 0xFF00FFFF = 0 := by
    rw [h.kind]
    exact hbits _
  simp only [ItemNameIndex.parseType, self.get, hvalid, ne_eq, not_true_eq_false, if_false]
  rfl

/-! ## Grinds -/

/-- What is read of a grind. -/
theorem parseGrind_plus (grind : Decimal 255) :
    ∃ value : UInt8, (∀ ret, parseGrind ('+' :: grind.text) ret = .ok (some (ret.withByte 3 value))) ∧
      (value.toNat = grind.value ↔ (grind.text.head? = some '0' → grind.value ≤ 7)) := by
  have hle := grind.le
  obtain ⟨magnitude, rest, hread, hmagnitude, hiff⟩ :=
    stoul_zero grind.digits (Nat.lt_of_le_of_lt hle (by decide))
  refine ⟨(UInt64.ofNat magnitude).toUInt8, fun ret => ?_, ?_⟩
  · rw [parseGrind, hread]
  · rw [← hiff, UInt64.toNat_toUInt8, UInt64.toNat_ofNat_of_lt' (Nat.lt_of_le_of_lt
      (Nat.le_trans hmagnitude hle) (by decide)), Nat.mod_eq_of_lt (by omega)]

theorem tolower_digits (grind : Decimal 255) : tolower grind.text = grind.text := by
  have hsame : ∀ c ∈ grind.text, c.toLower = c := by
    intro c hc
    have hdigit := isDigit_of_digit?_ten (grind.digits.digits c hc)
    rw [Char.isDigit_iff_toNat] at hdigit
    have hnot : ¬ (c.val ≥ 'A'.val ∧ c.val ≤ 'Z'.val) := by
      rintro ⟨hge, -⟩
      rw [ge_iff_le, UInt32.le_iff_toNat_le] at hge
      exact Nat.not_lt.mpr hge (Nat.lt_of_le_of_lt hdigit.2 (by decide))
    exact dif_neg hnot
  rw [tolower, List.map_congr_left hsame, List.map_id']

theorem parseGrind_of_head_ne {token : Text} (h : token.head? ≠ some '+') (ret : ItemData) :
    parseGrind token ret = .ok none := by
  unfold parseGrind
  split
  · exact absurd rfl h
  · rfl

theorem head_tolower {text : Text} (h : text.head? ≠ some '+') : (tolower text).head? ≠ some '+' := by
  cases text with
  | nil => exact h
  | cons c cs =>
      intro hhead
      have hplus := eq_of_toLower_eq (Option.some.inj hhead) (by decide)
      exact h (congrArg some hplus)

/-! ## Descriptions -/

/-- A text of the form `ES [NAME] [SPECIAL] TYPE [+GRIND]`. -/
structure Description (index : ItemNameIndex) where
  es : Text
  es_lower : tolower es = "es".toList
  name : Option SRankName
  special : Option SRankSpecial
  type : EsType index
  grind : Option (Decimal 255)

namespace Description

variable (self : Description index)

def tokens : List Text :=
  self.es :: ((self.name.map SRankName.text).toList ++ (self.special.map SRankSpecial.text).toList ++
    self.type.text :: (self.grind.map fun grind => '+' :: grind.text).toList)

def text : Text := join self.tokens

def specialNumber : Nat := (self.special.map SRankSpecial.number).getD 0

def grindValue : Nat := (self.grind.map Decimal.value).getD 0

def upperName : Text := (self.name.map SRankName.upper).getD []

/-- The description that is rendered of the weapon. -/
def rendered : Text :=
  join ((self.special.map (·.name.toList)).toList ++ [self.type.metadata.name] ++
    (if self.grindValue = 0 then [] else ['+' :: Nat.toDigits 10 self.grindValue]) ++
    (self.name.map fun name => '(' :: (name.upper ++ [')'])).toList)

/-- What the description says of the weapon. -/
structure Describes (description : Description index) (item : ItemData) : Prop where
  sRank : item.isSRankWeapon = true
  type : item.primaryIdentifier = description.type.metadata.primaryIdentifier
  special : item.data1[2].toNat = description.specialNumber
  grind : item.data1[3].toNat = description.grindValue
  name : sRankName item = description.upperName
  rendered : index.describeSRankWeapon item false false = description.rendered

/-- The descriptions that are read as they are meant. Something other than the
type has to be there, a type at the end has to look like nothing else, and a
grind is octal when it begins with a zero. -/
structure Understood (description : Description index) : Prop where
  some_part : description.name.isSome ∨ description.special.isSome ∨ description.grind.isSome
  type_last : description.grind = none →
    tolower description.type.text ≠ "meseta".toList ∧ description.type.text.head? ≠ some '+'
  decimal : ∀ grind ∈ description.grind, grind.text.head? = some '0' → grind.value ≤ 7

/-! ### Tokens -/

theorem space_not_mem_tokens : ∀ token ∈ self.tokens.map tolower, ' ' ∉ token := by
  intro token htoken
  obtain ⟨token, hmem, rfl⟩ := List.mem_map.mp htoken
  apply space_not_mem_tolower
  unfold tokens at hmem
  simp only [List.mem_cons, List.mem_append, Option.mem_toList, Option.map_eq_some_iff] at hmem
  rcases hmem with rfl | (⟨name, -, rfl⟩ | ⟨special, -, rfl⟩) | rfl | ⟨grind, -, rfl⟩
  · apply space_not_mem_of_lower
    rw [self.es_lower]
    decide
  · exact name.space_not_mem
  · apply space_not_mem_of_lower
    rw [special.lower]
    exact (special_cases special.get).2.2.1
  · exact self.type.one_word
  · rintro (_ | ⟨_, hmem⟩)
    exact grind.not_mem (by decide) hmem

theorem tolower_join (tokens : List Text) : tolower (join tokens) = join (tokens.map tolower) := by
  unfold join
  induction tokens with
  | nil => rfl
  | cons token tokens ih =>
      cases tokens with
      | nil => simp [tolower]
      | cons token' tokens' =>
          rw [List.intercalate_cons_cons, List.map_cons, List.map_cons, List.intercalate_cons_cons,
            ← List.map_cons, ← ih]
          simp [tolower]

theorem splitOn_text : (tolower self.text).splitOn ' ' = self.tokens.map tolower := by
  rw [text, tolower_join]
  exact List.splitOn_intercalate ' ' self.space_not_mem_tokens (by simp [tokens])

theorem join_append_singleton {init : List Text} (hne : init ≠ []) (last : Text) :
    join (init ++ [last]) = join init ++ ' ' :: last := by
  unfold join
  induction init with
  | nil => exact absurd rfl hne
  | cons token init ih =>
      cases init with
      | nil => simp [List.intercalate_cons_cons]
      | cons token' init' =>
          have hrest := ih (List.cons_ne_nil _ _)
          rw [List.cons_append] at hrest
          rw [List.cons_append, List.cons_append, List.intercalate_cons_cons,
            List.intercalate_cons_cons, hrest]
          simp

/-- The last word of a text is what follows its last space. -/
theorem isSuffixOf_join_iff {init : List Text} {last word : Text} (hne : init ≠ [])
    (hlast : ' ' ∉ last) (hword : ' ' ∉ word) :
    (' ' :: word).isSuffixOf (join (init ++ [last])) = true ↔ last = word := by
  rw [join_append_singleton hne, List.isSuffixOf_iff_suffix]
  constructor
  · rintro ⟨front, hfront⟩
    have htake (front token : Text) (h : ' ' ∉ token) :
        (front ++ ' ' :: token).reverse.takeWhile (· ≠ ' ') = token.reverse := by
      have hall : ∀ c ∈ token.reverse, decide (c ≠ ' ') = true := fun c hc =>
        decide_eq_true (ne_of_mem_of_not_mem (List.mem_reverse.mp hc) h)
      rw [List.reverse_append, List.reverse_cons, List.append_assoc,
        List.takeWhile_append_of_pos hall]
      exact List.append_nil _
    apply List.reverse_injective
    rw [← htake (join init) last hlast, ← hfront, htake front word hword]
  · rintro rfl
    exact List.suffix_append _ _

theorem exists_tolower_text : ∃ cs, tolower self.text = 'e' :: 's' :: ' ' :: cs := by
  have hne : ((self.name.map SRankName.text).toList ++
      (self.special.map SRankSpecial.text).toList ++
        self.type.text :: (self.grind.map fun grind => '+' :: grind.text).toList).map tolower ≠ [] := by
    simp
  rw [text, tolower_join, tokens, List.map_cons, self.es_lower, join,
    List.intercalate_cons_of_ne_nil hne]
  exact ⟨_, rfl⟩

/-! ### Reading -/

def lastToken : Text := (self.grind.map fun grind => '+' :: grind.text).getD self.type.text

theorem exists_tokens : ∃ init, init ≠ [] ∧ self.tokens = init ++ [self.lastToken] := by
  unfold tokens lastToken
  cases self.grind with
  | none => exact ⟨_ :: _, List.cons_ne_nil _ _, rfl⟩
  | some grind =>
      refine ⟨self.es :: ((self.name.map SRankName.text).toList ++
        (self.special.map SRankSpecial.text).toList ++ [self.type.text]), List.cons_ne_nil _ _, ?_⟩
      simp

theorem isSuffixOf_text_iff :
    " meseta".toList.isSuffixOf (tolower self.text) = true ↔
      self.grind = none ∧ tolower self.type.text = "meseta".toList := by
  obtain ⟨init, hne, htokens⟩ := self.exists_tokens
  have hspace := self.space_not_mem_tokens (tolower self.lastToken)
  have hne' : init.map tolower ≠ [] := fun h => hne (List.map_eq_nil_iff.mp h)
  have hsuffix : " meseta".toList.isSuffixOf (tolower self.text) = true ↔
      tolower self.lastToken = "meseta".toList := by
    rw [text, tolower_join, htokens, List.map_append, List.map_singleton]
    exact isSuffixOf_join_iff hne' (hspace (by simp [htokens])) (by decide)
  rw [hsuffix, lastToken]
  cases self.grind with
  | none => simp
  | some grind =>
      simp only [Option.map_some, Option.getD_some, reduceCtorEq, false_and, iff_false]
      intro hlast
      cases hlast

/-- A word at the end decides whether the text is taken for an amount of meseta. -/
theorem parse_text (parseOther : Text → Bool → Except Exception ItemData) (skipSpecial : Bool) :
    index.parseItemDescriptionPhase parseOther self.text skipSpecial =
      if self.grind = none ∧ tolower self.type.text = "meseta".toList then
        .error (.invalidArgument "stol")
      else
        index.parseEsDescription (tolower self.text) := by
  obtain ⟨cs, hcs⟩ := self.exists_tolower_text
  have hsuffix := self.isSuffixOf_text_iff
  have hprefix : "es ".toList.isPrefixOf (tolower self.text) = true := by
    rw [hcs]
    rfl
  have hstol : stoll 10 (tolower self.text) = .error .invalidArgument := by
    rw [hcs]
    rfl
  unfold ItemNameIndex.parseItemDescriptionPhase
  dsimp only
  rw [hstol, if_pos hprefix]
  by_cases hmeseta : self.grind = none ∧ tolower self.type.text = "meseta".toList
  · rw [if_pos (hsuffix.mpr hmeseta), if_pos hmeseta]
    rfl
  · rw [if_neg fun h => hmeseta (hsuffix.mp h), if_neg hmeseta]

/-- What is written into the item so far. -/
structure Written (item : ItemData) (kind special grind : UInt8) (name : Text) : Prop where
  weapon : item.data1[0] = 0
  kind : item.data1[1] = kind
  special : item.data1[2] = special
  grind : item.data1[3] = grind
  name : sRankName item = name
  hideTypeName : hideTypeName item = false

namespace Written

variable {item : ItemData} {kind special grind : UInt8} {name : Text}

theorem cleared : Written .cleared 0 0 0 [] := ⟨rfl, rfl, rfl, rfl, by decide, by decide⟩

theorem putIndexes (h : Written item kind special grind name) (indexes : List UInt16) :
    Written (ItemDescriptions.putName indexes item) kind special grind
      (sRankName (ItemDescriptions.putName indexes item)) := by
  constructor
  · rw [data1_putName _ _ (by omega), h.weapon]
  · rw [data1_putName _ _ (by omega), h.kind]
  · rw [data1_putName _ _ (by omega), h.special]
  · rw [data1_putName _ _ (by omega), h.grind]
  · rfl
  · exact hideTypeName_putName indexes item

theorem putName (h : Written item kind special grind name) (name' : SRankName) :
    Written (putName (name'.text.map indexOf) item) kind special grind name'.upper := by
  rw [← name'.sRankName_putName item]
  exact h.putIndexes _

theorem withKind (h : Written item kind special grind name) (v : UInt8) :
    Written (item.withByte 1 v) v special grind name := by
  constructor
  · rw [getElem_withByte, if_neg (by decide), h.weapon]
  · exact (getElem_withByte item 1 v 1).trans (if_pos rfl)
  · rw [getElem_withByte, if_neg (by decide), h.special]
  · rw [getElem_withByte, if_neg (by decide), h.grind]
  · rw [sRankName_withByte item (by decide), h.name]
  · rw [hideTypeName_withByte item (by decide), h.hideTypeName]

theorem withSpecial (h : Written item kind special grind name) (v : UInt8) :
    Written (item.withByte 2 v) kind v grind name := by
  constructor
  · rw [getElem_withByte, if_neg (by decide), h.weapon]
  · rw [getElem_withByte, if_neg (by decide), h.kind]
  · exact (getElem_withByte item 2 v 2).trans (if_pos rfl)
  · rw [getElem_withByte, if_neg (by decide), h.grind]
  · rw [sRankName_withByte item (by decide), h.name]
  · rw [hideTypeName_withByte item (by decide), h.hideTypeName]

theorem withGrind (h : Written item kind special grind name) (v : UInt8) :
    Written (item.withByte 3 v) kind special v name := by
  constructor
  · rw [getElem_withByte, if_neg (by decide), h.weapon]
  · rw [getElem_withByte, if_neg (by decide), h.kind]
  · rw [getElem_withByte, if_neg (by decide), h.special]
  · exact (getElem_withByte item 3 v 3).trans (if_pos rfl)
  · rw [sRankName_withByte item (by decide), h.name]
  · rw [hideTypeName_withByte item (by decide), h.hideTypeName]

end Written

theorem map_tolower_tokens :
    self.tokens.map tolower = tolower self.es :: ((self.name.map (tolower ·.text)).toList ++
      (self.special.map (tolower ·.text)).toList ++
        tolower self.type.text :: (self.grind.map fun grind => '+' :: grind.text).toList) := by
  have hgrind (grind : Decimal 255) : tolower ('+' :: grind.text) = '+' :: grind.text := by
    rw [tolower, List.map_cons, ← tolower, tolower_digits]
    rfl
  unfold tokens
  cases self.name <;> cases self.special <;> cases self.grind <;> simp [hgrind]

/-- What a text is read as when nothing in it is taken for something else. -/
theorem exists_parse (hentry : EsEntry index self.type.metadata)
    (hpart : self.name.isSome ∨ self.special.isSome ∨ self.grind.isSome)
    (hlast : self.grind = none → self.type.text.head? ≠ some '+') :
    ∃ item value, index.parseEsDescription (tolower self.text) = .ok item ∧
      Written item self.type.kind (.ofNat self.specialNumber) value self.upperName ∧
      (value.toNat = self.grindValue ↔
        ∀ grind ∈ self.grind, grind.text.head? = some '0' → grind.value ≤ 7) := by
  rw [ItemNameIndex.parseEsDescription, self.splitOn_text, self.map_tolower_tokens]
  obtain ⟨es, hes, name, special, type, grind⟩ := self
  dsimp only at hentry hpart hlast
  have htype := type.parseType_eq hentry
  cases grind with
  | none =>
      have hgrind := parseGrind_of_head_ne (head_tolower (hlast rfl))
      cases name with
      | none =>
          cases special with
          | none => simp at hpart
          | some special =>
              have hwritten := (Written.cleared.withSpecial (.ofNat special.number)).withKind type.kind
              refine ⟨_, 0, ?_, hwritten, by simp [grindValue]⟩
              simp [hgrind, special.parseSpecial_eq, htype]
      | some name =>
          have hname := Written.cleared.putName name
          cases special with
          | none =>
              refine ⟨_, 0, ?_, hname.withKind type.kind, by simp [grindValue]⟩
              simp [hgrind, name.parseSpecial_eq, name.parseName_eq, htype]
          | some special =>
              have hwritten := (hname.withSpecial (.ofNat special.number)).withKind type.kind
              refine ⟨_, 0, ?_, hwritten, by simp [grindValue]⟩
              simp [hgrind, name.parseName_eq, special.parseSpecial_eq, htype]
  | some grind =>
      obtain ⟨value, hread, hvalue⟩ := parseGrind_plus grind
      have hiff : value.toNat = grind.value ↔
          ∀ grind' ∈ some grind, grind'.text.head? = some '0' → grind'.value ≤ 7 := by
        simpa using hvalue
      have hgrind := Written.cleared.withGrind value
      cases name with
      | none =>
          cases special with
          | none =>
              refine ⟨_, value, ?_, hgrind.withKind type.kind, hiff⟩
              simp [hread, htype]
          | some special =>
              have hwritten := (hgrind.withSpecial (.ofNat special.number)).withKind type.kind
              refine ⟨_, value, ?_, hwritten, hiff⟩
              simp [hread, special.parseSpecial_eq, htype]
      | some name =>
          cases special with
          | none =>
              refine ⟨_, value, ?_, (hgrind.putName name).withKind type.kind, hiff⟩
              simp [hread, name.parseSpecial_eq, name.parseName_eq, htype]
          | some special =>
              have hwritten := (((Written.cleared.putName name).withSpecial
                (.ofNat special.number)).withKind type.kind).withGrind value
              refine ⟨_, value, ?_, hwritten, hiff⟩
              simp [hread, name.parseName_eq, special.parseSpecial_eq, htype]

/-- Something is written of a type that begins with a plus, or it is refused. -/
theorem eq_withByte_of_parseGrind {token : Text} {ret : ItemData} {result : Option ItemData}
    (hhead : token.head? = some '+') (h : parseGrind token ret = .ok result) :
    ∃ value, result = some (ret.withByte 3 value) := by
  obtain ⟨digits, rfl⟩ := List.head?_eq_some_iff.mp hhead
  unfold parseGrind at h
  split at h
  · split at h
    · obtain rfl := Except.ok.inj h
      exact ⟨_, rfl⟩
    · cases h
  · next hne => exact absurd rfl (hne digits)

theorem eq_putName_of_parseName {token : Text} {ret item : ItemData}
    (h : parseName token ret = .ok item) : ∃ indexes, item = putName indexes ret := by
  unfold parseName at h
  split_ifs at h
  obtain ⟨indexes, -, h⟩ := bind_eq_ok.mp h
  exact ⟨indexes, (Except.ok.inj h).symm⟩

theorem eq_withByte_of_parseType {token : Text} {ret item : ItemData}
    (h : index.parseType token ret = .ok item) : ∃ kind, item = ret.withByte 1 kind := by
  unfold ItemNameIndex.parseType at h
  split at h
  · cases h
  · split_ifs at h
    obtain rfl := Except.ok.inj h
    exact ⟨_, rfl⟩

theorem number_ne_zero {special : SRankSpecial} : UInt8.ofNat special.number ≠ 0 := by
  intro h
  have hzero := congrArg UInt8.toNat h
  rw [special.toNat_number] at hzero
  exact (special_cases special.get).1 hzero

theorem toNat_specialNumber : (UInt8.ofNat self.specialNumber).toNat = self.specialNumber := by
  unfold specialNumber
  cases self.special with
  | none => rfl
  | some special => exact special.toNat_number

theorem specialTokens_eq :
    (if UInt8.ofNat self.specialNumber ≠ 0 then [specialToken (.ofNat self.specialNumber)] else []) =
      (self.special.map (·.name.toList)).toList := by
  unfold specialNumber
  cases self.special with
  | none => rfl
  | some special => exact (if_pos number_ne_zero).trans (congrArg (fun token => [token]) special.specialToken_eq)

theorem nameTokens_eq :
    (if self.upperName = [] then [] else ['(' :: (self.upperName ++ [')'])]) =
      (self.name.map fun name => '(' :: (name.upper ++ [')'])).toList := by
  unfold upperName
  cases self.name with
  | none => rfl
  | some name => exact if_neg name.upper_ne_nil

/-- What is rendered of a weapon that everything was written into. -/
theorem rendered_of_written {item : ItemData} {value : UInt8}
    (h : Written item self.type.kind (.ofNat self.specialNumber) value self.upperName)
    (hindexed : index.primaryIdentifierIndex item.primaryIdentifier = some self.type.metadata)
    (hvalue : value.toNat = self.grindValue) :
    index.describeSRankWeapon item false false = self.rendered := by
  have hgrind : (if value > 0 then ['+' :: Nat.toDigits 10 value.toNat] else []) =
      if self.grindValue = 0 then [] else ['+' :: Nat.toDigits 10 self.grindValue] := by
    rw [← hvalue]
    have hpos : value > 0 ↔ ¬ value.toNat = 0 := by
      rw [gt_iff_lt, UInt8.lt_iff_toNat_lt]
      exact Nat.pos_iff_ne_zero
    simp only [hpos, ite_not]
  unfold ItemNameIndex.describeSRankWeapon rendered
  simp only [h.special, h.grind, h.name, h.hideTypeName, hindexed, Bool.not_false, true_and,
    Bool.false_eq_true, if_false, hgrind, self.specialTokens_eq, self.nameTokens_eq]

theorem describes_iff_of_written (hentry : EsEntry index self.type.metadata) {item : ItemData}
    {value : UInt8}
    (h : Written item self.type.kind (.ofNat self.specialNumber) value self.upperName) :
    self.Describes item ↔ value.toNat = self.grindValue := by
  constructor
  · intro hdescribes
    rw [← hdescribes.grind, h.grind]
  · intro hvalue
    have hrank : item.isSRankWeapon = true := by
      rw [ItemData.isSRankWeapon, h.weapon, h.kind]
      exact decide_eq_true ⟨rfl, hentry.rank⟩
    have htype : item.primaryIdentifier = self.type.metadata.primaryIdentifier := by
      rw [ItemData.primaryIdentifier, hrank, h.weapon, h.kind, hentry.kind]
      simp [EsType.kind]
    constructor
    · exact hrank
    · exact htype
    · rw [h.special, self.toNat_specialNumber]
    · rw [h.grind, hvalue]
    · exact h.name
    · apply self.rendered_of_written h
      · rw [htype, hentry.indexed]
      · exact hvalue

theorem not_describes_of_special {item : ItemData} {kind grind : UInt8} {name : Text}
    {special : SRankSpecial} (hspecial : self.special = some special)
    (h : Written item kind 0 grind name) : ¬ self.Describes item := by
  intro hdescribes
  have hnumber := hdescribes.special
  rw [h.special, specialNumber, hspecial] at hnumber
  exact (special_cases special.get).1 hnumber.symm

theorem not_describes_of_name {item : ItemData} {kind special grind : UInt8} {name : SRankName}
    (hname : self.name = some name) (h : Written item kind special grind []) :
    ¬ self.Describes item := by
  intro hdescribes
  have hupper := hdescribes.name
  rw [h.name, upperName, hname] at hupper
  exact name.upper_ne_nil hupper.symm

theorem not_describes_of_kind {item : ItemData} {special grind : UInt8} {name : Text}
    (h : Written item 0 special grind name) : ¬ self.Describes item := by
  intro hdescribes
  have hrank := hdescribes.sRank
  rw [ItemData.isSRankWeapon, h.weapon, h.kind] at hrank
  exact absurd hrank (by decide)

/-- A description that has nothing but its type, or whose type looks like a
grind, is read as something else. -/
theorem parts_of_describes {item : ItemData}
    (h : index.parseEsDescription (tolower self.text) = .ok item) (hdescribes : self.Describes item) :
    (self.name.isSome ∨ self.special.isSome ∨ self.grind.isSome) ∧
      (self.grind = none → self.type.text.head? ≠ some '+') := by
  rw [ItemNameIndex.parseEsDescription, self.splitOn_text, self.map_tolower_tokens] at h
  cases hgrind : self.grind with
  | some grind => exact ⟨.inr (.inr rfl), nofun⟩
  | none =>
      -- the last token is the type, and it is tried as a grind first
      have hplus (htype : self.type.text.head? = some '+') :
          (tolower self.type.text).head? = some '+' := by
        rw [tolower, List.head?_map, htype]
        rfl
      cases hname : self.name with
      | none =>
          cases hspecial : self.special with
          | none =>
              rw [hgrind, hname, hspecial] at h
              obtain ⟨indexes, rfl⟩ := eq_putName_of_parseName h
              exact absurd hdescribes (self.not_describes_of_kind (Written.cleared.putIndexes indexes))
          | some special =>
              refine ⟨.inr (.inl rfl), fun _ htype => ?_⟩
              rw [hgrind, hname, hspecial] at h
              obtain ⟨result, hread, h⟩ := bind_eq_ok.mp h
              obtain ⟨value, rfl⟩ := eq_withByte_of_parseGrind (hplus htype) hread
              obtain ⟨kind, rfl⟩ := eq_withByte_of_parseType h
              exact self.not_describes_of_special hspecial
                ((Written.cleared.withGrind value).withKind kind) hdescribes
      | some name =>
          refine ⟨.inl rfl, fun _ htype => ?_⟩
          cases hspecial : self.special with
          | none =>
              rw [hgrind, hname, hspecial] at h
              obtain ⟨result, hread, h⟩ := bind_eq_ok.mp h
              obtain ⟨value, rfl⟩ := eq_withByte_of_parseGrind (hplus htype) hread
              obtain ⟨kind, rfl⟩ := eq_withByte_of_parseType h
              exact self.not_describes_of_name hname
                ((Written.cleared.withGrind value).withKind kind) hdescribes
          | some special =>
              rw [hgrind, hname, hspecial] at h
              obtain ⟨result, hread, h⟩ := bind_eq_ok.mp h
              obtain ⟨value, rfl⟩ := eq_withByte_of_parseGrind (hplus htype) hread
              simp only [name.parseSpecial_eq, name.parseName_eq, ok_bind] at h
              obtain ⟨kind, rfl⟩ := eq_withByte_of_parseType h
              exact self.not_describes_of_special hspecial
                (((Written.cleared.withGrind value).putName name).withKind kind) hdescribes

/-- What each word was for is understood when there is more than the type, when
the type at the end is not taken for a grind or for an amount of meseta, and when
no grind is read as octal. -/
theorem describes_iff_understood {source : NameSource} {ids : List UInt32}
    (h : ItemNameIndex.build source ids = .ok index)
    (parseOther : Text → Bool → Except Exception ItemData) (skipSpecial : Bool) :
    (∃ item, index.parseItemDescriptionPhase parseOther self.text skipSpecial = .ok item ∧
      self.Describes item) ↔ self.Understood := by
  have hentry := esEntry_of_build h self.type.get
  rw [self.parse_text]
  constructor
  · rintro ⟨item, hparse, hdescribes⟩
    split_ifs at hparse with hmeseta
    obtain ⟨hpart, hlast⟩ := self.parts_of_describes hparse hdescribes
    obtain ⟨item', value, hparse', hwritten, hdecimal⟩ := self.exists_parse hentry hpart hlast
    obtain rfl := Except.ok.inj (hparse'.symm.trans hparse)
    refine ⟨hpart, fun hgrind => ⟨fun htype => hmeseta ⟨hgrind, htype⟩, hlast hgrind⟩, ?_⟩
    exact hdecimal.mp ((self.describes_iff_of_written hentry hwritten).mp hdescribes)
  · rintro ⟨hpart, hlast, hdecimal⟩
    obtain ⟨item, value, hparse, hwritten, hiff⟩ :=
      self.exists_parse hentry hpart fun hgrind => (hlast hgrind).2
    have hmeseta : ¬ (self.grind = none ∧ tolower self.type.text = "meseta".toList) :=
      fun h => (hlast h.1).1 h.2
    rw [if_neg hmeseta]
    exact ⟨item, hparse, (self.describes_iff_of_written hentry hwritten).mpr (hiff.mpr hdecimal)⟩

/-! ### An index with one weapon -/

def swordSource : NameSource := ⟨⟨.bbV4, [10], 999999⟩, fun _ => .ok 0, ["SWORD".toList]⟩

def swordIndex : ItemNameIndex :=
  ⟨emplace 0x00710000 ⟨0x00710000, "SWORD".toList⟩ ItemNameIndex.empty.primaryIdentifierIndex,
    emplace "sword".toList ⟨0x00710000, "SWORD".toList⟩ ItemNameIndex.empty.esNameIndex⟩

def sword : EsType swordIndex where
  text := "SWORD".toList
  metadata := ⟨0x00710000, "SWORD".toList⟩
  get := rfl
  nonempty := by decide
  one_word := by decide

/-- `ES ZALURE SWORD +200`. -/
def zalureSword : Description swordIndex where
  es := "ES".toList
  es_lower := by decide
  name := none
  special := some ⟨2, "Zalure", rfl, "ZALURE".toList, by decide⟩
  type := sword
  grind := some ⟨"200".toList, 200, ⟨forall_mem_of_all (by decide), by decide, by decide⟩, by omega⟩

def plainSword : Description swordIndex where
  es := "ES".toList
  es_lower := by decide
  name := none
  special := none
  type := sword
  grind := none

theorem describes_iff_understood_zalureSword :
    ItemNameIndex.build swordSource [0x00710000] = .ok swordIndex ∧
      ∃ item, swordIndex.parseItemDescriptionPhase (fun _ _ => .ok .cleared) zalureSword.text
        false = .ok item ∧ zalureSword.Describes item := by
  have hbuild : ItemNameIndex.build swordSource [0x00710000] = .ok swordIndex := rfl
  refine ⟨hbuild, (zalureSword.describes_iff_understood hbuild _ false).mpr ⟨?_, ?_, ?_⟩⟩
  · exact .inr (.inl rfl)
  · exact nofun
  · rintro grind hgrind hhead
    obtain rfl := Option.some.inj hgrind
    exact absurd hhead (by decide)

/-- `ES SWORD` is read as a name, and the item is no S-rank weapon. -/
theorem not_describes_plainSword :
    ItemNameIndex.build swordSource [0x00710000] = .ok swordIndex ∧
      plainSword.text = "ES SWORD".toList ∧
      ¬ ∃ item, swordIndex.parseItemDescriptionPhase (fun _ _ => .ok .cleared) plainSword.text
        false = .ok item ∧ plainSword.Describes item := by
  refine ⟨rfl, by decide, ?_⟩
  rintro ⟨item, hparse, hdescribes⟩
  rw [plainSword.parse_text, if_neg (by decide)] at hparse
  rcases (plainSword.parts_of_describes hparse hdescribes).1 with h | h | h <;> cases h

end Description

end HuntersGuild.SRankDescriptions
