import HuntersGuild.IpRangeLookups

/-!
Address ranges as texts: what the constructor reads, and the list that a set
writes back.
-/

namespace HuntersGuild.IpRangeTexts

open HuntersGuild.ExceptionRules
open HuntersGuild.Numerals
open HuntersGuild.OrderedMaps
open HuntersGuild.IpRangeSets
open HuntersGuild.IpRangeLookups

variable {shift32 : UInt32}

/-- A decimal number up to a bound, with or without leading zeros. -/
structure Decimal (bound : Nat) where
  text : Text
  value : Nat
  digits : Digits 10 text value
  le : value ≤ bound

/-- A text of the form `a.b.c.d` or `a.b.c.d/e`. -/
structure RangeText where
  a : Decimal 255
  b : Decimal 255
  c : Decimal 255
  d : Decimal 255
  mask : Option (Decimal 32)

namespace RangeText

def addrText (self : RangeText) : Text :=
  self.a.text ++ '.' :: (self.b.text ++ '.' :: (self.c.text ++ '.' :: self.d.text))

def text (self : RangeText) : Text :=
  match self.mask with
  | none => self.addrText
  | some e => self.addrText ++ '/' :: e.text

def addr (self : RangeText) : UInt32 :=
  UInt32.ofNat (((self.a.value * 256 + self.b.value) * 256 + self.c.value) * 256 + self.d.value)

def maskBits (self : RangeText) : Nat :=
  match self.mask with
  | none => 32
  | some e => e.value

theorem maskBits_le (self : RangeText) : self.maskBits ≤ 32 := by
  unfold maskBits
  split
  · exact Nat.le_refl 32
  · exact Decimal.le _

def range (self : RangeText) : Range := ⟨self.addr, self.maskBits, self.maskBits_le⟩

end RangeText

/-! Reading. -/

theorem Decimal.not_mem {bound : Nat} (self : Decimal bound) {sep : Char} (hsep : sep.isDigit = false) :
    sep ∉ self.text := by
  intro hmem
  have := isDigit_of_digit?_ten (self.digits.digits sep hmem)
  rw [hsep] at this
  cases this

theorem readNumber_decimal {bound : Nat} (self : Decimal bound) (hbound : bound < 2 ^ 64) :
    readNumber self.text = .ok (UInt64.ofNat self.value, []) := by
  rw [readNumber, stoul_ten self.digits (Nat.lt_of_le_of_lt self.le hbound)]

/-- One more byte at the end of an address. -/
theorem readByte_decimal (addr : Nat) (byte : Decimal 255) (haddr : addr < 2 ^ 24) :
    readByte (UInt32.ofNat addr) byte.text = .ok (UInt32.ofNat (addr * 256 + byte.value)) := by
  have hle := byte.le
  have hbyte : (UInt64.ofNat byte.value).toNat = byte.value :=
    UInt64.toNat_ofNat_of_lt' (Nat.lt_of_le_of_lt hle (by decide))
  rw [readByte, readNumber_decimal byte (by decide), ok_bind]
  have hfits : ¬ (([] : Text) ≠ [] ∨ UInt64.ofNat byte.value > 0xFF) := by
    rintro (h | h)
    · exact h rfl
    · have := UInt64.lt_iff_toNat_lt.mp h
      rw [hbyte] at this
      exact Nat.not_lt.mpr hle this
  dsimp only
  rw [if_neg hfits]
  refine congrArg Except.ok (UInt32.toNat_inj.mp ?_)
  rw [UInt32.toNat_or, UInt32.toNat_shiftLeft, UInt64.toNat_toUInt32, hbyte, UInt32.toNat_ofNat',
    UInt32.toNat_ofNat', show (8 : UInt32).toNat % 32 = 8 from rfl]
  have hshift : (addr % 2 ^ 32) <<< 8 % 2 ^ 32 = addr <<< 8 := by
    rw [Nat.shiftLeft_eq, Nat.shiftLeft_eq]
    omega
  rw [hshift, Nat.mod_eq_of_lt (show byte.value < 2 ^ 32 by omega),
    ← Nat.shiftLeft_add_eq_or_of_lt (show byte.value < 2 ^ 8 by omega), Nat.shiftLeft_eq]
  omega

theorem foldlM_readByte (self : RangeText) :
    [self.a.text, self.b.text, self.c.text, self.d.text].foldlM readByte 0 = .ok self.addr := by
  have ha := self.a.le
  have hb := self.b.le
  have hc := self.c.le
  rw [List.foldlM_cons, show (0 : UInt32) = UInt32.ofNat 0 from rfl,
    readByte_decimal 0 self.a (by decide), ok_bind, List.foldlM_cons,
    readByte_decimal _ self.b (by omega), ok_bind, List.foldlM_cons,
    readByte_decimal _ self.c (by omega), ok_bind, List.foldlM_cons,
    readByte_decimal _ self.d (by omega), ok_bind, Nat.zero_mul, Nat.zero_add]
  rfl

theorem splitOn_addrText (self : RangeText) :
    self.addrText.splitOn '.' = [self.a.text, self.b.text, self.c.text, self.d.text] := by
  rw [RangeText.addrText, List.splitOn_append_cons_self_of_not_mem (self.a.not_mem (by decide)),
    List.splitOn_append_cons_self_of_not_mem (self.b.not_mem (by decide)),
    List.splitOn_append_cons_self_of_not_mem (self.c.not_mem (by decide)),
    List.splitOn_eq_singleton (self.d.not_mem (by decide))]

theorem slash_not_mem_addrText (self : RangeText) : '/' ∉ self.addrText := by
  have hdecimal (byte : Decimal 255) : '/' ∉ byte.text := byte.not_mem (by decide)
  simp only [RangeText.addrText, List.mem_append, List.mem_cons, hdecimal, false_or, or_false]
  decide

/-- The tokens around the slash, and the mask length that they tell. -/
theorem tokens_of_text (self : RangeText) :
    (self.text.splitOn '/').headD [] = self.addrText ∧
      readMaskBits (self.text.splitOn '/') = .ok self.maskBits := by
  have hslash := slash_not_mem_addrText self
  rcases hmask : self.mask with _ | e
  · have htext : self.text = self.addrText := by rw [RangeText.text, hmask]
    have hbits : self.maskBits = 32 := by rw [RangeText.maskBits, hmask]
    rw [htext, hbits, List.splitOn_eq_singleton hslash]
    exact ⟨rfl, rfl⟩
  · have htext : self.text = self.addrText ++ '/' :: e.text := by rw [RangeText.text, hmask]
    have hbits : self.maskBits = e.value := by rw [RangeText.maskBits, hmask]
    have hle := e.le
    have hvalue : (UInt64.ofNat e.value).toNat = e.value :=
      UInt64.toNat_ofNat_of_lt' (Nat.lt_of_le_of_lt hle (by decide))
    rw [htext, hbits, List.splitOn_append_cons_self_of_not_mem hslash,
      List.splitOn_eq_singleton (e.not_mem (by decide))]
    refine ⟨rfl, ?_⟩
    rw [readMaskBits, readNumber_decimal e (by decide), ok_bind]
    have hfits : ¬ UInt64.ofNat e.value > 32 := by
      intro h
      have := UInt64.lt_iff_toNat_lt.mp h
      rw [hvalue] at this
      exact Nat.not_lt.mpr hle this
    dsimp only
    rw [if_neg hfits, hvalue]

theorem readRange_text (self : RangeText) :
    readRange shift32 self.text = .ok (self.range.entry shift32) := by
  obtain ⟨haddr, hbits⟩ := tokens_of_text self
  rw [readRange]
  simp only [hbits, haddr, splitOn_addrText, ok_bind, foldlM_readByte]
  rfl

theorem ofJson_texts (shift32 : UInt32) (texts : List RangeText) :
    IPV4RangeSet.ofJson shift32 (texts.map RangeText.text) =
      .ok (build shift32 (texts.map RangeText.range)) := by
  have hall (set : IPV4RangeSet) :
      (texts.map RangeText.text).foldlM
          (fun set text => do return set.emplace (← readRange shift32 text)) set =
        .ok ((texts.map RangeText.range).foldl
          (fun set range => set.emplace (range.entry shift32)) set) := by
    induction texts generalizing set with
    | nil => rfl
    | cons text texts ih =>
        rw [List.map_cons, List.map_cons, List.foldlM_cons, readRange_text, List.foldl_cons]
        exact ih (set.emplace (text.range.entry shift32))
  exact hall ⟨∅⟩

/-! Writing. -/

def Decimal.ofNat {bound : Nat} (n : Nat) (h : n ≤ bound) : Decimal bound :=
  ⟨Nat.toDigits 10 n, n, digits_toDigits n, h⟩

theorem byte_le (x : UInt32) : (x &&& 0xFF).toNat ≤ 255 := by
  rw [UInt32.toNat_and]
  exact Nat.and_le_right

theorem toNat_byte (x : UInt32) : (x &&& 0xFF).toNat = x.toNat % 256 := by
  rw [UInt32.toNat_and]
  exact Nat.and_two_pow_sub_one_eq_mod x.toNat 8

theorem toNat_shifted_byte (x : UInt32) {k : UInt32} (hk : k.toNat < 32) :
    ((x >>> k) &&& 0xFF).toNat = x.toNat / 2 ^ k.toNat % 256 := by
  rw [toNat_byte, UInt32.toNat_shiftRight, Nat.mod_eq_of_lt hk, Nat.shiftRight_eq_div_pow]

/-- The text that is written for an entry of the map. -/
def RangeText.ofEntry (base : UInt32) (maskBits : UInt8) (h : maskBits.toNat ≤ 32) : RangeText where
  a := .ofNat _ (byte_le (base >>> 24))
  b := .ofNat _ (byte_le (base >>> 16))
  c := .ofNat _ (byte_le (base >>> 8))
  d := .ofNat _ (byte_le base)
  mask := some (.ofNat _ h)

theorem text_ofEntry (base : UInt32) (maskBits : UInt8) (h : maskBits.toNat ≤ 32) :
    (RangeText.ofEntry base maskBits h).text = formatRange base maskBits := by
  simp only [RangeText.text, RangeText.ofEntry, RangeText.addrText, Decimal.ofNat, formatRange,
    List.append_assoc, List.cons_append]

theorem addr_ofEntry (base : UInt32) (maskBits : UInt8) (h : maskBits.toNat ≤ 32) :
    (RangeText.ofEntry base maskBits h).addr = base := by
  have hbase := base.toNat_lt
  refine UInt32.toNat_inj.mp ?_
  change (UInt32.ofNat ((((base >>> 24 &&& 0xFF).toNat * 256 + (base >>> 16 &&& 0xFF).toNat) * 256 +
    (base >>> 8 &&& 0xFF).toNat) * 256 + (base &&& 0xFF).toNat)).toNat = base.toNat
  rw [toNat_shifted_byte base (by decide), toNat_shifted_byte base (by decide),
    toNat_shifted_byte base (by decide), toNat_byte, UInt32.toNat_ofNat']
  change ((((base.toNat / 2 ^ 24 % 256) * 256 + base.toNat / 2 ^ 16 % 256) * 256 +
    base.toNat / 2 ^ 8 % 256) * 256 + base.toNat % 256) % 2 ^ 32 = base.toNat
  omega

/-- The entries of a set that was built from ranges. -/
theorem entry_ofEntry {ranges : List Range} (hshift : ShiftsOk shift32 ranges) {base : UInt32}
    {maskBits : UInt8} (hlookup : (build shift32 ranges).ranges[base]? = some maskBits) :
    ∃ h, (RangeText.ofEntry base maskBits h).range.entry shift32 = (base, maskBits) ∧
      (shift32 = 0 ∨ maskBits.toNat ≠ 0) := by
  obtain ⟨kept, hmem, -, hbase, hbits⟩ := exists_of_lookup hshift hlookup
  have hnat : maskBits.toNat = kept.maskBits := by rw [hbits, kept.toNat_maskBits]
  have hshift' : shift32 = 0 ∨ maskBits.toNat ≠ 0 := by
    rw [hnat]
    exact hshift.of_mem hmem
  refine ⟨hnat ▸ kept.maskBits_le, ?_, hshift'⟩
  rw [Range.entry]
  refine Prod.ext ?_ ?_
  · change (RangeText.ofEntry base maskBits _).addr &&& maskOf shift32 maskBits.toNat = base
    rw [addr_ofEntry, ← UInt32.toNat_inj,
      toNat_and_maskOf base hshift' (hnat ▸ kept.maskBits_le), hnat, ← hbase]
    change kept.addr.toNat / kept.size * kept.size / kept.size * kept.size = _
    rw [Nat.mul_div_cancel _ kept.size_pos]
    rfl
  · exact UInt8.ofNat_toNat

/-! Rebuilding a set from its list. -/

theorem exists_texts {ranges : List Range} (hshift : ShiftsOk shift32 ranges)
    {entries : List (UInt32 × UInt8)}
    (hall : ∀ entry ∈ entries, (build shift32 ranges).ranges[entry.1]? = some entry.2) :
    ∃ texts : List RangeText,
      texts.map RangeText.text = entries.map (fun it => formatRange it.1 it.2) ∧
        texts.map (fun text => text.range.entry shift32) = entries := by
  induction entries with
  | nil => exact ⟨[], rfl, rfl⟩
  | cons entry entries ih =>
      obtain ⟨texts, htexts, hentries⟩ :=
        ih fun other hmem => hall other (List.mem_cons_of_mem entry hmem)
      obtain ⟨h, hentry, -⟩ := entry_ofEntry hshift (hall entry List.mem_cons_self)
      refine ⟨RangeText.ofEntry entry.1 entry.2 h :: texts, ?_, ?_⟩
      · rw [List.map_cons, List.map_cons, text_ofEntry, htexts]
      · rw [List.map_cons, hentry, hentries]

/-- The written list gives the same set again. -/
theorem ofJson_json {ranges : List Range} (hshift : ShiftsOk shift32 ranges) :
    IPV4RangeSet.ofJson shift32 (build shift32 ranges).json = .ok (build shift32 ranges) := by
  obtain ⟨texts, htexts, hentries⟩ := exists_texts hshift
    fun (entry : UInt32 × UInt8) (hmem : entry ∈ (build shift32 ranges).ranges.toList) =>
      Std.ExtTreeMap.mem_toList_iff_getElem?_eq_some.mp hmem
  rw [IPV4RangeSet.json, ← htexts, ofJson_texts]
  refine congrArg Except.ok ?_
  have hranges : (build shift32 (texts.map RangeText.range)).ranges =
      (build shift32 ranges).ranges := by
    refine Std.ExtTreeMap.ext_getElem? ?_
    intro base
    rw [build_ranges, List.foldl_map]
    have hfold : texts.foldl (fun m text => m.insertIfNew (text.range.entry shift32).1
        (text.range.entry shift32).2) ∅ =
          (build shift32 ranges).ranges.toList.foldl (fun m entry => m.insertIfNew entry.1 entry.2)
            (∅ : Std.ExtTreeMap UInt32 UInt8) := by
      rw [← hentries, List.foldl_map]
    rw [hfold, lookup_foldl_insertIfNew, Std.ExtTreeMap.getElem?_empty, Option.none_or]
    exact map_find?_toList _ base
  exact congrArg IPV4RangeSet.mk hranges

/-! The answers for a listed set of ranges. -/

/-- The set that is read from the list answers for the listed ranges, and so
does the set that is read from what it writes. -/
def IsExact (shift32 : UInt32) (texts : List RangeText) : Prop :=
  ∃ set, IPV4RangeSet.ofJson shift32 (texts.map RangeText.text) = .ok set ∧
    (∀ x, set.check shift32 x = true ↔ ∃ text ∈ texts, text.range.Contains x) ∧
    ∃ set', IPV4RangeSet.ofJson shift32 set.json = .ok set' ∧
      ∀ x, set'.check shift32 x = set.check shift32 x

theorem isExact_iff_check (texts : List RangeText)
    (hshift : ShiftsOk shift32 (texts.map RangeText.range)) :
    IsExact shift32 texts ↔ ∀ x, (build shift32 (texts.map RangeText.range)).check shift32 x = true ↔
      ∃ range ∈ texts.map RangeText.range, range.Contains x := by
  have hread := ofJson_texts shift32 texts
  have hlisted (x : UInt32) : (∃ range ∈ texts.map RangeText.range, range.Contains x) ↔
      ∃ text ∈ texts, text.range.Contains x := by simp
  constructor
  · rintro ⟨set, hset, hexact, -⟩ x
    rw [hread] at hset
    rw [Except.ok.inj hset, hexact, hlisted]
  · intro hexact
    refine ⟨_, hread, ?_, _, ofJson_json hshift, fun x => rfl⟩
    intro x
    rw [hexact, hlisted]

/-- A list is looked up exactly when no listed range is left open behind a range
that starts inside it. -/
theorem isExact_iff_gapless (texts : List RangeText)
    (hshift : ShiftsOk shift32 (texts.map RangeText.range)) :
    IsExact shift32 texts ↔ Gapless (texts.map RangeText.range) :=
  (isExact_iff_check texts hshift).trans (check_exact_iff hshift)

/-- The text `a.b.0.0/e`. -/
def wideRange (a b : Fin 256) (e : Fin 33) : RangeText where
  a := .ofNat a (by omega)
  b := .ofNat b (by omega)
  c := .ofNat 0 (by omega)
  d := .ofNat 0 (by omega)
  mask := some (.ofNat e (by omega))

theorem isExact_iff_gapless_split :
    IsExact 0 [wideRange 10 0 16, wideRange 10 1 16, wideRange 10 0 15] :=
  (isExact_iff_gapless _ (.inl rfl)).mpr (by decide +kernel)

/-- An address in the outer range behind the inner one is not found, whatever a
shift by 32 gives. -/
theorem nested_not_exact :
    ¬ ∃ shift32, IsExact shift32 [wideRange 10 0 8, wideRange 10 1 16] := by
  rintro ⟨shift32, hexact⟩
  have hshift : ShiftsOk shift32 ([wideRange 10 0 8, wideRange 10 1 16].map RangeText.range) :=
    .inr (by decide +kernel)
  rw [isExact_iff_check _ hshift, check_exact_iff hshift] at hexact
  exact absurd hexact (by decide +kernel)

end HuntersGuild.IpRangeTexts
