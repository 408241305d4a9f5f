import HuntersGuild.IpRangeSets

/-!
What an address lookup in a set of ranges finds, and what it misses.
-/

namespace HuntersGuild.IpRangeLookups

open HuntersGuild.ExceptionRules
open HuntersGuild.Numerals
open HuntersGuild.OrderedMaps
open HuntersGuild.IpRangeSets

variable {shift32 : UInt32}

/-! Masks. -/

theorem and_shiftLeft_ones {a k n : Nat} (ha : a < 2 ^ (n + k)) :
    a &&& ((2 ^ n - 1) <<< k) = (a >>> k) <<< k := by
  apply Nat.eq_of_testBit_eq
  intro i
  rw [Nat.testBit_and, Nat.testBit_shiftLeft, Nat.testBit_shiftLeft, Nat.testBit_shiftRight,
    Nat.testBit_two_pow_sub_one]
  by_cases hi : k ≤ i
  · have hback : k + (i - k) = i := by omega
    by_cases hn : i - k < n
    · simp only [hi, hn, hback, decide_true, Bool.true_and, Bool.and_true]
    · have hzero : a.testBit i = false := by
        apply Nat.testBit_lt_two_pow
        exact Nat.lt_of_lt_of_le ha (Nat.pow_le_pow_right (by omega) (by omega))
      simp only [hi, hn, hback, hzero, decide_true, Bool.true_and, Bool.false_and]
  · simp only [hi, decide_false, Bool.false_and, Bool.and_false]

theorem ones_shiftLeft_mod {k : Nat} (hk : k ≤ 32) :
    (2 ^ 32 - 1) <<< k % 2 ^ 32 = (2 ^ (32 - k) - 1) <<< k := by
  apply Nat.eq_of_testBit_eq
  intro i
  rw [Nat.testBit_mod_two_pow, Nat.testBit_shiftLeft, Nat.testBit_shiftLeft,
    Nat.testBit_two_pow_sub_one, Nat.testBit_two_pow_sub_one]
  grind

/-- A mask keeps the leading bits of an address. -/
theorem toNat_and_maskOf (addr : UInt32) {maskBits : Nat} (hshift : shift32 = 0 ∨ maskBits ≠ 0)
    (hle : maskBits ≤ 32) :
    (addr &&& maskOf shift32 maskBits).toNat =
      addr.toNat / 2 ^ (32 - maskBits) * 2 ^ (32 - maskBits) := by
  have haddr := addr.toNat_lt
  unfold maskOf
  split_ifs with hzero
  · subst hzero
    rw [hshift.resolve_right (not_not_intro rfl), UInt32.and_zero, Nat.div_eq_of_lt haddr]
    rfl
  · have hcount : (UInt32.ofNat (32 - maskBits)).toNat % 32 = 32 - maskBits := by
      rw [UInt32.toNat_ofNat']
      omega
    rw [UInt32.toNat_and, UInt32.toNat_shiftLeft, hcount]
    change addr.toNat &&& (2 ^ 32 - 1) <<< (32 - maskBits) % 2 ^ 32 = _
    rw [ones_shiftLeft_mod (Nat.sub_le _ _),
      and_shiftLeft_ones (by rwa [Nat.sub_add_cancel (Nat.sub_le _ _)]),
      Nat.shiftRight_eq_div_pow, Nat.shiftLeft_eq]

theorem xor_and_distrib (a b mask : UInt32) :
    (a ^^^ b) &&& mask = (a &&& mask) ^^^ (b &&& mask) := by
  rw [← UInt32.toNat_inj, UInt32.toNat_xor, UInt32.toNat_and, UInt32.toNat_and, UInt32.toNat_and,
    UInt32.toNat_xor, Nat.and_xor_distrib_right]

theorem masked_xor_eq_zero (base addr : UInt32) {maskBits : Nat}
    (hshift : shift32 = 0 ∨ maskBits ≠ 0) (hle : maskBits ≤ 32) :
    (base ^^^ addr) &&& maskOf shift32 maskBits = 0 ↔
      base.toNat / 2 ^ (32 - maskBits) = addr.toNat / 2 ^ (32 - maskBits) := by
  rw [xor_and_distrib, UInt32.xor_eq_zero_iff, ← UInt32.toNat_inj,
    toNat_and_maskOf base hshift hle, toNat_and_maskOf addr hshift hle]
  exact Nat.mul_left_inj (Nat.ne_of_gt (Nat.pow_pos (by decide)))

/-! Ranges. -/

/-- A range as it is listed. -/
structure Range where
  addr : UInt32
  maskBits : Nat
  maskBits_le : maskBits ≤ 32
deriving DecidableEq

namespace Range

def size (self : Range) : Nat := 2 ^ (32 - self.maskBits)

/-- The addresses that share the leading bits of the range. -/
def Contains (self : Range) (x : UInt32) : Prop :=
  x.toNat / self.size = self.addr.toNat / self.size

def first (self : Range) : Nat := self.addr.toNat / self.size * self.size

def last (self : Range) : Nat := self.first + self.size - 1

theorem size_pos (self : Range) : 0 < self.size := Nat.pow_pos (by decide)

theorem contains_iff (self : Range) (x : UInt32) :
    self.Contains x ↔ self.first ≤ x.toNat ∧ x.toNat ≤ self.last := by
  have hpos := self.size_pos
  rw [Contains, Nat.div_eq_iff hpos]
  rfl

theorem first_le_last (self : Range) : self.first ≤ self.last := by
  have hpos := self.size_pos
  unfold last
  omega

theorem last_lt (self : Range) : self.last < 2 ^ 32 := by
  have haddr := self.addr.toNat_lt
  have hpow : 2 ^ 32 = 2 ^ self.maskBits * self.size := by
    rw [size, ← Nat.pow_add, Nat.add_sub_cancel' self.maskBits_le]
  have hdiv : self.addr.toNat / self.size < 2 ^ self.maskBits :=
    Nat.div_lt_of_lt_mul (by rwa [Nat.mul_comm, ← hpow])
  have hmul : (self.addr.toNat / self.size + 1) * self.size ≤ 2 ^ self.maskBits * self.size :=
    Nat.mul_le_mul_right self.size hdiv
  rw [← hpow, Nat.add_mul, Nat.one_mul] at hmul
  have hpos := self.size_pos
  unfold last first
  omega

/-- The entry of the map that stands for the range. -/
def entry (shift32 : UInt32) (self : Range) : UInt32 × UInt8 :=
  (self.addr &&& maskOf shift32 self.maskBits, UInt8.ofNat self.maskBits)

theorem toNat_entry (self : Range) (hshift : shift32 = 0 ∨ self.maskBits ≠ 0) :
    (self.entry shift32).1.toNat = self.first :=
  toNat_and_maskOf self.addr hshift self.maskBits_le

theorem toNat_maskBits (self : Range) : (UInt8.ofNat self.maskBits).toNat = self.maskBits := by
  have hle := self.maskBits_le
  rw [UInt8.toNat_ofNat']
  omega

end Range

/-! The set that is built from a list of ranges. -/

def build (shift32 : UInt32) (ranges : List Range) : IPV4RangeSet :=
  ranges.foldl (fun set range => set.emplace (range.entry shift32)) ⟨∅⟩

theorem build_ranges (shift32 : UInt32) (ranges : List Range) :
    (build shift32 ranges).ranges =
      ranges.foldl (fun m range => m.insertIfNew (range.entry shift32).1 (range.entry shift32).2)
        ∅ := by
  have hall (set : IPV4RangeSet) :
      (ranges.foldl (fun set range => set.emplace (range.entry shift32)) set).ranges =
        ranges.foldl (fun m range => m.insertIfNew (range.entry shift32).1
          (range.entry shift32).2) set.ranges := by
    induction ranges generalizing set with
    | nil => rfl
    | cons range ranges ih => exact ih (set.emplace (range.entry shift32))
  exact hall ⟨∅⟩

/-- The range is the first one in the list with its base address. -/
def IsFirst (ranges : List Range) (range : Range) : Prop :=
  ranges.find? (fun other => other.first = range.first) = some range

/-- A shift by 32 gives zero, or none is made. -/
def ShiftsOk (shift32 : UInt32) (ranges : List Range) : Prop :=
  shift32 = 0 ∨ ∀ range ∈ ranges, range.maskBits ≠ 0

theorem ShiftsOk.of_mem {ranges : List Range} (h : ShiftsOk shift32 ranges) {range : Range}
    (hmem : range ∈ ranges) : shift32 = 0 ∨ range.maskBits ≠ 0 :=
  h.imp_right fun hall => hall range hmem

theorem find?_congr {ι : Type} {p q : ι → Bool} {items : List ι}
    (h : ∀ item ∈ items, p item = q item) : items.find? p = items.find? q := by
  induction items with
  | nil => rfl
  | cons item items ih =>
      rw [List.find?_cons, List.find?_cons, h item List.mem_cons_self,
        ih fun other hmem => h other (List.mem_cons_of_mem item hmem)]

theorem lookup_build {ranges : List Range} (hshift : ShiftsOk shift32 ranges) (base : UInt32) :
    (build shift32 ranges).ranges[base]? =
      (ranges.find? fun range => range.first = base.toNat).map
        fun range => UInt8.ofNat range.maskBits := by
  rw [build_ranges, lookup_foldl_insertIfNew, Std.ExtTreeMap.getElem?_empty, Option.none_or]
  refine congrArg (Option.map _) ?_
  refine find?_congr ?_
  intro range hmem
  rw [← range.toNat_entry (hshift.of_mem hmem)]
  simp only [UInt32.toNat_inj]

theorem exists_first {ranges : List Range} {range : Range} (hmem : range ∈ ranges) :
    ∃ kept, ranges.find? (fun other => other.first = range.first) = some kept := by
  refine Option.isSome_iff_exists.mp (List.find?_isSome.mpr ?_)
  exact ⟨range, hmem, decide_eq_true rfl⟩

theorem mem_build {ranges : List Range} (hshift : ShiftsOk shift32 ranges) {range : Range}
    (hmem : range ∈ ranges) : (range.entry shift32).1 ∈ (build shift32 ranges).ranges := by
  obtain ⟨kept, hkept⟩ := exists_first hmem
  rw [mem_iff_exists, lookup_build hshift, range.toNat_entry (hshift.of_mem hmem), hkept]
  exact ⟨_, rfl⟩

theorem exists_of_lookup {ranges : List Range} (hshift : ShiftsOk shift32 ranges) {base : UInt32}
    {maskBits : UInt8} (h : (build shift32 ranges).ranges[base]? = some maskBits) :
    ∃ kept ∈ ranges, IsFirst ranges kept ∧ kept.first = base.toNat ∧
      maskBits = UInt8.ofNat kept.maskBits := by
  rw [lookup_build hshift] at h
  obtain ⟨kept, hfind, rfl⟩ := Option.map_eq_some_iff.mp h
  have hbase := List.find?_some hfind
  rw [decide_eq_true_eq] at hbase
  refine ⟨kept, List.mem_of_find?_eq_some hfind, ?_, hbase, rfl⟩
  rw [IsFirst, hbase]
  exact hfind

theorem isLE_iff (a b : UInt32) : (compare a b).isLE ↔ a.toNat ≤ b.toNat := by
  rw [Std.LawfulOrderOrd.isLE_compare, UInt32.le_iff_toNat_le]

/-- The test at the base address of a kept range. -/
theorem masked_iff_contains {ranges : List Range} (hshift : ShiftsOk shift32 ranges) {kept : Range}
    (hmem : kept ∈ ranges) {base : UInt32} (hbase : kept.first = base.toNat) (x : UInt32) :
    (base ^^^ x) &&& maskOf shift32 (UInt8.ofNat kept.maskBits).toNat = 0 ↔ kept.Contains x := by
  rw [kept.toNat_maskBits,
    masked_xor_eq_zero base x (hshift.of_mem hmem) kept.maskBits_le, ← hbase]
  change kept.addr.toNat / kept.size * kept.size / kept.size = x.toNat / kept.size ↔ _
  rw [Nat.mul_div_cancel _ kept.size_pos]
  exact eq_comm

/-- The kept range at the nearest base address decides. -/
theorem check_build {ranges : List Range} (hshift : ShiftsOk shift32 ranges) (x : UInt32) :
    (build shift32 ranges).check shift32 x = true ↔
      ∃ kept ∈ ranges, IsFirst ranges kept ∧ kept.Contains x ∧
        ∀ other ∈ ranges, other.first ≤ x.toNat → other.first ≤ kept.first := by
  unfold IPV4RangeSet.check
  constructor
  · intro hcheck
    rcases hfloor : floor? (build shift32 ranges).ranges x with _ | ⟨base, maskBits⟩
    · simp only [hfloor] at hcheck
      cases hcheck
    · simp only [hfloor, decide_eq_true_eq] at hcheck
      obtain ⟨hlookup, -, hgreatest⟩ := floor?_spec hfloor
      obtain ⟨kept, hmem, hfirst, hbase, rfl⟩ := exists_of_lookup hshift hlookup
      refine ⟨kept, hmem, hfirst, (masked_iff_contains hshift hmem hbase x).mp hcheck, ?_⟩
      intro other hother hle
      have hentry := other.toNat_entry (hshift.of_mem hother)
      have := hgreatest _ (mem_build hshift hother)
      rw [isLE_iff, isLE_iff, hentry, ← hbase] at this
      exact this hle
  · rintro ⟨kept, hmem, hfirst, hcontains, hgreatest⟩
    have hle := ((kept.contains_iff x).mp hcontains).1
    have hentry := kept.toNat_entry (hshift.of_mem hmem)
    have hkey : (compare (kept.entry shift32).1 x).isLE := by
      rw [isLE_iff, hentry]
      exact hle
    obtain ⟨⟨base, maskBits⟩, hfloor⟩ := exists_floor? (mem_build hshift hmem) hkey
    obtain ⟨hlookup, hbelow, habove⟩ := floor?_spec hfloor
    obtain ⟨kept', hmem', hfirst', hbase, rfl⟩ := exists_of_lookup hshift hlookup
    have hsame : kept'.first = kept.first := by
      refine Nat.le_antisymm (hgreatest kept' hmem' ?_) ?_
      · rw [hbase]
        exact (isLE_iff base x).mp hbelow
      · have := habove _ (mem_build hshift hmem) hkey
        rwa [isLE_iff, hentry, ← hbase] at this
    rw [IsFirst, hsame, hfirst] at hfirst'
    obtain rfl := Option.some.inj hfirst'
    simp only [hfloor, decide_eq_true_eq]
    exact (masked_iff_contains hshift hmem hbase x).mpr hcontains

/-! Which lists are looked up exactly. -/

/-- Where a kept range ends inside a listed one, another base address follows
within the range or right behind it. -/
def Gapless (ranges : List Range) : Prop :=
  ∀ listed ∈ ranges, ∀ kept ∈ ranges, IsFirst ranges kept → listed.first ≤ kept.first →
    kept.last < listed.last → ∃ next ∈ ranges, kept.first < next.first ∧ next.first ≤ kept.last + 1

instance (ranges : List Range) : Decidable (Gapless ranges) :=
  inferInstanceAs (Decidable (∀ listed ∈ ranges, ∀ kept ∈ ranges,
    ranges.find? (fun other => other.first = kept.first) = some kept → listed.first ≤ kept.first →
      kept.last < listed.last →
        ∃ next ∈ ranges, kept.first < next.first ∧ next.first ≤ kept.last + 1))

theorem exists_nearest {ranges : List Range} (hshift : ShiftsOk shift32 ranges) {listed : Range}
    (hmem : listed ∈ ranges) {x : UInt32} (hle : listed.first ≤ x.toNat) :
    ∃ kept ∈ ranges, IsFirst ranges kept ∧ kept.first ≤ x.toNat ∧
      ∀ other ∈ ranges, other.first ≤ x.toNat → other.first ≤ kept.first := by
  have hkey {other : Range} (hother : other ∈ ranges) :
      (compare (other.entry shift32).1 x).isLE ↔ other.first ≤ x.toNat := by
    rw [isLE_iff, other.toNat_entry (hshift.of_mem hother)]
  obtain ⟨⟨base, maskBits⟩, hfloor⟩ := exists_floor? (mem_build hshift hmem) ((hkey hmem).mpr hle)
  obtain ⟨hlookup, hbelow, hgreatest⟩ := floor?_spec hfloor
  obtain ⟨kept, hkept, hfirst, hbase, -⟩ := exists_of_lookup hshift hlookup
  refine ⟨kept, hkept, hfirst, hbase ▸ (isLE_iff base x).mp hbelow, ?_⟩
  intro other hother hole
  have := hgreatest _ (mem_build hshift hother) ((hkey hother).mpr hole)
  rwa [isLE_iff, other.toNat_entry (hshift.of_mem hother), ← hbase] at this

theorem check_exact_iff {ranges : List Range} (hshift : ShiftsOk shift32 ranges) :
    (∀ x, (build shift32 ranges).check shift32 x = true ↔ ∃ range ∈ ranges, range.Contains x) ↔
      Gapless ranges := by
  constructor
  · intro hexact listed hlisted kept hkept hfirst hle hlast
    -- the address right behind the kept range
    have hx : (UInt32.ofNat (kept.last + 1)).toNat = kept.last + 1 :=
      UInt32.toNat_ofNat_of_lt' (Nat.lt_of_le_of_lt hlast listed.last_lt)
    have hkeptle : kept.first ≤ (UInt32.ofNat (kept.last + 1)).toNat := by
      rw [hx]
      exact Nat.le_succ_of_le kept.first_le_last
    have hin : listed.Contains (UInt32.ofNat (kept.last + 1)) :=
      (listed.contains_iff _).mpr ⟨Nat.le_trans hle hkeptle, by rw [hx]; exact hlast⟩
    obtain ⟨next, hnext, hnextfirst, hcovers, hgreatest⟩ :=
      (check_build hshift _).mp ((hexact _).mpr ⟨listed, hlisted, hin⟩)
    obtain ⟨hnextle, hnextlast⟩ := (next.contains_iff _).mp hcovers
    rw [hx] at hnextle hnextlast
    refine ⟨next, hnext, Nat.lt_of_le_of_ne (hgreatest kept hkept hkeptle) ?_, hnextle⟩
    intro hsame
    rw [IsFirst, ← hsame, hfirst] at hnextfirst
    obtain rfl := Option.some.inj hnextfirst
    exact Nat.not_succ_le_self _ hnextlast
  · intro hgapless x
    rw [check_build hshift]
    constructor
    · rintro ⟨kept, hmem, -, hcontains, -⟩
      exact ⟨kept, hmem, hcontains⟩
    · rintro ⟨listed, hlisted, hcontains⟩
      obtain ⟨hle, hlast⟩ := (listed.contains_iff x).mp hcontains
      obtain ⟨kept, hmem, hfirst, hkept, hgreatest⟩ := exists_nearest hshift hlisted hle
      refine ⟨kept, hmem, hfirst, (kept.contains_iff x).mpr ⟨hkept, ?_⟩, hgreatest⟩
      refine Nat.le_of_not_lt fun hover => ?_
      obtain ⟨next, hnext, hlt, hnear⟩ := hgapless listed hlisted kept hmem hfirst
        (hgreatest listed hlisted hle) (Nat.lt_of_lt_of_le hover hlast)
      exact Nat.not_le.mpr hlt (hgreatest next hnext (Nat.le_trans hnear hover))

end HuntersGuild.IpRangeLookups
