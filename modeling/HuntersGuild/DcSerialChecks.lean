import HuntersGuild.DcSerialNumbers
import HuntersGuild.PositionalDigits
import Mathlib.Data.List.GetD

/-!
The fast check of a serial number and the slow one accept the same texts, which are those
that can be generated.
-/

namespace HuntersGuild.DcSerialChecks

open HuntersGuild.DcSerialNumbers
open HuntersGuild.DcSerialTables
open HuntersGuild.Numerals
open HuntersGuild.PositionalDigits

/-! The third prime. -/

theorem size_foldl_set (first : Nat) (primes : List Nat) (set : Array Bool) :
    (primes.foldl (fun set prime => set.setIfInBounds (prime - first) true) set).size = set.size := by
  induction primes generalizing set with
  | nil => rfl
  | cons prime primes ih => rw [List.foldl_cons, ih, Array.size_setIfInBounds]

theorem getD_foldl_set (first : Nat) (primes : List Nat) (set : Array Bool) {i : Nat} (hi : i < set.size) :
    (primes.foldl (fun set prime => set.setIfInBounds (prime - first) true) set).getD i false = true ↔
      set.getD i false = true ∨ ∃ prime ∈ primes, prime - first = i := by
  induction primes generalizing set with
  | nil => simp
  | cons prime primes ih =>
      have hset : (set.setIfInBounds (prime - first) true).getD i false = true ↔
          set.getD i false = true ∨ prime - first = i := by
        simp only [Array.getD_eq_getD_getElem?, Array.getElem?_setIfInBounds]
        by_cases hprime : prime - first = i
        · simp [hprime, hi]
        · simp [hprime]
      rw [List.foldl_cons, ih _ (by rw [Array.size_setIfInBounds]; exact hi), hset, or_assoc]
      simp only [List.mem_cons, exists_eq_or_imp]

theorem checkPrime3_iff {n : Nat} (hn : n < 2 ^ 64) : checkPrime3 n = true ↔ n ∈ primes3 := by
  obtain ⟨hfirst, hlast⟩ := primes3_ends
  have hsize : primes3Set.size = 0x15F09 := by
    rw [primes3Set, size_foldl_set, Array.size_replicate, hfirst, hlast]
  have hoffset : ∀ offset < 0x15F09, primes3Set.getD offset false = true ↔
      ∃ prime3 ∈ primes3, prime3 - 0x2717 = offset := by
    intro offset hlt
    have hnone : (Array.replicate (0x1861F - 0x2717 + 1) false).getD offset false = false := by
      rw [Array.getD_eq_getD_getElem?, Array.getElem?_replicate]
      split <;> rfl
    rw [primes3Set, hfirst, hlast, getD_foldl_set 0x2717 _ _ (by rw [Array.size_replicate]; exact hlt), hnone]
    simp
  rw [checkPrime3, hfirst]
  by_cases hrange : 0x2717 ≤ n ∧ n ≤ 0x1861F
  · have hwrap : (n + 2 ^ 64 - 0x2717) % 2 ^ 64 = n - 0x2717 := by omega
    rw [hwrap, if_neg (by omega), hoffset _ (by omega)]
    constructor
    · rintro ⟨prime3, hmem, heq⟩
      have hbounds := primes3_bounds prime3 hmem
      obtain rfl : prime3 = n := by omega
      exact hmem
    · exact fun hmem => ⟨n, hmem, rfl⟩
  · rw [if_pos (by omega)]
    refine iff_of_false Bool.false_ne_true fun hmem => hrange (primes3_bounds n hmem)

/-! The replaced digits. -/

theorem foldl_or_eq_value (ds : List Nat) (hds : ∀ d ∈ ds, d < 16) :
    ds.foldl (fun n d => n <<< 4 ||| d) 0 = value 16 ds := by
  induction ds using List.reverseRecOn with
  | nil => rfl
  | append_singleton ds d ih =>
      have hd : d < 2 ^ 4 := hds d (List.mem_append_right ds (List.mem_singleton_self d))
      rw [List.foldl_append, ih fun d' hd' => hds d' (List.mem_append_left [d] hd'), value_concat, List.foldl_cons,
        List.foldl_nil, ← Nat.shiftLeft_add_eq_or_of_lt hd, Nat.shiftLeft_eq, Nat.mul_comm]

/-- What a replacement of a byte does to a digit. -/
def onDigit (replaceNybble : UInt8 → UInt32) (d : Nat) : Nat := (replaceNybble (.ofNat d)).toNat

/-- A replacement looks at the low digit only, and gives a digit. -/
structure Replaces (replaceNybble : UInt8 → UInt32) : Prop where
  low : ∀ v, replaceNybble v = replaceNybble (.ofNat (v.toNat % 16))
  lt : ∀ v, (replaceNybble v).toNat < 16

theorem toNat_and_fifteen (v : UInt8) : (v &&& 0x0F).toNat = v.toNat % 16 := by
  rw [UInt8.toNat_and]
  exact Nat.and_two_pow_sub_one_eq_mod v.toNat 4

theorem replaces_getD {values : List UInt32} (hvalues : values.all (fun v => v.toNat < 16) = true) :
    Replaces fun v => values.getD (v &&& 0x0F).toNat 0 := by
  refine ⟨fun v => ?_, fun v => ?_⟩
  · rw [toNat_and_fifteen, toNat_and_fifteen, UInt8.toNat_ofNat',
      Nat.mod_eq_of_lt (show v.toNat % 16 < 2 ^ 8 by omega), Nat.mod_mod]
  · rcases Nat.lt_or_ge (v &&& 0x0F).toNat values.length with hlt | hge
    · rw [List.getD_eq_getElem _ _ hlt]
      exact of_decide_eq_true (List.all_eq_true.mp hvalues _ (List.getElem_mem hlt))
    · rw [List.getD_eq_default _ _ hge]
      decide

theorem replaces_forward : Replaces replaceNybbleForward :=
  replaces_getD (by decide)

theorem replaces_reverse : Replaces replaceNybbleReverse :=
  replaces_getD (by decide)

theorem toNat_replaced {replaceNybble : UInt8 → UInt32} (h : Replaces replaceNybble) (v : UInt32) {shift : UInt32}
    (hshift : shift.toNat ≤ 28) :
    (replaceNybble (v >>> shift).toUInt8 <<< shift).toNat =
      onDigit replaceNybble (v.toNat / 2 ^ shift.toNat % 16) <<< shift.toNat := by
  have hmod : shift.toNat % 32 = shift.toNat := Nat.mod_eq_of_lt (by omega)
  have hlow : (v >>> shift).toUInt8.toNat % 16 = v.toNat / 2 ^ shift.toNat % 16 := by
    rw [UInt32.toNat_toUInt8, UInt32.toNat_shiftRight, hmod, Nat.shiftRight_eq_div_pow]
    exact Nat.mod_mod_of_dvd _ (by decide)
  have hfits : onDigit replaceNybble (v.toNat / 2 ^ shift.toNat % 16) <<< shift.toNat < 2 ^ 32 := by
    rw [Nat.shiftLeft_eq]
    calc _ < 16 * 2 ^ shift.toNat := Nat.mul_lt_mul_of_pos_right (h.lt _) (Nat.two_pow_pos _)
      _ ≤ 16 * 2 ^ 28 := Nat.mul_le_mul_left 16 (Nat.pow_le_pow_right Nat.two_pos hshift)
  rw [UInt32.toNat_shiftLeft, hmod, h.low, hlow]
  exact Nat.mod_eq_of_lt hfits

theorem toNat_replaceNybbles {replaceNybble : UInt8 → UInt32} (h : Replaces replaceNybble) (v : UInt32) :
    (replaceNybbles replaceNybble v).toNat = value 16 ((digits 16 8 v.toNat).map (onDigit replaceNybble)) := by
  have hlast : (replaceNybble v.toUInt8).toNat = onDigit replaceNybble (v.toNat % 16) := by
    rw [h.low, UInt32.toNat_toUInt8]
    exact congrArg (onDigit replaceNybble) (Nat.mod_mod_of_dvd _ (by decide))
  have hdigits : ∀ d ∈ (digits 16 8 v.toNat).map (onDigit replaceNybble), d < 16 := by
    intro d hd
    obtain ⟨d', -, rfl⟩ := List.mem_map.mp hd
    exact h.lt _
  rw [← foldl_or_eq_value _ hdigits]
  simp only [replaceNybbles, UInt32.toNat_or, hlast, digits, List.nil_append, List.cons_append, List.map_cons,
    List.map_nil, List.foldl_cons, List.foldl_nil, Nat.div_div_eq_div_mul, Nat.zero_shiftLeft, Nat.zero_or,
    Nat.shiftLeft_or_distrib, ← Nat.shiftLeft_add]
  rw [toNat_replaced h v (by decide), toNat_replaced h v (by decide), toNat_replaced h v (by decide),
    toNat_replaced h v (by decide), toNat_replaced h v (by decide), toNat_replaced h v (by decide),
    toNat_replaced h v (by decide)]
  rfl

theorem ofNat_toNat_lt {n : Nat} (hn : n < 2 ^ 32) : (UInt32.ofNat n).toNat = n :=
  UInt32.toNat_ofNat_of_lt' hn

/-- The two replacements undo each other. -/
theorem onDigit_inverse : ∀ d < 16, onDigit replaceNybbleForward (onDigit replaceNybbleReverse d) = d ∧
    onDigit replaceNybbleReverse (onDigit replaceNybbleForward d) = d := by
  decide +kernel

theorem map_onDigit_inverse {f g : Nat → Nat} (h : ∀ d < 16, f (g d) = d) {ds : List Nat} (hds : ∀ d ∈ ds, d < 16) :
    (ds.map g).map f = ds := by
  rw [List.map_map]
  exact (List.map_congr_left fun d hd => h d (hds d hd)).trans (List.map_id ds)

theorem replaceNybbles_inverse {f g : UInt8 → UInt32} (hf : Replaces f) (hg : Replaces g)
    (h : ∀ d < 16, onDigit f (onDigit g d) = d) (v : UInt32) : replaceNybbles f (replaceNybbles g v) = v := by
  have hlt : ∀ d ∈ (digits 16 8 v.toNat).map (onDigit g), d < 16 := by
    intro d hd
    obtain ⟨d', -, rfl⟩ := List.mem_map.mp hd
    exact hg.lt _
  have hagain := digits_value _ hlt
  rw [List.length_map, digits_length] at hagain
  rw [← UInt32.toNat_inj, toNat_replaceNybbles hf, toNat_replaceNybbles hg, hagain,
    map_onDigit_inverse h (digits_lt (by decide) 8 _), value_digits]
  exact Nat.mod_eq_of_lt v.toNat_lt

theorem decode_encode (v : UInt32) : decodeDcSerialNumberInt (encodeDcSerialNumberInt v) = v :=
  replaceNybbles_inverse replaces_forward replaces_reverse (fun d hd => (onDigit_inverse d hd).1) v

theorem encode_decode (v : UInt32) : encodeDcSerialNumberInt (decodeDcSerialNumberInt v) = v :=
  replaceNybbles_inverse replaces_reverse replaces_forward (fun d hd => (onDigit_inverse d hd).2) v

/-! Texts. -/

/-- The characters that are hexadecimal digits. -/
def hexDigits : Text := "0123456789ABCDEFabcdef".toList

theorem mem_hexDigits {ch : Char} (h : 48 ≤ ch.toNat ∧ ch.toNat ≤ 57 ∨ 65 ≤ ch.toNat ∧ ch.toNat ≤ 70 ∨
    97 ≤ ch.toNat ∧ ch.toNat ≤ 102) : ch ∈ hexDigits := by
  have hall : ∀ n < 103, (48 ≤ n ∧ n ≤ 57 ∨ 65 ≤ n ∧ n ≤ 70 ∨ 97 ≤ n ∧ n ≤ 102) → Char.ofNat n ∈ hexDigits := by
    decide +kernel
  rw [← Char.ofNat_toNat ch]
  exact hall ch.toNat (by omega) h

theorem digit?_eq_none {ch : Char} (h : ch ∉ hexDigits) : digit? 16 ch = none := by
  have hrange := mt mem_hexDigits h
  rw [digit?, Option.filter_eq_none_iff]
  intro d hd
  rw [decide_eq_true_eq]
  unfold digitValue? at hd
  split at hd
  · omega
  split at hd
  · cases hd
    omega
  split at hd
  · cases hd
    omega
  · cases hd

theorem replaceChar_eq_none {digits letters : Text} {ch : Char} (h : ch ∉ hexDigits) :
    replaceChar digits letters ch = none := by
  have hrange := mt mem_hexDigits h
  have hle : ∀ low : Char, low ≤ ch ↔ low.toNat ≤ ch.toNat := fun low => Iff.rfl
  have hge : ∀ high : Char, ch ≤ high ↔ ch.toNat ≤ high.toNat := fun high => Iff.rfl
  have hcodes : '0'.toNat = 48 ∧ '9'.toNat = 57 ∧ 'A'.toNat = 65 ∧ 'F'.toNat = 70 ∧ 'a'.toNat = 97 ∧
      'f'.toNat = 102 := by
    decide
  rw [replaceChar, if_neg, if_neg, if_neg] <;> rw [hle, hge] <;> omega

theorem replaceCharForward_eq (ch : Char) :
    (do let newCh ← replaceCharForward ch; digit? 16 newCh) = (digit? 16 ch).map (onDigit replaceNybbleForward) := by
  by_cases hch : ch ∈ hexDigits
  · have hall : hexDigits.all (fun ch => (do let newCh ← replaceCharForward ch; digit? 16 newCh) =
        (digit? 16 ch).map (onDigit replaceNybbleForward)) = true := by
      decide +kernel
    exact of_decide_eq_true (List.all_eq_true.mp hall ch hch)
  · rw [digit?_eq_none hch, replaceCharForward, replaceChar_eq_none hch]
    rfl

/-- The digits that a text spells. -/
def hexValues (s : Text) : Option (List Nat) := s.mapM (digit? 16)

theorem foldlM_decode (s : Text) (n : Nat) :
    s.foldlM (fun serialNumber ch => do
      let newCh ← replaceCharForward ch
      let v ← digit? 16 newCh
      return serialNumber <<< 4 ||| v) n =
    (hexValues s).map fun ds => (ds.map (onDigit replaceNybbleForward)).foldl (fun n d => n <<< 4 ||| d) n := by
  induction s generalizing n with
  | nil => rfl
  | cons ch s ih =>
      have hhead : (do
          let newCh ← replaceCharForward ch
          let v ← digit? 16 newCh
          return n <<< 4 ||| v) = (digit? 16 ch).map fun d => n <<< 4 ||| onDigit replaceNybbleForward d := by
        have hbind := congrArg (fun x : Option Nat => x.map fun v => n <<< 4 ||| v) (replaceCharForward_eq ch)
        rw [Option.map_map] at hbind
        refine Eq.trans ?_ hbind
        cases replaceCharForward ch with
        | none => rfl
        | some newCh => cases hv : digit? 16 newCh <;> simp [hv]
      rw [List.foldlM_cons, hhead, hexValues, List.mapM_cons]
      cases hd : digit? 16 ch with
      | none => rfl
      | some d =>
          rw [Option.map_some]
          show s.foldlM _ (n <<< 4 ||| onDigit replaceNybbleForward d) = _
          rw [ih, hexValues]
          cases s.mapM (digit? 16) <;> rfl

theorem hexValues_lt {s : Text} {ds : List Nat} (h : hexValues s = some ds) :
    ds.length = s.length ∧ ∀ d ∈ ds, d < 16 := by
  induction s generalizing ds with
  | nil =>
      obtain rfl := Option.some.inj h
      exact ⟨rfl, fun d hd => absurd hd List.not_mem_nil⟩
  | cons ch s ih =>
      rw [hexValues, List.mapM_cons] at h
      obtain ⟨d, hd, h⟩ := Option.bind_eq_some_iff.mp h
      obtain ⟨ds', hds', h⟩ := Option.bind_eq_some_iff.mp h
      obtain rfl := Option.some.inj h
      obtain ⟨hlen, hlt⟩ := ih hds'
      refine ⟨congrArg (· + 1) hlen, ?_⟩
      intro d' hd'
      rcases List.mem_cons.mp hd' with rfl | hd'
      · exact of_decide_eq_true (Option.filter_eq_some_iff.mp hd).2
      · exact hlt d' hd'

theorem decodeDcSerialNumberStr_eq (s : Text) :
    decodeDcSerialNumberStr s = if s.length ≠ 8 then none else
      (hexValues s).map fun ds => value 16 (ds.map (onDigit replaceNybbleForward)) := by
  rw [decodeDcSerialNumberStr, foldlM_decode]
  split
  · rfl
  · refine Option.map_congr fun ds _ => foldl_or_eq_value _ fun d hd => ?_
    obtain ⟨d', -, rfl⟩ := List.mem_map.mp hd
    exact replaces_forward.lt _

theorem decodeDcSerialNumberStr_lt {s : Text} {serialNumber : Nat}
    (h : decodeDcSerialNumberStr s = some serialNumber) :
    serialNumber < 2 ^ 32 := by
  rw [decodeDcSerialNumberStr_eq] at h
  split at h
  · cases h
  · rename_i hlen
    obtain ⟨ds, hds, rfl⟩ := Option.map_eq_some_iff.mp h
    have hdigits : ∀ d ∈ ds.map (onDigit replaceNybbleForward), d < 16 := by
      intro d hd
      obtain ⟨d', -, rfl⟩ := List.mem_map.mp hd
      exact replaces_forward.lt _
    have hlt := value_lt _ hdigits
    rw [List.length_map, (hexValues_lt hds).1, Decidable.not_not.mp hlen] at hlt
    exact hlt

/-! The two checks. -/

/-- The product of a prime of each table, with the first at an index for the domain. -/
def IsProduct (domain subdomain : UInt8) (serialNumber : Nat) : Prop :=
  domain ≤ 2 ∧ ∃ index, (if subdomain = 0xFF then index < 3 else index = subdomain.toNat % 3) ∧
    ∃ prime2 ∈ primes2, ∃ prime3 ∈ primes3,
      product (domain.toNat * 30 + index) prime2 prime3 = serialNumber

theorem mem_offsets {domain subdomain : UInt8} (hdomain : ¬ domain > 2) (offset1 : Nat) :
    (computeOffset1AndLimit1 domain subdomain).2 ≠ 0 ∧
    (offset1 ∈ List.range' (computeOffset1AndLimit1 domain subdomain).1
        ((computeOffset1AndLimit1 domain subdomain).2 - (computeOffset1AndLimit1 domain subdomain).1) ↔
      ∃ index, (if subdomain = 0xFF then index < 3 else index = subdomain.toNat % 3) ∧
        offset1 = domain.toNat * 30 + index) := by
  rw [computeOffset1AndLimit1, if_neg hdomain]
  dsimp only
  by_cases hall : subdomain = 0xFF
  · rw [if_neg (not_not.mpr hall)]
    simp only [if_pos hall, List.mem_range'_1]
    refine ⟨by omega, fun h => ⟨offset1 - domain.toNat * 30, by omega, by omega⟩, ?_⟩
    rintro ⟨index, hindex, rfl⟩
    omega
  · rw [if_pos hall]
    simp only [if_neg hall, List.mem_range'_1]
    refine ⟨by omega, fun h => ⟨subdomain.toNat % 3, rfl, by omega⟩, ?_⟩
    rintro ⟨index, rfl, rfl⟩
    omega

theorem dcSerialNumberIsValidSlow_iff (s : Text) (domain subdomain : UInt8) :
    dcSerialNumberIsValidSlow s domain subdomain = true ↔
      ∃ serialNumber, decodeDcSerialNumberStr s = some serialNumber ∧ IsProduct domain subdomain serialNumber := by
  rw [dcSerialNumberIsValidSlow]
  cases decodeDcSerialNumberStr s with
  | none => simp
  | some serialNumber =>
      by_cases hdomain : domain > 2
      · have hnone : computeOffset1AndLimit1 domain subdomain = (0, 0) := if_pos hdomain
        simp only [hnone, if_true, Option.some.injEq, exists_eq_left']
        exact iff_of_false Bool.false_ne_true fun h => absurd hdomain (UInt8.not_lt.mpr h.1)
      · obtain ⟨hlimit, -⟩ := @mem_offsets domain subdomain hdomain 0
        simp only [if_neg hlimit, List.any_eq_true, decide_eq_true_eq, Option.some.injEq, exists_eq_left']
        rw [IsProduct]
        constructor
        · rintro ⟨offset1, hoffset, hprimes⟩
          obtain ⟨index, hindex, rfl⟩ := ((mem_offsets hdomain offset1).2).mp hoffset
          exact ⟨UInt8.not_lt.mp hdomain, index, hindex, hprimes⟩
        · rintro ⟨-, index, hindex, hprimes⟩
          exact ⟨_, ((mem_offsets hdomain _).2).mpr ⟨index, hindex, rfl⟩, hprimes⟩

theorem prime1_bounds {domain : UInt8} (hdomain : domain ≤ 2) {index : Nat} (hindex : index < 3) :
    0 < primes1.getD (domain.toNat * 30 + index) 0 ∧ primes1.getD (domain.toNat * 30 + index) 0 ≤ 0x1C9 := by
  have hall : ∀ domain < 3, ∀ index < 3, 0 < primes1.getD (domain * 30 + index) 0 ∧
      primes1.getD (domain * 30 + index) 0 ≤ 0x1C9 := by
    decide +kernel
  exact hall domain.toNat (Nat.lt_succ_of_le hdomain) index hindex

/-- No product has more than these high halves. -/
theorem product_bound {domain : UInt8} (hdomain : domain ≤ 2) {index prime2 prime3 : Nat} (hindex : index < 3)
    (h2 : prime2 ∈ primes2) (h3 : prime3 ∈ primes3) :
    primes1.getD (domain.toNat * 30 + index) 0 * prime2 * prime3 < 0xE8 * 2 ^ 32 :=
  calc _ ≤ 0x1C9 * 0x2700 * 0x1861F := Nat.mul_le_mul
        (Nat.mul_le_mul (prime1_bounds hdomain hindex).2 (primes2_bounds prime2 h2).2.le) (primes3_bounds prime3 h3).2
    _ < 0xE8 * 2 ^ 32 := by decide

/-- Trial division of a number with two primes leaves a third one. -/
theorem divides_iff {n prime1 prime2 : Nat} (h1 : 0 < prime1) (h2 : 0 < prime2) (hn : n < 2 ^ 64) :
    n % prime1 = 0 ∧ n / prime1 % prime2 = 0 ∧ checkPrime3 (n / prime1 / prime2) = true ↔
      ∃ prime3 ∈ primes3, prime1 * prime2 * prime3 = n := by
  have hquotient : n / prime1 / prime2 < 2 ^ 64 :=
    Nat.lt_of_le_of_lt ((Nat.div_le_self _ _).trans (Nat.div_le_self _ _)) hn
  rw [checkPrime3_iff hquotient]
  constructor
  · rintro ⟨hmod1, hmod2, hmem⟩
    refine ⟨_, hmem, ?_⟩
    rw [Nat.mul_assoc, Nat.mul_div_cancel' (Nat.dvd_of_mod_eq_zero hmod2),
      Nat.mul_div_cancel' (Nat.dvd_of_mod_eq_zero hmod1)]
  · rintro ⟨prime3, hmem, rfl⟩
    rw [Nat.mul_assoc, Nat.mul_mod_right, Nat.mul_div_cancel_left _ h1, Nat.mul_mod_right,
      Nat.mul_div_cancel_left _ h2]
    exact ⟨rfl, rfl, hmem⟩

theorem decodedDcSerialNumberIsValidFast_iff (serialNumber : UInt32) (domain subdomain : UInt8) :
    decodedDcSerialNumberIsValidFast serialNumber domain subdomain = true ↔
      IsProduct domain subdomain serialNumber.toNat := by
  rw [decodedDcSerialNumberIsValidFast]
  by_cases hdomain : domain > 2
  · have hnone : computeOffset1AndLimit1 domain subdomain = (0, 0) := if_pos hdomain
    simp only [hnone, if_true]
    exact iff_of_false Bool.false_ne_true fun h => absurd hdomain (UInt8.not_lt.mpr h.1)
  have hle := UInt8.not_lt.mp hdomain
  obtain ⟨hlimit, -⟩ := @mem_offsets domain subdomain hdomain 0
  have hserial := serialNumber.toNat_lt
  have hsub0 : ∀ high, serialNumber.toNat ||| high <<< 32 = high * 2 ^ 32 + serialNumber.toNat := by
    intro high
    rw [Nat.or_comm, ← Nat.shiftLeft_add_eq_or_of_lt hserial, Nat.shiftLeft_eq]
  have hindexes : ∀ index, (if subdomain = 0xFF then index < 3 else index = subdomain.toNat % 3) → index < 3 := by
    intro index hindex
    split at hindex <;> omega
  simp only [if_neg hlimit, List.any_eq_true, List.mem_range, hsub0, ite_not, Bool.if_false_right,
    Bool.and_eq_true, decide_eq_true_eq]
  constructor
  · rintro ⟨high, hhigh, offset1, hoffset, hmod1, prime2, h2, hmod2, h3⟩
    obtain ⟨index, hindex, rfl⟩ := ((mem_offsets hdomain offset1).2).mp hoffset
    have hpos := (prime1_bounds hle (hindexes index hindex)).1
    obtain ⟨prime3, hmem, heq⟩ := (divides_iff hpos (primes2_bounds prime2 h2).1 (by omega)).mp ⟨hmod1, hmod2, h3⟩
    refine ⟨hle, index, hindex, prime2, h2, prime3, hmem, ?_⟩
    rw [product, heq, Nat.mul_comm, Nat.mul_add_mod, Nat.mod_eq_of_lt hserial]
  · rintro ⟨-, index, hindex, prime2, h2, prime3, h3, heq⟩
    have hpos := (prime1_bounds hle (hindexes index hindex)).1
    have hbound := product_bound hle (hindexes index hindex) h2 h3
    rw [product] at heq
    have hsplit : primes1.getD (domain.toNat * 30 + index) 0 * prime2 * prime3 / 2 ^ 32 * 2 ^ 32 +
        serialNumber.toNat = primes1.getD (domain.toNat * 30 + index) 0 * prime2 * prime3 := by
      rw [← heq, Nat.div_add_mod']
    have hhigh := (Nat.div_lt_iff_lt_mul (by decide)).mpr hbound
    refine ⟨_, hhigh, _, ((mem_offsets hdomain _).2).mpr ⟨index, hindex, rfl⟩, ?_⟩
    rw [hsplit]
    obtain ⟨hmod1, hmod2, hcheck⟩ := (divides_iff hpos (primes2_bounds prime2 h2).1 (by omega)).mpr ⟨prime3, h3, rfl⟩
    exact ⟨hmod1, prime2, h2, hmod2, hcheck⟩

/-- The fast check gives the same results as the slow one. -/
theorem dcSerialNumberIsValidFast_eq_slow (s : Text) (domain subdomain : UInt8) :
    dcSerialNumberIsValidFast s domain subdomain = dcSerialNumberIsValidSlow s domain subdomain := by
  rw [Bool.eq_iff_iff, dcSerialNumberIsValidSlow_iff, dcSerialNumberIsValidFast]
  cases hdecode : decodeDcSerialNumberStr s with
  | none => simp
  | some serialNumber =>
      have hlt := decodeDcSerialNumberStr_lt hdecode
      simp only [decodedDcSerialNumberIsValidFast_iff, ofNat_toNat_lt hlt, Option.some.injEq, exists_eq_left']

/-- The number that eight digits spell. -/
def spelled (s : Text) : Option UInt32 :=
  if s.length = 8 then (hexValues s).map fun ds => .ofNat (value 16 ds) else none

/-- The check of a number agrees with the check of each text that spells it. -/
theorem dcSerialNumberIsValidFast_spelled (s : Text) (domain subdomain : UInt8) :
    dcSerialNumberIsValidFast s domain subdomain =
      (spelled s).any fun serialNumber => dcSerialNumberIsValidFastInt serialNumber domain subdomain := by
  rw [dcSerialNumberIsValidFast, decodeDcSerialNumberStr_eq, spelled]
  by_cases hlen : s.length = 8
  · rw [if_neg (not_not.mpr hlen), if_pos hlen]
    cases hds : hexValues s with
    | none => rfl
    | some ds =>
        obtain ⟨hcount, hlt⟩ := hexValues_lt hds
        have hvalue : value 16 ds < 2 ^ 32 := by
          have hbound := value_lt ds hlt
          rw [hcount, hlen] at hbound
          exact hbound
        have hdecode : decodeDcSerialNumberInt (.ofNat (value 16 ds)) =
            .ofNat (value 16 (ds.map (onDigit replaceNybbleForward))) := by
          have hdigits := digits_value ds hlt
          rw [hcount, hlen] at hdigits
          have htoNat := toNat_replaceNybbles replaces_forward (.ofNat (value 16 ds))
          rw [ofNat_toNat_lt hvalue, hdigits] at htoNat
          rw [← htoNat, UInt32.ofNat_toNat]
          rfl
        rw [Option.map_some, Option.map_some, Option.any_some, dcSerialNumberIsValidFastInt, hdecode]
  · rw [if_pos hlen, if_neg hlen]
    rfl

/-! Generated serial numbers. -/

theorem formatHex_eq (v : UInt32) : formatHex v = (digits 16 8 v.toNat).map hexChar := by
  simp only [formatHex, digits, List.map_cons, List.map_nil, List.nil_append, List.cons_append,
    Nat.shiftRight_eq_div_pow, Nat.div_div_eq_div_mul, Nat.reduceMul, Nat.reducePow, Nat.div_one]

/-- The digits as they are generated. -/
def upperDigits : Text := "0123456789ABCDEF".toList

theorem replaceCharReverse_hexChar : ∀ d < 16, (replaceCharReverse (hexChar d)).getD '0' =
    hexChar (onDigit replaceNybbleReverse d) ∧ digit? 16 (hexChar d) = some d ∧ hexChar d ∈ upperDigits := by
  decide +kernel

theorem exists_hexChar : ∀ ch ∈ upperDigits, ∃ d < 16, hexChar d = ch := by
  have hall : upperDigits.all (fun ch => (List.range 16).any fun d => hexChar d = ch) = true := by
    decide +kernel
  intro ch hch
  obtain ⟨d, hd, heq⟩ := List.any_eq_true.mp (List.all_eq_true.mp hall ch hch)
  exact ⟨d, List.mem_range.mp hd, of_decide_eq_true heq⟩

theorem hexValues_map {ds : List Nat} (hds : ∀ d ∈ ds, d < 16) : hexValues (ds.map hexChar) = some ds := by
  induction ds with
  | nil => rfl
  | cons d ds ih =>
      obtain ⟨hd, hds⟩ := List.forall_mem_cons.mp hds
      have hrest := ih hds
      rw [hexValues] at hrest
      rw [hexValues, List.map_cons, List.mapM_cons, (replaceCharReverse_hexChar d hd).2.1, hrest]
      rfl

theorem exists_hexDigits {s : Text} (h : ∀ ch ∈ s, ch ∈ upperDigits) :
    ∃ ds : List Nat, (∀ d ∈ ds, d < 16) ∧ ds.map hexChar = s := by
  induction s with
  | nil => exact ⟨[], fun d hd => absurd hd List.not_mem_nil, rfl⟩
  | cons ch s ih =>
      obtain ⟨hch, hs⟩ := List.forall_mem_cons.mp h
      obtain ⟨d, hd, rfl⟩ := exists_hexChar ch hch
      obtain ⟨ds, hds, rfl⟩ := ih hs
      exact ⟨d :: ds, List.forall_mem_cons.mpr ⟨hd, hds⟩, rfl⟩

/-- The digits of a product, each replaced. -/
def written (v : Nat) : Text := (digits 16 8 v).map fun d => hexChar (onDigit replaceNybbleReverse d)

theorem decode_written {v : Nat} (hv : v < 2 ^ 32) : decodeDcSerialNumberStr (written v) = some v := by
  have hdigits := digits_lt (show 0 < 16 by decide) 8 v
  have hreplaced : ∀ d ∈ (digits 16 8 v).map (onDigit replaceNybbleReverse), d < 16 := by
    intro d hd
    obtain ⟨d', -, rfl⟩ := List.mem_map.mp hd
    exact replaces_reverse.lt _
  have hvalues := hexValues_map hreplaced
  rw [List.map_map] at hvalues
  have hlen : ¬ (written v).length ≠ 8 := by
    rw [written, List.length_map, digits_length]
    decide
  rw [decodeDcSerialNumberStr_eq, if_neg hlen, written]
  rw [show (fun d => hexChar (onDigit replaceNybbleReverse d)) = hexChar ∘ onDigit replaceNybbleReverse from rfl,
    hvalues, Option.map_some, map_onDigit_inverse (fun d hd => (onDigit_inverse d hd).1) hdigits, value_digits,
    Nat.mod_eq_of_lt (show v < 16 ^ 8 from hv)]

theorem eq_written {s : Text} {v : Nat} (hs : ∀ ch ∈ s, ch ∈ upperDigits) (h : decodeDcSerialNumberStr s = some v) :
    s = written v := by
  obtain ⟨ds, hds, rfl⟩ := exists_hexDigits hs
  rw [decodeDcSerialNumberStr_eq, List.length_map] at h
  split at h
  · cases h
  · rename_i hlen
    rw [hexValues_map hds, Option.map_some] at h
    obtain rfl := Option.some.inj h
    have hforward : ∀ d ∈ ds.map (onDigit replaceNybbleForward), d < 16 := by
      intro d hd
      obtain ⟨d', -, rfl⟩ := List.mem_map.mp hd
      exact replaces_forward.lt _
    have hdigits := digits_value _ hforward
    rw [List.length_map, Decidable.not_not.mp hlen] at hdigits
    have hinverse := map_onDigit_inverse (fun d hd => (onDigit_inverse d hd).2) hds
    rw [written, hdigits]
    rw [show (fun d => hexChar (onDigit replaceNybbleReverse d)) = hexChar ∘ onDigit replaceNybbleReverse from rfl,
      ← List.map_map, hinverse]

theorem product_lt (index prime2 prime3 : Nat) : product index prime2 prime3 < 2 ^ 32 :=
  Nat.mod_lt _ (Nat.two_pow_pos 32)

theorem map_formatHex {v : Nat} (hv : v < 2 ^ 32) :
    (formatHex (.ofNat v)).map (fun ch => (replaceCharReverse ch).getD '0') = written v := by
  rw [formatHex_eq, List.map_map, ofNat_toNat_lt hv, written]
  exact List.map_congr_left fun d hd => (replaceCharReverse_hexChar d (digits_lt (by decide) 8 v d hd)).1

theorem mem_upperDigits_written (v : Nat) : ∀ ch ∈ written v, ch ∈ upperDigits := by
  intro ch hch
  obtain ⟨d, -, rfl⟩ := List.mem_map.mp hch
  exact (replaceCharReverse_hexChar _ (replaces_reverse.lt _)).2.2

/-- The index of the first prime, among those of the domain. -/
def drawnIndex (subdomain : UInt8) (draw1 : UInt32) : Nat :=
  (if subdomain = 0xFF then draw1.toNat else subdomain.toNat) % 3

theorem generateDcSerialNumber_eq (domain subdomain : UInt8) (draw1 draw2 draw3 : UInt32) :
    generateDcSerialNumber domain subdomain draw1 draw2 draw3 =
      if domain ≤ 2 then .ok (written (product (domain.toNat * 30 + drawnIndex subdomain draw1)
        (primes2.getD (draw2.toNat % primes2.length) 0) (primes3.getD (draw3.toNat % primes3.length) 0)))
      else .error (.runtimeError "invalid domain") := by
  have hrange : generatorRange domain = if domain ≤ 2 then .ok (domain.toNat * 30, domain.toNat * 30 + 3)
      else .error (.runtimeError "invalid domain") := by
    rw [generatorRange]
    split
    · subst domain
      rfl
    split
    · subst domain
      rfl
    split
    · subst domain
      rfl
    · rename_i h0 h1 h2
      have hne : domain.toNat ≠ 0 ∧ domain.toNat ≠ 1 ∧ domain.toNat ≠ 2 :=
        ⟨fun h => h0 (UInt8.toNat_inj.mp h), fun h => h1 (UInt8.toNat_inj.mp h), fun h => h2 (UInt8.toNat_inj.mp h)⟩
      have hgt : ¬ domain ≤ 2 := fun hle => by
        have htoNat : domain.toNat ≤ 2 := hle
        omega
      rw [if_neg hgt]
  rw [generateDcSerialNumber, hrange]
  split
  · show Except.ok _ = _
    rw [map_formatHex (product_lt _ _ _), Nat.add_sub_cancel_left, drawnIndex]
  · rfl

theorem exists_getD {primes : List Nat} {prime : Nat} (h : prime ∈ primes) :
    ∃ i < primes.length, primes.getD i 0 = prime := by
  obtain ⟨i, hi, rfl⟩ := List.mem_iff_getElem.mp h
  exact ⟨i, hi, List.getD_eq_getElem primes 0 hi⟩

theorem getD_mem {primes : List Nat} {i : Nat} (hi : i < primes.length) : primes.getD i 0 ∈ primes := by
  rw [List.getD_eq_getElem _ _ hi]
  exact List.getElem_mem hi

/-- Exactly the valid serial numbers with capital letters are generated. -/
theorem generateDcSerialNumber_iff (s : Text) (domain subdomain : UInt8) :
    (∃ draw1 draw2 draw3, generateDcSerialNumber domain subdomain draw1 draw2 draw3 = .ok s) ↔
      (∀ ch ∈ s, ch ∈ upperDigits) ∧ dcSerialNumberIsValidSlow s domain subdomain = true := by
  simp only [generateDcSerialNumber_eq, dcSerialNumberIsValidSlow_iff, IsProduct]
  have hlength2 := primes2_length
  have hlength3 := primes3_length
  constructor
  · rintro ⟨draw1, draw2, draw3, h⟩
    split at h
    · rename_i hdomain
      obtain rfl := Except.ok.inj h
      refine ⟨mem_upperDigits_written _, _, decode_written (product_lt _ _ _), hdomain,
        drawnIndex subdomain draw1, ?_, _, getD_mem (Nat.mod_lt _ (by omega)), _, getD_mem (Nat.mod_lt _ (by omega)), rfl⟩
      rw [drawnIndex]
      split
      · exact Nat.mod_lt _ (by decide)
      · rfl
    · cases h
  · rintro ⟨hupper, v, hdecode, hdomain, index, hindex, prime2, h2, prime3, h3, rfl⟩
    obtain ⟨index2, hlt2, rfl⟩ := exists_getD h2
    obtain ⟨index3, hlt3, rfl⟩ := exists_getD h3
    refine ⟨.ofNat index, .ofNat index2, .ofNat index3, ?_⟩
    have hdrawn : drawnIndex subdomain (.ofNat index) = index := by
      rw [drawnIndex]
      split at hindex
      · rename_i hall
        rw [if_pos hall, ofNat_toNat_lt (by omega), Nat.mod_eq_of_lt hindex]
      · rename_i hall
        rw [if_neg hall, hindex]
    rw [if_pos hdomain, hdrawn, ofNat_toNat_lt (by omega), ofNat_toNat_lt (by omega), Nat.mod_eq_of_lt hlt2,
      Nat.mod_eq_of_lt hlt3, ← eq_written hupper hdecode]

end HuntersGuild.DcSerialChecks
