import Mathlib.Data.List.Basic
import Mathlib.Tactic.IntervalCases

/-!
Reading integers the way the standard library does: leading spaces, a sign, a
base prefix, and as many digits as there are.
-/

namespace HuntersGuild.Numerals

abbrev Text := List Char

/-- A check of the characters of a text, and not of all characters there are. -/
theorem forall_mem_of_all {p : Char → Prop} [DecidablePred p] {cs : Text}
    (h : cs.all fun c => p c) : ∀ c ∈ cs, p c :=
  fun c hc => of_decide_eq_true (List.all_eq_true.mp h c hc)

/-- The characters that count as spaces. -/
def isSpace (c : Char) : Bool :=
  c = ' ' ∨ c = '\t' ∨ c = '\n' ∨ c = '\x0B' ∨ c = '\x0C' ∨ c = '\r'

def digitValue? (c : Char) : Option Nat :=
  if 48 ≤ c.toNat ∧ c.toNat ≤ 57 then
    some (c.toNat - 48)
  else if 97 ≤ c.toNat ∧ c.toNat ≤ 122 then
    some (c.toNat - 87)
  else if 65 ≤ c.toNat ∧ c.toNat ≤ 90 then
    some (c.toNat - 55)
  else
    none

def digit? (base : Nat) (c : Char) : Option Nat := (digitValue? c).filter (· < base)

/-- The value of the leading digits, and what follows them. -/
def scanDigits (base : Nat) : Nat → Text → Nat × Text
  | value, [] => (value, [])
  | value, c :: cs =>
    match digit? base c with
    | some d => scanDigits base (base * value + d) cs
    | none => (value, c :: cs)

def takeSign : Text → Bool × Text
  | '-' :: cs => (true, cs)
  | '+' :: cs => (false, cs)
  | cs => (false, cs)

def startsWithDigit (base : Nat) : Text → Bool
  | [] => false
  | c :: _ => (digit? base c).isSome

/-- A hexadecimal prefix counts only if a digit follows it. -/
def takePrefix (base : Nat) : Text → Nat × Text
  | '0' :: x :: cs =>
    if (x = 'x' ∨ x = 'X') ∧ (base = 0 ∨ base = 16) ∧ startsWithDigit 16 cs then
      (16, cs)
    else if base = 0 then
      (8, '0' :: x :: cs)
    else
      (base, '0' :: x :: cs)
  | '0' :: cs => (if base = 0 then 8 else base, '0' :: cs)
  | cs => (if base = 0 then 10 else base, cs)

structure Scanned where
  negative : Bool
  magnitude : Nat
  rest : Text

/-- The integer at the start of a text, if there is one. Base 0 stands for the
base that the prefix tells. -/
def scanInteger (base : Nat) (text : Text) : Option Scanned :=
  let (negative, cs) := takeSign (text.dropWhile isSpace)
  let (base, cs) := takePrefix base cs
  if startsWithDigit base cs then
    let (magnitude, rest) := scanDigits base 0 cs
    some ⟨negative, magnitude, rest⟩
  else
    none

def Scanned.value (self : Scanned) : Int :=
  if self.negative then -self.magnitude else self.magnitude

/-- A negative number wraps around. -/
def Scanned.unsigned (self : Scanned) : UInt64 :=
  if self.negative then 0 - UInt64.ofNat self.magnitude else UInt64.ofNat self.magnitude

/-- `strtoul`: the value, and the text from the end pointer on. -/
def strtoul (base : Nat) (text : Text) : UInt64 × Text :=
  match scanInteger base text with
  | none => (0, text)
  | some scanned =>
    if scanned.magnitude < 2 ^ 64 then
      (scanned.unsigned, scanned.rest)
    else
      (0xFFFFFFFFFFFFFFFF, scanned.rest)

inductive NumberError where
  | invalidArgument
  | outOfRange
deriving DecidableEq

/-- `std::stoul`: the value, and the text from the end position on. -/
def stoul (base : Nat) (text : Text) : Except NumberError (UInt64 × Text) :=
  match scanInteger base text with
  | none => .error .invalidArgument
  | some scanned =>
    if scanned.magnitude < 2 ^ 64 then
      .ok (scanned.unsigned, scanned.rest)
    else
      .error .outOfRange

/-- `std::stoll`. -/
def stoll (base : Nat) (text : Text) : Except NumberError (Int64 × Text) :=
  match scanInteger base text with
  | none => .error .invalidArgument
  | some scanned =>
    if -2 ^ 63 ≤ scanned.value ∧ scanned.value < 2 ^ 63 then
      .ok (Int64.ofInt scanned.value, scanned.rest)
    else
      .error .outOfRange

/-! Digits. -/

/-- A text of digits only. -/
structure Digits (base : Nat) (text : Text) (value : Nat) : Prop where
  digits : ∀ c ∈ text, (digit? base c).isSome
  nonempty : text ≠ []
  value : scanDigits base 0 text = (value, [])

theorem scanDigits_append {base : Nat} {text rest : Text} (value : Nat)
    (hdigits : ∀ c ∈ text, (digit? base c).isSome) (hrest : startsWithDigit base rest = false) :
    scanDigits base value (text ++ rest) = ((scanDigits base value text).1, rest) := by
  induction text generalizing value with
  | nil =>
      cases rest with
      | nil => rfl
      | cons c cs =>
          have hnone : digit? base c = none := Option.isSome_eq_false_iff.mp hrest |>
            Option.isNone_iff_eq_none.mp
          simp only [List.nil_append, scanDigits, hnone]
  | cons c cs ih =>
      obtain ⟨d, hd⟩ := Option.isSome_iff_exists.mp (hdigits c List.mem_cons_self)
      simp only [List.cons_append, scanDigits, hd]
      exact ih (base * value + d) fun c' hc' => hdigits c' (List.mem_cons_of_mem c hc')

theorem Digits.scan {base value : Nat} {text rest : Text} (h : Digits base text value)
    (hrest : startsWithDigit base rest = false) :
    scanDigits base 0 (text ++ rest) = (value, rest) := by
  rw [scanDigits_append 0 h.digits hrest, h.value]

theorem Digits.startsWithDigit {base value : Nat} {text : Text} (h : Digits base text value)
    (rest : Text) : startsWithDigit base (text ++ rest) := by
  cases text with
  | nil => exact absurd rfl h.nonempty
  | cons c cs => exact h.digits c List.mem_cons_self

theorem digit?_ten_of_isDigit {c : Char} (h : c.isDigit) : digit? 10 c = some (c.toNat - 48) := by
  have hrange : 48 ≤ c.toNat ∧ c.toNat ≤ 57 := by
    rw [Char.isDigit_iff_toNat] at h
    exact h
  rw [digit?, digitValue?, if_pos hrange, Option.filter_some, if_pos]
  exact decide_eq_true (by omega)

theorem isDigit_of_digit?_ten {c : Char} (h : (digit? 10 c).isSome) : c.isDigit := by
  obtain ⟨d, hd⟩ := Option.isSome_iff_exists.mp h
  obtain ⟨hvalue, hlt⟩ := Option.filter_eq_some_iff.mp hd
  have hlt : d < 10 := of_decide_eq_true hlt
  rw [Char.isDigit_iff_toNat]
  unfold digitValue? at hvalue
  split_ifs at hvalue with h1 h2 h3
  · exact h1
  · have := Option.some.inj hvalue
    omega
  · have := Option.some.inj hvalue
    omega

theorem scanDigits_ten {text : Text} (value : Nat) (h : ∀ c ∈ text, c.isDigit) :
    scanDigits 10 value text = (Nat.ofDigitChars 10 text value, []) := by
  induction text generalizing value with
  | nil => rfl
  | cons c cs ih =>
      simp only [scanDigits, digit?_ten_of_isDigit (h c List.mem_cons_self)]
      rw [ih _ fun c' hc' => h c' (List.mem_cons_of_mem c hc'), Nat.ofDigitChars_cons]
      rfl

theorem digits_ten {text : Text} (hne : text ≠ []) (h : ∀ c ∈ text, c.isDigit) :
    Digits 10 text (Nat.ofDigitChars 10 text 0) where
  digits := fun c hc => by rw [digit?_ten_of_isDigit (h c hc)]; rfl
  nonempty := hne
  value := scanDigits_ten 0 h

/-- A printed number. -/
theorem digits_toDigits (n : Nat) : Digits 10 (Nat.toDigits 10 n) n := by
  have h := @digits_ten (Nat.toDigits 10 n) Nat.toDigits_ne_nil
    fun c hc => Nat.isDigit_of_mem_toDigits (by decide) (by decide) hc
  rwa [Nat.ofDigitChars_ten_toDigits] at h

/-! Numbers in base ten. -/

theorem isSpace_of_isDigit {c : Char} (h : c.isDigit) : isSpace c = false := by
  rw [Char.isDigit_iff_toNat] at h
  have hne (space : Char) (hspace : space.toNat < 48) : c ≠ space := by
    rintro rfl
    exact Nat.not_lt.mpr h.1 hspace
  exact decide_eq_false (by simp only [hne _ (by decide : (' ' : Char).toNat < 48),
    hne _ (by decide : ('\t' : Char).toNat < 48), hne _ (by decide : ('\n' : Char).toNat < 48),
    hne _ (by decide : ('\x0B' : Char).toNat < 48), hne _ (by decide : ('\x0C' : Char).toNat < 48),
    hne _ (by decide : ('\r' : Char).toNat < 48), or_self, not_false_eq_true])

theorem takeSign_of_isDigit {c : Char} (h : c.isDigit) (cs : Text) :
    takeSign (c :: cs) = (false, c :: cs) := by
  unfold takeSign
  split
  · rename_i heq
    cases heq
    cases h
  · rename_i heq
    cases heq
    cases h
  · rfl

theorem takePrefix_ten (text : Text) : takePrefix 10 text = (10, text) := by
  unfold takePrefix
  split
  · rw [if_neg (fun h => by omega : ¬ ((_ ∨ _) ∧ (10 = 0 ∨ 10 = 16) ∧ _)), if_neg (by decide)]
  · rfl
  · rfl

theorem scanInteger_ten {text rest : Text} {value : Nat} (h : Digits 10 text value)
    (hrest : startsWithDigit 10 rest = false) :
    scanInteger 10 (text ++ rest) = some ⟨false, value, rest⟩ := by
  have hstarts := h.startsWithDigit rest
  have hscan := h.scan hrest
  rcases text with _ | ⟨c, cs⟩
  · exact absurd rfl h.nonempty
  · have hc : c.isDigit := isDigit_of_digit?_ten (h.digits c List.mem_cons_self)
    have hdrop : (c :: cs ++ rest).dropWhile isSpace = c :: cs ++ rest := by
      rw [List.cons_append, List.dropWhile_cons, isSpace_of_isDigit hc]
      rfl
    have hsign : takeSign (c :: cs ++ rest) = (false, c :: cs ++ rest) :=
      takeSign_of_isDigit hc (cs ++ rest)
    simp only [scanInteger, hdrop, hsign, takePrefix_ten, hstarts, if_true, hscan]

theorem stoul_ten {text : Text} {value : Nat} (h : Digits 10 text value) (hlt : value < 2 ^ 64) :
    stoul 10 text = .ok (UInt64.ofNat value, []) := by
  have hscan := @scanInteger_ten _ [] _ h rfl
  rw [List.append_nil] at hscan
  simp only [stoul, hscan, if_pos hlt]
  rfl

/-! Printed numbers. -/

theorem head_toDigits {n : Nat} (hn : 0 < n) :
    ∃ c cs, Nat.toDigits 10 n = c :: cs ∧ c.isDigit ∧ c ≠ '0' := by
  induction n using Nat.strongRecOn with
  | ind n ih =>
      by_cases hlt : n < 10
      · refine ⟨n.digitChar, [], Nat.toDigits_of_lt_base hlt, ?_⟩
        interval_cases n <;> decide
      · obtain ⟨c, cs, hdigits, hc⟩ := ih (n / 10) (by omega) (by omega)
        refine ⟨c, cs ++ [(n % 10).digitChar], ?_, hc⟩
        rw [Nat.toDigits_of_base_le (by decide) (by omega), hdigits]
        rfl

/-- A number without leading zeros has no prefix, so that any base is told right. -/
theorem scanInteger_of_head_ne {c : Char} {cs rest : Text} {value : Nat}
    (h : Digits 10 (c :: cs) value) (hzero : c ≠ '0') (hrest : startsWithDigit 10 rest = false) :
    scanInteger 0 (c :: cs ++ rest) = some ⟨false, value, rest⟩ := by
  have hstarts := h.startsWithDigit rest
  have hscan := h.scan hrest
  have hc : c.isDigit := isDigit_of_digit?_ten (h.digits c List.mem_cons_self)
  rw [List.cons_append] at hstarts hscan ⊢
  have hdrop : (c :: (cs ++ rest)).dropWhile isSpace = c :: (cs ++ rest) := by
    rw [List.dropWhile_cons, isSpace_of_isDigit hc]
    rfl
  have hfront : takePrefix 0 (c :: (cs ++ rest)) = (10, c :: (cs ++ rest)) := by
    unfold takePrefix
    split
    · rename_i heq
      exact absurd (List.cons.inj heq).1 hzero
    · rename_i heq
      exact absurd (List.cons.inj heq).1 hzero
    · rfl
  simp only [scanInteger, hdrop, takeSign_of_isDigit hc, hfront, hstarts, if_true, hscan]

theorem scanInteger_toDigits {n : Nat} {rest : Text} (hn : 0 < n)
    (hrest : startsWithDigit 10 rest = false) :
    scanInteger 0 (Nat.toDigits 10 n ++ rest) = some ⟨false, n, rest⟩ := by
  have hdigits := digits_toDigits n
  obtain ⟨c, cs, hcons, -, hzero⟩ := head_toDigits hn
  rw [hcons] at hdigits ⊢
  exact scanInteger_of_head_ne hdigits hzero hrest

/-! Numbers with leading zeros, which base 0 takes for octal ones. -/

theorem Digits.value_eq {text : Text} {value : Nat} (h : Digits 10 text value) :
    value = Nat.ofDigitChars 10 text 0 := by
  have hdigits := fun c hc => isDigit_of_digit?_ten (h.digits c hc)
  have hscan := h.value
  rw [scanDigits_ten 0 hdigits] at hscan
  exact (Prod.mk.inj hscan).1.symm

theorem le_ofDigitChars (text : Text) {v w : Nat} (h : v ≤ w) : v ≤ Nat.ofDigitChars 10 text w := by
  induction text generalizing w with
  | nil => exact h
  | cons c cs ih =>
      rw [Nat.ofDigitChars_cons]
      exact ih (by omega)

theorem digit?_eight_of_isDigit {c : Char} (h : c.isDigit) :
    digit? 8 c = if c.toNat - 48 < 8 then some (c.toNat - 48) else none := by
  have hrange : 48 ≤ c.toNat ∧ c.toNat ≤ 57 := by
    rw [Char.isDigit_iff_toNat] at h
    exact h
  rw [digit?, digitValue?, if_pos hrange, Option.filter_some]
  simp only [decide_eq_true_eq]

/-- Digits are worth less in base eight, where 8 and 9 end the number. -/
theorem scanDigits_eight_add_le {text : Text} (h : ∀ c ∈ text, c.isDigit) {k v w : Nat}
    (hle : k + v ≤ w) : k + (scanDigits 8 v text).1 ≤ Nat.ofDigitChars 10 text w := by
  induction text generalizing v w with
  | nil => exact hle
  | cons c cs ih =>
      have hdigit := digit?_eight_of_isDigit (h c List.mem_cons_self)
      by_cases hoctal : c.toNat - 48 < 8
      · rw [if_pos hoctal] at hdigit
        simp only [scanDigits, hdigit]
        rw [Nat.ofDigitChars_cons]
        apply ih fun c' hc' => h c' (List.mem_cons_of_mem c hc')
        change k + (8 * v + (c.toNat - 48)) ≤ 10 * w + (c.toNat - 48)
        omega
      · rw [if_neg hoctal] at hdigit
        simp only [scanDigits, hdigit]
        exact le_ofDigitChars (c :: cs) hle

theorem scanDigits_eight_cons_lt {c : Char} {cs : Text} (h : ∀ c' ∈ c :: cs, c'.isDigit) {v : Nat}
    (hpos : 0 < v) : (scanDigits 8 v (c :: cs)).1 < Nat.ofDigitChars 10 (c :: cs) v := by
  have hdigit := digit?_eight_of_isDigit (h c List.mem_cons_self)
  rw [Nat.ofDigitChars_cons]
  by_cases hoctal : c.toNat - 48 < 8
  · rw [if_pos hoctal] at hdigit
    simp only [scanDigits, hdigit]
    rw [Nat.lt_iff_add_one_le, Nat.add_comm]
    apply scanDigits_eight_add_le fun c' hc' => h c' (List.mem_cons_of_mem c hc')
    change 1 + (8 * v + (c.toNat - 48)) ≤ 10 * v + (c.toNat - 48)
    omega
  · rw [if_neg hoctal] at hdigit
    simp only [scanDigits, hdigit]
    exact le_ofDigitChars cs (by omega)

/-- Only numbers of one octal digit are the same in both bases. -/
theorem scanDigits_eight_eq_iff {text : Text} (h : ∀ c ∈ text, c.isDigit) :
    (scanDigits 8 0 text).1 = Nat.ofDigitChars 10 text 0 ↔ Nat.ofDigitChars 10 text 0 ≤ 7 := by
  induction text with
  | nil => exact iff_of_true rfl (Nat.zero_le 7)
  | cons c cs ih =>
      have hcs : ∀ c' ∈ cs, c'.isDigit := fun c' hc' => h c' (List.mem_cons_of_mem c hc')
      have hdigit := digit?_eight_of_isDigit (h c List.mem_cons_self)
      have hdec : Nat.ofDigitChars 10 (c :: cs) 0 = Nat.ofDigitChars 10 cs (c.toNat - 48) := by
        rw [Nat.ofDigitChars_cons, Nat.mul_zero, Nat.zero_add]
        rfl
      rw [hdec]
      by_cases hoctal : c.toNat - 48 < 8
      · rw [if_pos hoctal] at hdigit
        simp only [scanDigits, hdigit, Nat.mul_zero, Nat.zero_add]
        rcases Nat.eq_zero_or_pos (c.toNat - 48) with hzero | hpos
        · rw [hzero]
          exact ih hcs
        · cases cs with
          | nil => exact iff_of_true rfl (Nat.le_of_lt_succ hoctal)
          | cons c' cs' =>
              have hlt := scanDigits_eight_cons_lt hcs hpos
              have hten : 10 ≤ Nat.ofDigitChars 10 (c' :: cs') (c.toNat - 48) := by
                rw [Nat.ofDigitChars_cons]
                exact le_ofDigitChars cs' (by omega)
              omega
      · rw [if_neg hoctal] at hdigit
        simp only [scanDigits, hdigit]
        have hle := le_ofDigitChars cs (Nat.le_refl (c.toNat - 48))
        omega

/-- Base 0 reads a number with a leading zero in base eight. -/
theorem scanInteger_leadingZero {cs : Text} {value : Nat} (h : Digits 10 ('0' :: cs) value) :
    ∃ magnitude rest, scanInteger 0 ('0' :: cs) = some ⟨false, magnitude, rest⟩ ∧
      magnitude ≤ value ∧ (magnitude = value ↔ value ≤ 7) := by
  have hdigits : ∀ c ∈ '0' :: cs, c.isDigit := fun c hc => isDigit_of_digit?_ten (h.digits c hc)
  have hfront : takePrefix 0 ('0' :: cs) = (8, '0' :: cs) := by
    cases cs with
    | nil => rfl
    | cons x cs' =>
        have hx : x.isDigit := hdigits x (by simp)
        have hplain : ¬ ((x = 'x' ∨ x = 'X') ∧ ((0 : Nat) = 0 ∨ (0 : Nat) = 16) ∧
            startsWithDigit 16 cs') := by
          rintro ⟨rfl | rfl, -, -⟩
          · cases hx
          · cases hx
        rw [takePrefix, if_neg hplain, if_pos rfl]
  have hscan : scanInteger 0 ('0' :: cs) =
      some ⟨false, (scanDigits 8 0 ('0' :: cs)).1, (scanDigits 8 0 ('0' :: cs)).2⟩ := by
    have hdrop : ('0' :: cs).dropWhile isSpace = '0' :: cs := rfl
    have hsign : takeSign ('0' :: cs) = (false, '0' :: cs) := rfl
    have hstarts : startsWithDigit 8 ('0' :: cs) = true := rfl
    simp only [scanInteger, hdrop, hsign, hfront, hstarts, if_true]
  refine ⟨_, _, hscan, ?_, ?_⟩
  · rw [h.value_eq]
    have hle := scanDigits_eight_add_le hdigits (Nat.zero_add 0).le
    rwa [Nat.zero_add] at hle
  · rw [h.value_eq]
    exact scanDigits_eight_eq_iff hdigits

/-- A decimal number that base 0 reads is less than it says only when it has a
leading zero and more than one octal digit. -/
theorem stoul_zero {text : Text} {value : Nat} (h : Digits 10 text value) (hlt : value < 2 ^ 64) :
    ∃ magnitude rest, stoul 0 text = .ok (UInt64.ofNat magnitude, rest) ∧ magnitude ≤ value ∧
      (magnitude = value ↔ (text.head? = some '0' → value ≤ 7)) := by
  cases text with
  | nil => exact absurd rfl h.nonempty
  | cons c cs =>
      by_cases hzero : c = '0'
      · subst hzero
        obtain ⟨magnitude, rest, hscan, hle, hiff⟩ := scanInteger_leadingZero h
        refine ⟨magnitude, rest, ?_, hle, ?_⟩
        · simp only [stoul, hscan, if_pos (Nat.lt_of_le_of_lt hle hlt)]
          rfl
        · rw [hiff]
          exact ⟨fun h _ => h, fun h => h rfl⟩
      · have hscan := @scanInteger_of_head_ne c cs [] value h hzero rfl
        rw [List.append_nil] at hscan
        refine ⟨value, [], ?_, Nat.le_refl value, ?_⟩
        · simp only [stoul, hscan, if_pos hlt]
          rfl
        · exact iff_of_true rfl fun h => absurd (Option.some.inj h) hzero

/-! Negative numbers. -/

theorem takeSign_eq_true {text cs : Text} (h : takeSign text = (true, cs)) : text = '-' :: cs := by
  unfold takeSign at h
  split at h
  · rw [(Prod.mk.inj h).2]
  · cases (Prod.mk.inj h).1
  · cases (Prod.mk.inj h).1

theorem exists_of_startsWithDigit {base : Nat} {cs : Text}
    (h : startsWithDigit (takePrefix base cs).1 (takePrefix base cs).2) :
    ∃ d ds, cs = d :: ds ∧ d ≠ '-' := by
  cases cs with
  | nil => cases h
  | cons d ds =>
      refine ⟨d, ds, rfl, ?_⟩
      rintro rfl
      simp only [takePrefix, startsWithDigit, digit?] at h
      cases h

/-- A minus stands before something else. -/
theorem exists_of_negative {base : Nat} {text : Text} {scanned : Scanned}
    (h : scanInteger base text = some scanned) (hnegative : scanned.negative = true) :
    ∃ d ds, text.dropWhile isSpace = '-' :: d :: ds ∧ d ≠ '-' := by
  rcases hsign : takeSign (text.dropWhile isSpace) with ⟨negative, cs⟩
  simp only [scanInteger, hsign] at h
  split_ifs at h with hdigit
  obtain rfl := Option.some.inj h
  obtain rfl : negative = true := hnegative
  obtain ⟨d, ds, rfl, hd⟩ := exists_of_startsWithDigit hdigit
  exact ⟨d, ds, takeSign_eq_true hsign, hd⟩

end HuntersGuild.Numerals
