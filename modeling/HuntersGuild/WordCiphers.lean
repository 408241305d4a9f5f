import HuntersGuild.StringReaders
import HuntersGuild.WordStreams
import Mathlib.Tactic.IntervalCases

/-!
Ciphers that combine the words of a message with the words of a generator, in either
byte order and with an operation that undoes itself. The last word may be cut off.
-/

namespace HuntersGuild.WordCiphers

open HuntersGuild.StringReaders
open HuntersGuild.WordBytes
open HuntersGuild.WordStreams

variable {σ : Type} {op : UInt32 → UInt32 → UInt32} {be : Bool} {next : σ → UInt32 × σ} {s : σ}

/-- The word with these bytes. Fewer than four bytes are padded with zeros. -/
def paddedWord (be : Bool) (bytes : List UInt8) : UInt32 :=
  let bytes := bytes ++ List.replicate (4 - bytes.length) 0
  .ofNat (if be then fromBigEndian bytes else fromLittleEndian bytes)

/-- As many bytes of the combined word as were given. -/
def combineWord (op : UInt32 → UInt32 → UInt32) (be : Bool) (key : UInt32) (bytes : List UInt8) :
    List UInt8 :=
  (putU32 be (op key (paddedWord be bytes))).take bytes.length

def combineWords (op : UInt32 → UInt32 → UInt32) (be : Bool) (next : σ → UInt32 × σ) (s : σ) :
    List UInt8 → List UInt8 × σ
  | b0 :: b1 :: b2 :: b3 :: rest =>
      let (key, s) := next s
      let (out, s) := combineWords op be next s rest
      (combineWord op be key [b0, b1, b2, b3] ++ out, s)
  | [] => ([], s)
  | last =>
      let (key, s) := next s
      (combineWord op be key last, s)

/-! Words. -/

theorem take_littleEndian {i width n : Nat} (h : i ≤ width) :
    (littleEndian width n).take i = littleEndian i n := by
  induction i generalizing width n with
  | zero => rfl
  | succ i ih =>
      cases width with
      | zero => exact absurd h (Nat.not_succ_le_zero i)
      | succ width =>
          rw [littleEndian, littleEndian, List.take_succ_cons, ih (Nat.le_of_succ_le_succ h)]

theorem drop_littleEndian {i width n : Nat} (h : i ≤ width) :
    (littleEndian width n).drop i = littleEndian (width - i) (n / 256 ^ i) := by
  induction i generalizing width n with
  | zero => rw [List.drop_zero, pow_zero, Nat.div_one, Nat.sub_zero]
  | succ i ih =>
      cases width with
      | zero => exact absurd h (Nat.not_succ_le_zero i)
      | succ width =>
          rw [littleEndian, List.drop_succ_cons, ih (Nat.le_of_succ_le_succ h), Nat.add_sub_add_right,
            Nat.div_div_eq_div_mul, pow_succ']

theorem take_bigEndian {i width n : Nat} (h : i ≤ width) :
    (bigEndian width n).take i = bigEndian i (n / 256 ^ (width - i)) := by
  rw [bigEndian, bigEndian, List.take_reverse, length_littleEndian, drop_littleEndian (Nat.sub_le _ _),
    Nat.sub_sub_self h]

theorem littleEndian_fromLittleEndian_self (bs : List UInt8) :
    littleEndian bs.length (fromLittleEndian bs) = bs := by
  have h := littleEndian_fromLittleEndian bs 0
  rw [Nat.add_zero, List.replicate_zero, List.append_nil] at h
  exact h

theorem littleEndian_mod (width n : Nat) : littleEndian width (n % 256 ^ width) = littleEndian width n := by
  have h := littleEndian_fromLittleEndian_self (littleEndian width n)
  rwa [length_littleEndian, fromLittleEndian_littleEndian] at h

theorem bigEndian_fromBigEndian (bs : List UInt8) : bigEndian bs.length (fromBigEndian bs) = bs := by
  rw [bigEndian, fromBigEndian, ← List.length_reverse, littleEndian_fromLittleEndian_self,
    List.reverse_reverse]

theorem fromLittleEndian_lt (bs : List UInt8) : fromLittleEndian bs < 256 ^ bs.length := by
  induction bs with
  | nil => exact Nat.one_pos
  | cons b bs ih =>
      have hb := b.toNat_lt
      rw [fromLittleEndian, List.length_cons, pow_succ]
      omega

theorem fromLittleEndian_append (bs cs : List UInt8) :
    fromLittleEndian (bs ++ cs) = fromLittleEndian bs + 256 ^ bs.length * fromLittleEndian cs := by
  induction bs with
  | nil => rw [List.nil_append, fromLittleEndian, List.length_nil, pow_zero, Nat.one_mul, Nat.zero_add]
  | cons b bs ih =>
      rw [List.cons_append, fromLittleEndian, fromLittleEndian, ih, List.length_cons, pow_succ]
      ring

theorem fromLittleEndian_replicate (n : Nat) : fromLittleEndian (List.replicate n 0) = 0 := by
  induction n with
  | zero => rfl
  | succ n ih =>
      rw [List.replicate_succ, fromLittleEndian, ih]
      rfl

theorem toNat_paddedWord_false {bytes : List UInt8} (hlength : bytes.length ≤ 4) :
    (paddedWord false bytes).toNat = fromLittleEndian bytes := by
  have hlt := fromLittleEndian_lt bytes
  have hpow : 256 ^ bytes.length ≤ 256 ^ 4 := Nat.pow_le_pow_right (by decide) hlength
  have hsize : UInt32.size = 256 ^ 4 := rfl
  rw [paddedWord, if_neg (by decide), fromLittleEndian_append, fromLittleEndian_replicate, Nat.mul_zero,
    Nat.add_zero, UInt32.toNat_ofNat_of_lt' (by omega)]

theorem toNat_paddedWord_true {bytes : List UInt8} (hlength : bytes.length ≤ 4) :
    (paddedWord true bytes).toNat = fromBigEndian bytes * 256 ^ (4 - bytes.length) := by
  have hlt := fromLittleEndian_lt bytes.reverse
  rw [List.length_reverse] at hlt
  have hvalue : fromBigEndian (bytes ++ List.replicate (4 - bytes.length) 0) =
      fromBigEndian bytes * 256 ^ (4 - bytes.length) := by
    rw [fromBigEndian, fromBigEndian, List.reverse_append, fromLittleEndian_append, List.reverse_replicate,
      fromLittleEndian_replicate, List.length_replicate, Nat.zero_add, Nat.mul_comm]
  have hsmall : fromBigEndian bytes * 256 ^ (4 - bytes.length) < UInt32.size := by
    calc fromBigEndian bytes * 256 ^ (4 - bytes.length)
        < 256 ^ bytes.length * 256 ^ (4 - bytes.length) := Nat.mul_lt_mul_of_pos_right hlt (by positivity)
      _ = 256 ^ 4 := by rw [← pow_add, Nat.add_sub_cancel' hlength]
      _ = UInt32.size := rfl
  rw [paddedWord, if_pos rfl, hvalue, UInt32.toNat_ofNat_of_lt' hsmall]

@[simp] theorem length_combineWord {key : UInt32} {bytes : List UInt8} (hlength : bytes.length ≤ 4) :
    (combineWord op be key bytes).length = bytes.length := by
  rw [combineWord, List.length_take, length_putU32, Nat.min_eq_left hlength]

/-! Operations that undo themselves. -/

/-- An operation with a key that undoes itself, also on the low bytes of a word alone and
on the high bytes alone. -/
structure Undoes (op : UInt32 → UInt32 → UInt32) : Prop where
  low : ∀ (key w w' : UInt32) (i : Nat), i ≤ 4 → w.toNat < 256 ^ i →
    w'.toNat = (op key w).toNat % 256 ^ i → (op key w').toNat % 256 ^ i = w.toNat
  high : ∀ (key w w' : UInt32) (i : Nat), i ≤ 4 → w.toNat % 256 ^ i = 0 →
    w'.toNat = (op key w).toNat / 256 ^ i * 256 ^ i → (op key w').toNat / 256 ^ i = w.toNat / 256 ^ i

/-- `data ^= key` -/
def xorOp (key w : UInt32) : UInt32 := w ^^^ key

/-- `data = key - data` -/
def minusOp (key w : UInt32) : UInt32 := key - w

theorem undoes_xorOp : Undoes xorOp where
  low key w w' i _ hlt hw' := by
    have hpow : (256 : Nat) ^ i = 2 ^ (8 * i) := (pow_mul 2 8 i).symm
    rw [hpow] at hlt hw' ⊢
    unfold xorOp at hw' ⊢
    rw [UInt32.toNat_xor] at hw' ⊢
    rw [hw', Nat.xor_mod_two_pow, Nat.mod_mod, ← Nat.xor_mod_two_pow, Nat.xor_assoc, Nat.xor_self,
      Nat.xor_zero, Nat.mod_eq_of_lt hlt]
  high key w w' i _ _ hw' := by
    have hpow : (256 : Nat) ^ i = 2 ^ (8 * i) := (pow_mul 2 8 i).symm
    rw [hpow] at hw' ⊢
    unfold xorOp at hw' ⊢
    rw [UInt32.toNat_xor] at hw' ⊢
    rw [xor_div_pow, hw', Nat.mul_div_cancel _ (by positivity), ← xor_div_pow, Nat.xor_assoc, Nat.xor_self,
      Nat.xor_zero]

theorem undoes_minusOp : Undoes minusOp where
  low key w w' i hi hlt hw' := by
    have hkey := key.toNat_lt
    have hw := w.toNat_lt
    have hw'' := w'.toNat_lt
    unfold minusOp at hw' ⊢
    rw [UInt32.toNat_sub] at hw' ⊢
    interval_cases i <;> omega
  high key w w' i hi hzero hw' := by
    have hkey := key.toNat_lt
    have hw := w.toNat_lt
    have hw'' := w'.toNat_lt
    unfold minusOp at hw' ⊢
    rw [UInt32.toNat_sub] at hw' ⊢
    interval_cases i <;> omega

theorem combineWord_combineWord (h : Undoes op) (key : UInt32) {bytes : List UInt8}
    (hlength : bytes.length ≤ 4) : combineWord op be key (combineWord op be key bytes) = bytes := by
  have hagain : (combineWord op be key bytes).length ≤ 4 := by
    rw [length_combineWord hlength]
    exact hlength
  cases be with
  | false =>
      have hlow : fromLittleEndian (combineWord op false key bytes) =
          (op key (paddedWord false bytes)).toNat % 256 ^ bytes.length := by
        rw [combineWord, putU32, if_neg (by decide), putU32l, take_littleEndian hlength,
          fromLittleEndian_littleEndian]
      have hvalue := h.low key (paddedWord false bytes)
        (paddedWord false (combineWord op false key bytes)) bytes.length hlength ?_ ?_
      · rw [combineWord, length_combineWord hlength, putU32, if_neg (by decide), putU32l,
          take_littleEndian hlength, ← littleEndian_mod, hvalue, toNat_paddedWord_false hlength]
        exact littleEndian_fromLittleEndian_self bytes
      · rw [toNat_paddedWord_false hlength]
        exact fromLittleEndian_lt bytes
      · rw [toNat_paddedWord_false hagain, hlow]
  | true =>
      have hpos : 0 < 256 ^ (4 - bytes.length) := by positivity
      have hhigh : fromBigEndian (combineWord op true key bytes) =
          (op key (paddedWord true bytes)).toNat / 256 ^ (4 - bytes.length) := by
        have hlt := (op key (paddedWord true bytes)).toNat_lt
        rw [combineWord, putU32, if_pos rfl, putU32b, take_bigEndian hlength,
          fromBigEndian_bigEndian_of_lt]
        refine Nat.div_lt_of_lt_mul ?_
        rw [← pow_add, Nat.sub_add_cancel hlength]
        exact hlt
      have hvalue := h.high key (paddedWord true bytes)
        (paddedWord true (combineWord op true key bytes)) (4 - bytes.length) (Nat.sub_le _ _) ?_ ?_
      · rw [combineWord, length_combineWord hlength, putU32, if_pos rfl, putU32b, take_bigEndian hlength,
          hvalue, toNat_paddedWord_true hlength, Nat.mul_div_cancel _ hpos]
        exact bigEndian_fromBigEndian bytes
      · rw [toNat_paddedWord_true hlength, Nat.mul_mod_left]
      · rw [toNat_paddedWord_true hagain, hhigh, length_combineWord hlength]

/-- Padding with zeros changes nothing but the bytes behind. -/
theorem take_combineWord_append (key : UInt32) {bytes : List UInt8} {n : Nat}
    (hlength : bytes.length + n ≤ 4) :
    (combineWord op be key (bytes ++ List.replicate n 0)).take bytes.length =
      combineWord op be key bytes := by
  have hpadded : paddedWord be (bytes ++ List.replicate n 0) = paddedWord be bytes := by
    have hsum : 4 - bytes.length = n + (4 - (bytes.length + n)) := by omega
    unfold paddedWord
    dsimp only
    rw [List.length_append, List.length_replicate, hsum, List.replicate_add, List.append_assoc]
  rw [combineWord, combineWord, hpadded, List.take_take, List.length_append, List.length_replicate,
    Nat.min_eq_left (Nat.le_add_right _ _)]

/-! Messages. -/

theorem combineWords_append {word : List UInt8} (hword : word.length = 4) (rest : List UInt8) :
    combineWords op be next s (word ++ rest) =
      (combineWord op be (next s).1 word ++ (combineWords op be next (next s).2 rest).1,
        (combineWords op be next (next s).2 rest).2) := by
  match word, hword with
  | [b0, b1, b2, b3], _ => rfl

theorem combineWords_last {last : List UInt8} (hpos : 0 < last.length) (hlt : last.length < 4) :
    combineWords op be next s last = (combineWord op be (next s).1 last, (next s).2) := by
  match last, hpos, hlt with
  | [_], _, _ => rfl
  | [_, _], _, _ => rfl
  | [_, _, _], _, _ => rfl

/-- A message is empty, or a part of a word, or begins with a word. -/
theorem words_induction {P : List UInt8 → Prop} (nil : P [])
    (last : ∀ bytes, 0 < bytes.length → bytes.length < 4 → P bytes)
    (word : ∀ bytes rest, bytes.length = 4 → P rest → P (bytes ++ rest)) (data : List UInt8) : P data := by
  induction hn : data.length using Nat.strongRecOn generalizing data with
  | ind n ih =>
      rcases Nat.eq_zero_or_pos data.length with hzero | hpos
      · exact List.length_eq_zero_iff.mp hzero ▸ nil
      · rcases Nat.lt_or_ge data.length 4 with hlt | hge
        · exact last data hpos hlt
        · rw [← List.take_append_drop 4 data]
          refine word _ _ (List.length_take_of_le hge) (ih _ ?_ _ rfl)
          rw [List.length_drop]
          omega

theorem length_combineWords (data : List UInt8) :
    (combineWords op be next s data).1.length = data.length := by
  induction data using words_induction generalizing s with
  | nil => rfl
  | last bytes hpos hlt =>
      rw [combineWords_last hpos hlt]
      exact length_combineWord (Nat.le_of_lt hlt)
  | word bytes rest hword ih =>
      rw [combineWords_append hword, List.length_append, List.length_append,
        length_combineWord hword.le, ih]

/-- The same generator recovers the message. -/
theorem combineWords_combineWords (h : Undoes op) (data : List UInt8) :
    combineWords op be next s (combineWords op be next s data).1 =
      (data, (combineWords op be next s data).2) := by
  induction data using words_induction generalizing s with
  | nil => rfl
  | last bytes hpos hlt =>
      have hlength : (combineWord op be (next s).1 bytes).length = bytes.length :=
        length_combineWord (Nat.le_of_lt hlt)
      rw [combineWords_last hpos hlt, combineWords_last (hlength ▸ hpos) (hlength ▸ hlt),
        combineWord_combineWord h _ (Nat.le_of_lt hlt)]
  | word bytes rest hword ih =>
      have hlength : (combineWord op be (next s).1 bytes).length = 4 := by
        rw [length_combineWord hword.le, hword]
      rw [combineWords_append hword, combineWords_append hlength, ih, combineWord_combineWord h _ hword.le]

/-- Zeros behind a message that ends within its last word change nothing but the bytes
behind. -/
theorem take_combineWords_append (data : List UInt8) {n : Nat}
    (hwords : (data.length + n + 3) / 4 = (data.length + 3) / 4) :
    (combineWords op be next s (data ++ List.replicate n 0)).1.take data.length =
      (combineWords op be next s data).1 := by
  induction data using words_induction generalizing s with
  | nil =>
      rw [List.length_nil, List.take_zero]
      rfl
  | last bytes hpos hlt =>
      have hsum : bytes.length + n ≤ 4 := by omega
      rw [combineWords_last hpos hlt]
      rcases Nat.lt_or_eq_of_le hsum with hless | heq
      · have hlength : (bytes ++ List.replicate n (0 : UInt8)).length = bytes.length + n := by
          rw [List.length_append, List.length_replicate]
        rw [combineWords_last (by omega) (by omega)]
        exact take_combineWord_append _ hsum
      · have hfour : (bytes ++ List.replicate n (0 : UInt8)).length = 4 := by
          rw [List.length_append, List.length_replicate, heq]
        have hwhole : combineWords op be next s (bytes ++ List.replicate n 0 ++ []) = _ :=
          combineWords_append hfour []
        rw [List.append_nil] at hwhole
        rw [hwhole]
        dsimp only [combineWords]
        rw [List.append_nil]
        exact take_combineWord_append _ hsum
  | word bytes rest hword ih =>
      rw [List.length_append] at hwords ⊢
      have hlength : (combineWord op be (next s).1 bytes).length = bytes.length := length_combineWord hword.le
      rw [List.append_assoc, combineWords_append hword, combineWords_append hword]
      dsimp only
      rw [← hlength, List.take_length_add_append, ih (by omega)]

/-! Little-endian words that are exclusive-ored. -/

theorem combineWord_xorOp (key : UInt32) {bytes : List UInt8} (hlength : bytes.length ≤ 4) :
    combineWord xorOp false key bytes = (xorWord key bytes).take bytes.length := by
  rw [combineWord, xorWord, putU32, if_neg (by decide), putU32l, xorOp, UInt32.toNat_xor,
    toNat_paddedWord_false hlength]

theorem combineWords_xorOp (data : List UInt8) :
    combineWords xorOp false next s data = xorWords next s data := by
  induction data using words_induction generalizing s with
  | nil => rfl
  | last bytes hpos hlt =>
      rw [combineWords_last hpos hlt, combineWord_xorOp _ (Nat.le_of_lt hlt)]
      match bytes, hpos, hlt with
      | [_], _, _ => rfl
      | [_, _], _, _ => rfl
      | [_, _, _], _, _ => rfl
  | word bytes rest hword ih =>
      have hall : (xorWord (next s).1 bytes).take bytes.length = xorWord (next s).1 bytes :=
        List.take_of_length_le (by rw [hword]; exact (length_littleEndian 4 _).le)
      rw [combineWords_append hword, ih, combineWord_xorOp _ hword.le, hall]
      match bytes, hword with
      | [_, _, _, _], _ => rfl

end HuntersGuild.WordCiphers
