import Mathlib.Data.UInt
import Mathlib.Data.List.Basic
import Mathlib.Data.List.Indexes
import HuntersGuild.WordBytes

/-!
Ciphers that combine the words of a message with the words of a generator: a
message is exclusive-ored byte by byte with the bytes that the generator
yields, also where the last word is cut off.
-/

namespace HuntersGuild.WordStreams

open HuntersGuild.WordBytes

variable {σ : Type}

/-- The bytes of a word that is combined with a key. A word of fewer than four
bytes is padded with zeros. -/
def xorWord (key : UInt32) (bytes : List UInt8) : List UInt8 :=
  littleEndian 4 (fromLittleEndian bytes ^^^ key.toNat)

/-- The message, word by word. The last one to three bytes use up a word. -/
def xorWords (next : σ → UInt32 × σ) (s : σ) : List UInt8 → List UInt8 × σ
  | b0 :: b1 :: b2 :: b3 :: rest =>
      let (key, s) := next s
      let word := xorWord key [b0, b1, b2, b3]
      let (out, s) := xorWords next s rest
      (word ++ out, s)
  | [] => ([], s)
  | last =>
      let (key, s) := next s
      ((xorWord key last).take last.length, s)

/-- The state after `n` words. -/
def advance (next : σ → UInt32 × σ) : Nat → σ → σ
  | 0, s => s
  | n + 1, s => advance next n (next s).2

/-- Byte `i` of what the generator yields from a state on. -/
def keyByte (next : σ → UInt32 × σ) (s : σ) (i : Nat) : UInt8 :=
  .ofNat ((next (advance next (i / 4) s)).1.toNat / 256 ^ (i % 4))

variable {next : σ → UInt32 × σ} {s : σ}

theorem advance_add (m n : Nat) : advance next (m + n) s = advance next n (advance next m s) := by
  induction m generalizing s with
  | zero => rw [Nat.zero_add, advance]
  | succ m ih =>
      rw [Nat.succ_add]
      exact ih

theorem keyByte_add_mul (n i : Nat) :
    keyByte next s (i + 4 * n) = keyByte next (advance next n s) i := by
  unfold keyByte
  have hdiv : (i + 4 * n) / 4 = n + i / 4 := by omega
  have hmod : (i + 4 * n) % 4 = i % 4 := by omega
  rw [hdiv, hmod, advance_add]

theorem xor_div_pow (m n k : Nat) : (m ^^^ n) / 2 ^ k = m / 2 ^ k ^^^ n / 2 ^ k := by
  simp only [← Nat.shiftRight_eq_div_pow, Nat.shiftRight_xor_distrib]

theorem ofNat_xor (m n : Nat) : UInt8.ofNat (m ^^^ n) = .ofNat m ^^^ .ofNat n := by
  apply UInt8.toNat_inj.mp
  rw [UInt8.toNat_xor, UInt8.toNat_ofNat', UInt8.toNat_ofNat', UInt8.toNat_ofNat',
    Nat.xor_mod_two_pow]

theorem littleEndian_xor (width m n : Nat) :
    littleEndian width (m ^^^ n) =
      List.zipWith (· ^^^ ·) (littleEndian width m) (littleEndian width n) := by
  induction width generalizing m n with
  | zero => rfl
  | succ width ih =>
      have hdiv : (m ^^^ n) / 256 = m / 256 ^^^ n / 256 := xor_div_pow m n 8
      rw [littleEndian, littleEndian, littleEndian, List.zipWith_cons_cons, hdiv, ih, ofNat_xor]

theorem littleEndian_key (key : UInt32) :
    littleEndian 4 key.toNat =
      [.ofNat key.toNat, .ofNat (key.toNat / 256), .ofNat (key.toNat / 256 ^ 2),
        .ofNat (key.toNat / 256 ^ 3)] := by
  simp only [littleEndian, Nat.div_div_eq_div_mul]
  rfl

/-- The first four bytes of the generator are those of its next word. -/
theorem keyByte_eq {i : Nat} (hi : i < 4) :
    keyByte next s i = .ofNat ((next s).1.toNat / 256 ^ i) := by
  unfold keyByte
  rw [Nat.div_eq_of_lt hi, Nat.mod_eq_of_lt hi, advance]

/-- A cut-off word is padded with zeros before it is combined with the key. -/
theorem xorWord_eq {bytes : List UInt8} (hlength : bytes.length ≤ 4) :
    xorWord (next s).1 bytes =
      List.zipWith (· ^^^ ·) (bytes ++ List.replicate (4 - bytes.length) 0)
        [keyByte next s 0, keyByte next s 1, keyByte next s 2, keyByte next s 3] := by
  have hkey : littleEndian 4 (next s).1.toNat =
      [keyByte next s 0, keyByte next s 1, keyByte next s 2, keyByte next s 3] := by
    rw [littleEndian_key, keyByte_eq (by decide), keyByte_eq (by decide), keyByte_eq (by decide),
      keyByte_eq (by decide), pow_zero, Nat.div_one, pow_one]
  rw [xorWord, littleEndian_xor, hkey, ← littleEndian_fromLittleEndian, Nat.add_sub_cancel' hlength]

theorem take_xorWord {bytes : List UInt8} (hlength : bytes.length ≤ 4) :
    (xorWord (next s).1 bytes).take bytes.length =
      bytes.mapIdx fun i b => b ^^^ keyByte next s i := by
  rw [xorWord_eq hlength]
  match bytes, hlength with
  | [], _ => rfl
  | [_], _ => rfl
  | [_, _], _ => rfl
  | [_, _, _], _ => rfl
  | [_, _, _, _], _ => rfl

/-- Every byte is combined with its byte of the generator, and a message uses
up as many words as it reaches into. -/
theorem xorWords_eq (data : List UInt8) :
    xorWords next s data =
      (data.mapIdx fun i b => b ^^^ keyByte next s i, advance next ((data.length + 3) / 4) s) := by
  fun_induction xorWords next s data with
  | case1 s b0 b1 b2 b3 rest key s' hnext word out s'' hrest ih =>
      have hkey : key = (next s).1 := by rw [hnext]
      have hstate : s' = advance next 1 s := by rw [advance, hnext, advance]
      have hwords : ((b0 :: b1 :: b2 :: b3 :: rest).length + 3) / 4 = 1 + (rest.length + 3) / 4 := by
        simp only [List.length_cons]
        omega
      have hword : word = [b0, b1, b2, b3].mapIdx fun i b => b ^^^ keyByte next s i := by
        have hfour : [b0, b1, b2, b3].length ≤ 4 := Nat.le_refl 4
        rw [← take_xorWord hfour, ← hkey]
        exact (List.take_of_length_le (length_littleEndian 4 _).le).symm
      rw [hrest, hstate] at ih
      obtain ⟨rfl, rfl⟩ := Prod.mk.inj ih
      change (word ++ _, _) = (([b0, b1, b2, b3] ++ rest).mapIdx _, _)
      rw [hwords, advance_add, hword, List.mapIdx_append]
      simp only [← keyByte_add_mul]
      rfl
  | case2 s => rfl
  | case3 s last hfour hnil key s' hnext =>
      have hkey : key = (next s).1 := by rw [hnext]
      have hstate : s' = advance next 1 s := by rw [advance, hnext, advance]
      have hlength : 0 < last.length ∧ last.length < 4 := by
        match last, hfour, hnil with
        | [], _, hnil => exact absurd rfl hnil
        | [_], _, _ => simp
        | [_, _], _, _ => simp
        | [_, _, _], _, _ => simp
        | b0 :: b1 :: b2 :: b3 :: rest, hfour, _ => exact absurd rfl (hfour b0 b1 b2 b3 rest)
      have hwords : (last.length + 3) / 4 = 1 := by omega
      rw [hkey, hstate, hwords, take_xorWord hlength.2.le]

theorem xor_cancel (a b : UInt8) : (a ^^^ b) ^^^ b = a := by
  rw [UInt8.xor_assoc, UInt8.xor_self, UInt8.xor_zero]

theorem length_xorWords (data : List UInt8) : (xorWords next s data).1.length = data.length := by
  rw [xorWords_eq, List.length_mapIdx]

/-- The first message may end anywhere between two words. -/
theorem xorWords_append {a : List UInt8} (ha : 4 ∣ a.length) (b : List UInt8) :
    xorWords next s (a ++ b) =
      ((xorWords next s a).1 ++ (xorWords next (xorWords next s a).2 b).1,
        (xorWords next (xorWords next s a).2 b).2) := by
  obtain ⟨n, hn⟩ := ha
  have hwords : (4 * n + 3) / 4 = n := by omega
  have hall : ((a ++ b).length + 3) / 4 = n + (b.length + 3) / 4 := by
    rw [List.length_append]
    omega
  simp only [xorWords_eq, List.mapIdx_append, hwords, hall, advance_add, hn, keyByte_add_mul]

/-- The same generator recovers a message, also when the rest of the last word
is lost. -/
theorem xorWords_recover (data padding : List UInt8)
    (hwords : (data.length + padding.length + 3) / 4 = (data.length + 3) / 4) :
    ∃ rest, rest.length = padding.length ∧
      xorWords next s ((xorWords next s data).1 ++ padding) =
        (data ++ rest, (xorWords next s data).2) := by
  refine ⟨padding.mapIdx fun i b => b ^^^ keyByte next s (i + data.length),
    List.length_mapIdx, ?_⟩
  have hcancel : data.mapIdx
      (fun i => (fun b => b ^^^ keyByte next s i) ∘ fun b => b ^^^ keyByte next s i) = data := by
    apply List.mapIdx_eq_iff.mpr
    intro i
    have hid : ((fun b => b ^^^ keyByte next s i) ∘ fun b => b ^^^ keyByte next s i) = id := by
      funext b
      exact xor_cancel b _
    rw [hid, Option.map_id, id]
  rw [xorWords_eq, List.length_append, length_xorWords, hwords, xorWords_eq, List.mapIdx_append,
    List.mapIdx_mapIdx, List.length_mapIdx, hcancel]

theorem xorWords_xorWords (data : List UInt8) :
    xorWords next s (xorWords next s data).1 = (data, (xorWords next s data).2) := by
  obtain ⟨rest, hrest, h⟩ := xorWords_recover data [] rfl
  obtain rfl := List.length_eq_zero_iff.mp hrest
  rwa [List.append_nil, List.append_nil] at h

end HuntersGuild.WordStreams
