import Mathlib.Data.List.Chain

/-!
Rank titles of challenge mode, which `pstring` obfuscates.
-/

namespace HuntersGuild.ChallengeRankTexts

/-- The character types that the functions are instantiated with. -/
inductive CharT where
  | uint8
  | leUint16

def CharT.bits : CharT → Nat
  | .uint8 => 8
  | .leUint16 => 16

variable {t : CharT}

/-- The loop of `encrypt_challenge_rank_text_t`. -/
def encryptAfter (prev : BitVec t.bits) : List (BitVec t.bits) → List (BitVec t.bits)
  | [] => []
  | ch :: data =>
    if ch = 0 then ch :: data
    else (((ch - prev) ^^^ 0x7F) &&& 0xFF) :: encryptAfter ch data

def encryptChallengeRankText (data : List (BitVec t.bits)) : List (BitVec t.bits) :=
  encryptAfter 0 data

/-- The loop of `decrypt_challenge_rank_text_t` after the first character. -/
def decryptAfter (prev : BitVec t.bits) : List (BitVec t.bits) → List (BitVec t.bits)
  | [] => []
  | p :: data =>
    if p = 0 then p :: data
    else
      let ch := ((p ^^^ 0x7F) + prev) &&& 0xFF
      ch :: decryptAfter ch data

def decryptChallengeRankText : List (BitVec t.bits) → List (BitVec t.bits)
  | [] => []
  | p :: data =>
    if p = 0 then p :: data
    else (p ^^^ 0x7F) :: decryptAfter (p ^^^ 0x7F) data

/-- `used_chars_8` and `used_chars_16` -/
def usedChars : List (BitVec t.bits) → Nat
  | [] => 0
  | ch :: data => if ch = 0 then 0 else usedChars data + 1

section Characters

variable {prev ch : BitVec t.bits}

theorem CharT.toNat_ofNat (t : CharT) {n : Nat} (hn : n ≤ 0xFF) : (BitVec.ofNat t.bits n).toNat = n := by
  rw [BitVec.toNat_ofNat]
  apply Nat.mod_eq_of_lt
  cases t with
  | uint8 => exact Nat.lt_succ_of_le hn
  | leUint16 => exact hn.trans_lt (by decide)

theorem toNat_and_ff (x : BitVec t.bits) : (x &&& 0xFF).toNat = x.toNat % 0x100 := by
  rw [BitVec.toNat_and]
  exact (congrArg (x.toNat &&& ·) (t.toNat_ofNat (Nat.le_refl 0xFF))).trans
    (Nat.and_two_pow_sub_one_eq_mod x.toNat 8)

theorem toNat_sub_and (prev ch : BitVec t.bits) :
    (((ch - prev) &&& 0xFF).toNat + prev.toNat) % 0x100 = ch.toNat % 0x100 := by
  have hch := ch.isLt
  have hprev := prev.isLt
  rw [toNat_and_ff, BitVec.toNat_sub]
  cases t with
  | uint8 =>
      dsimp only [CharT.bits] at hch hprev ⊢
      omega
  | leUint16 =>
      dsimp only [CharT.bits] at hch hprev ⊢
      omega

theorem xor_and (x : BitVec t.bits) : (x ^^^ 0x7F) &&& 0xFF = (x &&& 0xFF) ^^^ 0x7F := by
  have hmask : (0x7F : BitVec t.bits) &&& 0xFF = 0x7F := by
    cases t with
    | uint8 => decide
    | leUint16 => decide
  calc
    (x ^^^ 0x7F) &&& 0xFF = (x &&& 0xFF) ^^^ (0x7F &&& 0xFF) := by
      apply BitVec.eq_of_getLsbD_eq
      intro i _
      simp only [BitVec.getLsbD_and, BitVec.getLsbD_xor, Bool.and_xor_distrib_right]
    _ = (x &&& 0xFF) ^^^ 0x7F := by rw [hmask]

/-- An obfuscated character is zero for one character after each. -/
theorem encrypted_eq_zero_iff (hch : ch.toNat ≤ 0xFF) :
    ((ch - prev) ^^^ 0x7F) &&& 0xFF = 0 ↔ ch.toNat = (prev.toNat + 0x7F) % 0x100 := by
  have hsum := toNat_sub_and prev ch
  have hlt : ((ch - prev) &&& 0xFF).toNat < 0x100 := by
    rw [toNat_and_ff]
    exact Nat.mod_lt _ (by decide)
  have hval : (0x7F : BitVec t.bits).toNat = 0x7F := t.toNat_ofNat (by decide)
  rw [xor_and]
  refine BitVec.xor_eq_zero_iff.trans ?_
  rw [← BitVec.toNat_inj, hval]
  omega

theorem decrypted_eq (hch : ch.toNat ≤ 0xFF) :
    (((((ch - prev) ^^^ 0x7F) &&& 0xFF) ^^^ 0x7F) + prev) &&& 0xFF = ch := by
  rw [xor_and, BitVec.xor_assoc, BitVec.xor_self, BitVec.xor_zero]
  apply BitVec.eq_of_toNat_eq
  rw [toNat_and_ff, BitVec.toNat_add, Nat.mod_mod_of_dvd, toNat_sub_and]
  · exact Nat.mod_eq_of_lt (Nat.lt_succ_of_le hch)
  · cases t with
    | uint8 => decide
    | leUint16 => decide

theorem decrypted_first_eq (hch : ch.toNat ≤ 0xFF) :
    (((ch - 0) ^^^ 0x7F) &&& 0xFF) ^^^ 0x7F = ch := by
  have hzero : ch - 0 = ch := BitVec.sub_zero ch
  rw [xor_and, BitVec.xor_assoc, BitVec.xor_self, BitVec.xor_zero, hzero]
  apply BitVec.eq_of_toNat_eq
  rw [toNat_and_ff]
  exact Nat.mod_eq_of_lt (Nat.lt_succ_of_le hch)

end Characters

section Texts

variable {prev : BitVec t.bits} {text : List (BitVec t.bits)}

/-- The character does not become zero after the other one. -/
def Kept (prev ch : BitVec t.bits) : Prop :=
  ch.toNat ≠ (prev.toNat + 0x7F) % 0x100

/-- A sequence of characters that the obfuscated texts stand for. -/
def IsText (text : List (BitVec t.bits)) : Prop :=
  ∀ ch ∈ text, ch ≠ 0 ∧ ch.toNat ≤ 0xFF

theorem encryptAfter_ne_zero_iff (h : IsText text) :
    (∀ p ∈ encryptAfter prev text, p ≠ 0) ↔ (prev :: text).IsChain Kept := by
  induction text generalizing prev with
  | nil =>
      simp only [encryptAfter, List.not_mem_nil, false_implies, implies_true, true_iff]
      exact List.IsChain.singleton prev
  | cons ch text ih =>
      rcases List.forall_mem_cons.mp h with ⟨⟨hne, hch⟩, htext⟩
      rw [encryptAfter, if_neg hne, List.forall_mem_cons, ih htext, List.isChain_cons_cons,
        ne_eq, encrypted_eq_zero_iff hch, Kept]

theorem decryptAfter_encryptAfter (h : IsText text)
    (hkept : ∀ p ∈ encryptAfter prev text, p ≠ 0) :
    decryptAfter prev (encryptAfter prev text) = text := by
  induction text generalizing prev with
  | nil => rfl
  | cons ch text ih =>
      rcases List.forall_mem_cons.mp h with ⟨⟨hne, hch⟩, htext⟩
      rw [encryptAfter, if_neg hne] at hkept ⊢
      rw [List.forall_mem_cons] at hkept
      rw [decryptAfter, if_neg hkept.1]
      dsimp only
      rw [decrypted_eq hch, ih htext hkept.2]

theorem decrypt_encrypt (h : IsText text)
    (hkept : ∀ p ∈ encryptChallengeRankText text, p ≠ 0) :
    decryptChallengeRankText (encryptChallengeRankText text) = text := by
  unfold encryptChallengeRankText at hkept ⊢
  cases text with
  | nil => rfl
  | cons ch text =>
      rcases List.forall_mem_cons.mp h with ⟨⟨hne, hch⟩, htext⟩
      rw [encryptAfter, if_neg hne] at hkept ⊢
      rw [List.forall_mem_cons] at hkept
      rw [decryptChallengeRankText, if_neg hkept.1, decrypted_first_eq hch,
        decryptAfter_encryptAfter htext hkept.2]

theorem length_encryptAfter : (encryptAfter prev text).length = text.length := by
  induction text generalizing prev with
  | nil => rfl
  | cons ch text ih =>
      rw [encryptAfter]
      split_ifs with hzero
      · rfl
      · rw [List.length_cons, List.length_cons, ih]

/-- A text in a buffer is seen up to its end. -/
theorem usedChars_append (h : ∀ p ∈ text, p ≠ 0) (n : Nat) :
    usedChars (text ++ List.replicate n 0) = text.length := by
  induction text with
  | nil =>
      cases n with
      | zero => rfl
      | succ n => rw [List.nil_append, List.replicate_succ, usedChars, if_pos rfl, List.length_nil]
  | cons p text ih =>
      rw [List.forall_mem_cons] at h
      rw [List.cons_append, usedChars, if_neg h.1, ih h.2, List.length_cons]

/-- The text comes back, and `pstring` sees all of what it stores for it. -/
structure Survives (text : List (BitVec t.bits)) : Prop where
  decrypt_encrypt : decryptChallengeRankText (encryptChallengeRankText text) = text
  ne_zero : ∀ p ∈ encryptChallengeRankText text, p ≠ 0
  usedChars : ∀ n, usedChars (encryptChallengeRankText text ++ List.replicate n 0) = text.length

/-- A text survives unless a character is `0x7F` after its predecessor, as a
byte; the first one has the predecessor zero. -/
theorem survives_iff (h : IsText text) : Survives text ↔ ((0 : BitVec t.bits) :: text).IsChain Kept := by
  rw [← encryptAfter_ne_zero_iff h]
  constructor
  · intro hsurvives
    exact hsurvives.ne_zero
  · intro hkept
    refine ⟨decrypt_encrypt h hkept, hkept, ?_⟩
    intro n
    exact (usedChars_append hkept n).trans length_encryptAfter

theorem survives_iff_ab : IsText (t := .leUint16) [0x61, 0x62] ∧
    (Survives (t := .leUint16) [0x61, 0x62] ↔
      List.IsChain (Kept (t := .leUint16)) [0, 0x61, 0x62]) := by
  have htext : IsText (t := .leUint16) [0x61, 0x62] :=
    List.forall_mem_cons.mpr
      ⟨⟨by decide, by decide⟩, List.forall_mem_singleton.mpr ⟨by decide, by decide⟩⟩
  exact ⟨htext, survives_iff htext⟩

/-- The second character of `aà` becomes the end of the text. -/
theorem not_survives_a_grave : IsText (t := .leUint16) [0x61, 0xE0] ∧
    ¬ Survives (t := .leUint16) [0x61, 0xE0] := by
  constructor
  · exact List.forall_mem_cons.mpr
      ⟨⟨by decide, by decide⟩, List.forall_mem_singleton.mpr ⟨by decide, by decide⟩⟩
  · intro h
    have hencrypted : encryptChallengeRankText (t := .leUint16) [0x61, 0xE0] = [0x1E, 0] := rfl
    apply h.ne_zero 0 _ rfl
    rw [hencrypted]
    exact List.mem_cons_of_mem _ (List.mem_singleton_self 0)

end Texts

end HuntersGuild.ChallengeRankTexts
