import Mathlib.Data.List.Basic

/-!
Copies from a bounded distance behind the end of a growing list. A copy may be
longer than its distance; it then repeats what it has itself written.
-/

namespace HuntersGuild.SlidingCopy

universe u

variable {α : Type u}

/-- Append `count` values, each taken `distance` behind the end. -/
def extend (distance : Nat) : Nat → List α → List α
  | 0, out => out
  | count + 1, out => extend distance count (out ++ out[out.length - distance]?.toList)

theorem append_getElem?_toList_length {out : List α} {distance : Nat}
    (hpos : 0 < distance) (hle : distance ≤ out.length) :
    (out ++ out[out.length - distance]?.toList).length = out.length + 1 := by
  have hlt : out.length - distance < out.length := by omega
  simp [List.getElem?_eq_getElem hlt]

theorem extend_length {distance : Nat} (count : Nat) {out : List α}
    (hpos : 0 < distance) (hle : distance ≤ out.length) :
    (extend distance count out).length = out.length + count := by
  induction count generalizing out with
  | zero => rfl
  | succ count ih =>
      have hlen := append_getElem?_toList_length hpos hle
      rw [extend, ih (by omega), hlen]
      omega

theorem isPrefix_extend (distance count : Nat) (out : List α) :
    out <+: extend distance count out := by
  induction count generalizing out with
  | zero => exact List.prefix_rfl
  | succ count ih => exact (List.prefix_append _ _).trans (ih _)

theorem extend_add (distance m n : Nat) (out : List α) :
    extend distance (m + n) out = extend distance n (extend distance m out) := by
  induction m generalizing out with
  | zero => simp [extend]
  | succ m ih =>
      rw [Nat.succ_add, extend, extend, ih]

/-- A copied value equals the value `distance` before it. -/
theorem extend_getElem? {distance count i : Nat} {out : List α}
    (hpos : 0 < distance) (hle : distance ≤ out.length)
    (hlo : out.length ≤ i) (hhi : i < out.length + count) :
    (extend distance count out)[i]? = (extend distance count out)[i - distance]? := by
  induction count generalizing out with
  | zero => omega
  | succ count ih =>
      have hlen := append_getElem?_toList_length hpos hle
      rw [extend]
      by_cases hi : i = out.length
      · subst hi
        have hlt : out.length - distance < out.length := by omega
        obtain ⟨rest, hrest⟩ := isPrefix_extend distance count
          (out ++ out[out.length - distance]?.toList)
        rw [← hrest]
        simp [List.getElem?_append, hlt]
      · exact ih (by omega) (by omega) (by omega)

/-- A copy whose values were compared with the input extends a prefix of the
input to a longer one. -/
theorem extend_take {input : List α} {pos distance count : Nat}
    (hpos : 0 < distance) (hle : distance ≤ pos) (hend : pos + count ≤ input.length)
    (hmatch : ∀ k < count, input[pos + k]? = input[pos + k - distance]?) :
    extend distance count (input.take pos) = input.take (pos + count) := by
  induction count generalizing pos with
  | zero => rfl
  | succ count ih =>
      have hlen : (input.take pos).length = pos := by
        rw [List.length_take]
        omega
      have hhead : (input.take pos)[pos - distance]? = input[pos]? := by
        rw [List.getElem?_take_of_lt (by omega)]
        simpa using (hmatch 0 (by omega)).symm
      rw [extend, hlen, hhead, ← List.take_add_one, ih (by omega) (by omega)]
      · congr 1
        omega
      · intro k hk
        have hk' := hmatch (k + 1) (by omega)
        rw [← Nat.add_assoc] at hk'
        rw [show pos + 1 + k = pos + k + 1 by omega]
        exact hk'

/-- Conversely, a copy that stays inside the input has compared its values. -/
theorem getElem?_of_extend_isPrefix {input out : List α} {distance count k : Nat}
    (hpos : 0 < distance) (hle : distance ≤ out.length)
    (hpre : extend distance count out <+: input) (hk : k < count) :
    input[out.length + k]? = input[out.length + k - distance]? := by
  have hlen := extend_length count hpos hle
  obtain ⟨rest, rfl⟩ := hpre
  rw [List.getElem?_append_left (by omega), List.getElem?_append_left (by omega)]
  exact extend_getElem? hpos hle (by omega) (by omega)

end HuntersGuild.SlidingCopy
