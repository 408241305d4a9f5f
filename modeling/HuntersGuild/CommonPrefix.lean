import Mathlib.Data.List.Lex
import Mathlib.Order.Lattice
import Mathlib.Data.List.Basic

/-!
Common prefixes of lists in lexicographic order: of two lists on the same side
of a third one, the nearer has the longer common prefix with it.
-/

namespace HuntersGuild.CommonPrefix

universe u

variable {α : Type u}

/-- Length of the longest common prefix. -/
def lcp [DecidableEq α] : List α → List α → Nat
  | x :: xs, y :: ys => if x = y then lcp xs ys + 1 else 0
  | _, _ => 0

variable [LinearOrder α]

theorem cons_le_cons {x y : α} {xs ys : List α} :
    x :: xs ≤ y :: ys ↔ x < y ∨ x = y ∧ xs ≤ ys := by
  rw [← not_lt, List.cons_lt_cons_iff, ← not_lt]
  rcases lt_trichotomy x y with hlt | rfl | hgt
  · simp [hlt, hlt.not_gt, hlt.ne']
  · simp
  · simp [hgt, hgt.not_gt, hgt.ne']

theorem not_cons_le_nil (x : α) (xs : List α) : ¬x :: xs ≤ [] :=
  not_le.mpr .nil

theorem lcp_le_of_le_left {xs ys zs : List α} (hxy : xs ≤ ys) (hyz : ys ≤ zs) :
    lcp xs zs ≤ lcp ys zs := by
  induction xs generalizing ys zs with
  | nil => simp [lcp]
  | cons x xs ih =>
      cases zs with
      | nil => simp [lcp]
      | cons z zs =>
          cases ys with
          | nil => exact absurd hxy (not_cons_le_nil _ _)
          | cons y ys =>
              rw [cons_le_cons] at hxy hyz
              simp only [lcp]
              by_cases hxz : x = z
              · subst hxz
                have hyx : y = x := by
                  rcases hxy with hlt | ⟨heq, -⟩
                  · rcases hyz with hlt' | ⟨heq', -⟩
                    · exact absurd (hlt.trans hlt') (lt_irrefl _)
                    · exact heq'
                  · exact heq.symm
                subst hyx
                have hle : xs ≤ ys := by simpa using hxy
                have hle' : ys ≤ zs := by simpa using hyz
                simpa using ih hle hle'
              · simp [hxz]

theorem lcp_le_of_le_right {xs ys zs : List α} (hxy : xs ≤ ys) (hyz : ys ≤ zs) :
    lcp zs xs ≤ lcp ys xs := by
  induction zs generalizing xs ys with
  | nil => simp [lcp]
  | cons z zs ih =>
      cases xs with
      | nil => simp [lcp]
      | cons x xs =>
          cases ys with
          | nil => exact absurd hxy (not_cons_le_nil _ _)
          | cons y ys =>
              rw [cons_le_cons] at hxy hyz
              simp only [lcp]
              by_cases hzx : z = x
              · subst hzx
                have hyz' : y = z := by
                  rcases hxy with hlt | ⟨heq, -⟩
                  · rcases hyz with hlt' | ⟨heq', -⟩
                    · exact absurd (hlt.trans hlt') (lt_irrefl _)
                    · exact heq'
                  · exact heq.symm
                subst hyz'
                have hle : xs ≤ ys := by simpa using hxy
                have hle' : ys ≤ zs := by simpa using hyz
                simpa using ih hle hle'
              · simp [hzx]

end HuntersGuild.CommonPrefix
