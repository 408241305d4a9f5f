import Mathlib.Order.Basic
import Mathlib.Data.Nat.Basic
import Mathlib.Order.Lattice

/-!
Levels with thresholds: a climb goes up while the threshold of the next level is
met, and stops at a cap.
-/

namespace HuntersGuild.ThresholdClimbs

universe u

variable {α : Type u} [LinearOrder α]

/-- With the amount `x`, the climb from level `a` ends at level `b`. -/
structure Climbs (T : Nat → α) (cap : Nat) (x : α) (a b : Nat) : Prop where
  le : a ≤ b
  le_cap : b ≤ cap
  met : ∀ k, a < k → k ≤ b → T k ≤ x
  stops : b = cap ∨ x < T (b + 1)

namespace Climbs

variable {T : Nat → α} {cap : Nat} {x y : α} {a b c : Nat}

theorem le_of_climbs (h : Climbs T cap x a b) (h' : Climbs T cap x a c) : c ≤ b := by
  rcases h.stops with rfl | hstop
  · exact h'.le_cap
  · rw [← Nat.not_lt]
    intro hlt
    exact absurd (h'.met (b + 1) (Nat.lt_succ_of_le h.le) hlt) (not_le.mpr hstop)

/-- The amount and the first level determine the last one. -/
theorem unique (h : Climbs T cap x a b) (h' : Climbs T cap x a c) : b = c :=
  Nat.le_antisymm (h'.le_of_climbs h) (h.le_of_climbs h')

/-- A climb may be continued with a larger amount. -/
theorem trans (h : Climbs T cap x a b) (hxy : x ≤ y) (h' : Climbs T cap y b c) :
    Climbs T cap y a c := by
  refine ⟨h.le.trans h'.le, h'.le_cap, ?_, h'.stops⟩
  intro k hak hkc
  rcases Nat.lt_or_ge b k with hbk | hkb
  · exact h'.met k hbk hkc
  · exact (h.met k hak hkb).trans hxy

/-- Where the thresholds do not decrease, no higher level has its threshold met. -/
theorem greatest (h : Climbs T cap x a b) (hmono : ∀ i j, i ≤ j → j ≤ cap → T i ≤ T j) {k : Nat}
    (hk : k ≤ cap) (hmet : T k ≤ x) : k ≤ b := by
  rcases h.stops with rfl | hstop
  · exact hk
  · rw [← Nat.not_lt]
    intro hlt
    exact absurd ((hmono (b + 1) k hlt hk).trans hmet) (not_le.mpr hstop)

end Climbs

end HuntersGuild.ThresholdClimbs
