import Mathlib.Data.List.Basic

/-!
Several lists that are numbered as one: where each of them begins, and which of
them a number falls into.
-/

namespace HuntersGuild.Segments

universe u

variable {α : Type u} {sizes starts : Nat → Nat} {f g i j m n : Nat}

/-- The number of entries before segment `n`. -/
def offset (sizes : Nat → Nat) : Nat → Nat
  | 0 => 0
  | n + 1 => offset sizes n + sizes n

theorem offset_le_of_le (h : m ≤ n) : offset sizes m ≤ offset sizes n := by
  induction n with
  | zero =>
      obtain rfl : m = 0 := Nat.le_zero.mp h
      exact Nat.le_refl _
  | succ n ih =>
      rcases Nat.le_succ_iff.mp h with hle | rfl
      · exact Nat.le_trans (ih hle) (Nat.le_add_right _ _)
      · exact Nat.le_refl _

theorem offset_add_le (h : f < n) : offset sizes f + sizes f ≤ offset sizes n :=
  offset_le_of_le (Nat.succ_le_of_lt h)

theorem offset_congr {sizes' : Nat → Nat} (h : ∀ f < n, sizes f = sizes' f) :
    offset sizes n = offset sizes' n := by
  induction n with
  | zero => rfl
  | succ n ih =>
      rw [offset, offset, ih fun f hf => h f (Nat.lt_succ_of_lt hf), h n (Nat.lt_succ_self n)]

theorem offset_eq_zero_iff : offset sizes n = 0 ↔ ∀ f < n, sizes f = 0 := by
  induction n with
  | zero => exact iff_of_true rfl fun _ hf => absurd hf (Nat.not_lt_zero _)
  | succ n ih => rw [offset, Nat.add_eq_zero_iff, ih, Nat.forall_lt_succ_right]

theorem exists_segment (h : i < offset sizes n) :
    ∃ f < n, offset sizes f ≤ i ∧ i < offset sizes f + sizes f := by
  induction n with
  | zero => exact absurd h (Nat.not_lt_zero i)
  | succ n ih =>
      by_cases hi : i < offset sizes n
      · obtain ⟨f, hf, hseg⟩ := ih hi
        exact ⟨f, Nat.lt_succ_of_lt hf, hseg⟩
      · exact ⟨n, Nat.lt_succ_self n, Nat.le_of_not_lt hi, h⟩

/-- Entry `j` of segment `f` is entry `offset sizes f + j` of all segments. -/
theorem getElem?_flatMap {parts : Nat → List α} (hf : f < n) (hj : j < (parts f).length) :
    ((List.range n).flatMap parts)[offset (fun f => (parts f).length) f + j]? = (parts f)[j]? := by
  have hlength (n : Nat) : ((List.range n).flatMap parts).length =
      offset (fun f => (parts f).length) n := by
    induction n with
    | zero => rfl
    | succ n ih =>
        rw [List.range_succ, List.flatMap_append, List.length_append, ih, offset]
        simp
  induction n with
  | zero => exact absurd hf (Nat.not_lt_zero f)
  | succ n ih =>
      rw [List.range_succ, List.flatMap_append, List.flatMap_singleton]
      rcases Nat.lt_succ_iff_lt_or_eq.mp hf with hlt | rfl
      · have hbound := @offset_add_le (fun f => (parts f).length) f n hlt
        rw [List.getElem?_append_left (by rw [hlength]; omega)]
        exact ih hlt
      · rw [List.getElem?_append_right (by rw [hlength]; omega), hlength, Nat.add_sub_cancel_left]

/-- The last of `n` segments that begins at or before a number. -/
def lastStart (starts : Nat → Nat) (i : Nat) : Nat → Option Nat
  | 0 => none
  | n + 1 => if starts n ≤ i then some n else lastStart starts i n

theorem lastStart_eq_some (hf : f < n) (hle : starts f ≤ i)
    (hlast : ∀ g, f < g → g < n → i < starts g) : lastStart starts i n = some f := by
  induction n with
  | zero => exact absurd hf (Nat.not_lt_zero f)
  | succ n ih =>
      rw [lastStart]
      rcases Nat.lt_succ_iff_lt_or_eq.mp hf with hlt | rfl
      · rw [if_neg (Nat.not_le_of_lt (hlast n hlt (Nat.lt_succ_self n)))]
        exact ih hlt fun g hfg hg => hlast g hfg (Nat.lt_succ_of_lt hg)
      · rw [if_pos hle]

/-- The segment that a number falls into begins last before it. -/
theorem lastStart_offset (hf : f < n) (hle : offset sizes f ≤ i)
    (hlt : i < offset sizes f + sizes f) : lastStart (offset sizes) i n = some f :=
  lastStart_eq_some hf hle fun _ hfg _ => Nat.lt_of_lt_of_le hlt (offset_add_le hfg)

end HuntersGuild.Segments
