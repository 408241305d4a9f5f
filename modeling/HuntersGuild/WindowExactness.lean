import Mathlib.Data.List.GetD
import Mathlib.Order.Bounds.Defs
import HuntersGuild.WindowSearch

/-!
What `WindowIndex` is at every offset: the window itself, in a strict total
order, and the search in it, which finds a longest match.
-/

namespace HuntersGuild.WindowExactness

open HuntersGuild.CommonPrefix
open HuntersGuild.ComparatorSet
open HuntersGuild.WindowSearch
open HuntersGuild.WindowSearch.WindowIndex

universe u v

/-- A comparator as a container needs it, for the elements it is used with. -/
structure StrictTotalOn {α : Type u} (lt : α → α → Bool) (dom : α → Prop) : Prop where
  irrefl : ∀ a, dom a → lt a a = false
  trans : ∀ a b c, dom a → dom b → dom c → lt a b → lt b c → lt a c
  total : ∀ a b, dom a → dom b → a ≠ b → lt a b ∨ lt b a

section Comparators

variable {α : Type u} {β : Type v} [LinearOrder β] {lt : α → α → Bool} {key : α → β}
  {dom dom' : α → Prop}

theorem strictTotalOn_of_comparesBy (h : ComparesBy lt key dom) : StrictTotalOn lt dom := by
  constructor
  · intro a ha
    rw [Bool.eq_false_iff, ne_eq, h.lt_iff ha ha]
    exact lt_irrefl (key a)
  · intro a b c ha hb hc hab hbc
    rw [h.lt_iff ha hb] at hab
    rw [h.lt_iff hb hc] at hbc
    exact (h.lt_iff ha hc).mpr (hab.trans hbc)
  · intro a b ha hb hne
    rw [h.lt_iff ha hb, h.lt_iff hb ha]
    exact lt_or_gt_of_ne fun heq => hne (h.key_inj ha hb heq)

theorem StrictTotalOn.mono (h : StrictTotalOn lt dom) (hdom : ∀ a, dom' a → dom a) :
    StrictTotalOn lt dom' := by
  refine ⟨fun a ha => h.irrefl a (hdom a ha), ?_, fun a b ha hb => h.total a b (hdom a ha) (hdom b hb)⟩
  intro a b c ha hb hc
  exact h.trans a b c (hdom a ha) (hdom b hb) (hdom c hc)

end Comparators

/-- The length of the common prefix of the strings at two offsets, of which at
most `cap` bytes are looked at. -/
def commonLength (data : List UInt8) (cap a b : Nat) : Nat :=
  lcp ((data.drop a).take cap) ((data.drop b).take cap)

theorem matchLength_eq_commonLength (data : List UInt8) (cap a b : Nat) :
    matchLength data cap a b = commonLength data cap a b := by
  induction cap generalizing a b with
  | zero =>
      rw [commonLength, List.take_zero, List.take_zero]
      rfl
  | succ cap ih =>
      rw [matchLength]
      by_cases hin : a < data.length ∧ b < data.length
      · rcases hin with ⟨ha, hb⟩
        rw [ih, commonLength, commonLength, List.drop_eq_getElem_cons ha,
          List.drop_eq_getElem_cons hb, List.take_succ_cons, List.take_succ_cons, lcp,
          List.getD_eq_getElem _ _ ha, List.getD_eq_getElem _ _ hb]
        simp only [ha, hb, true_and]
      · have hempty : commonLength data (cap + 1) a b = 0 := by
          rcases not_and_or.mp hin with ha | hb
          · rw [commonLength, List.drop_eq_nil_of_le (not_lt.mp ha), List.take_nil]
            rfl
          · rw [commonLength, List.drop_eq_nil_of_le (not_lt.mp hb), List.take_nil]
            cases (data.drop a).take (cap + 1) <;> rfl
        rw [hempty, if_neg]
        rintro ⟨ha, hb, -⟩
        exact hin ⟨ha, hb⟩

variable {WindowLength MaxMatchLength : Nat}

/-- The offset is one of the last ones before the current one. -/
def InWindow (w : WindowIndex WindowLength MaxMatchLength) (m : Nat) : Prop :=
  m < w.offset ∧ w.offset ≤ m + WindowLength

/-- What the window index promises at an offset. -/
structure Exact (w : WindowIndex WindowLength MaxMatchLength) : Prop where
  mem_iff : ∀ m, m ∈ w.index ↔ InWindow w m
  ordered : StrictTotalOn w.setComparator fun m => InWindow w m ∨ m = w.offset
  erases : WindowLength ≤ w.offset → InWindow w (w.offset - WindowLength) ∧
    ∀ m, m ∈ erase w.setComparator (w.offset - WindowLength) w.index ↔
      InWindow w m ∧ m ≠ w.offset - WindowLength
  /-- A window without offsets has no match. -/
  empty : (∀ m, ¬ InWindow w m) → w.getBestMatch = (0, 0)
  greatest : (∃ m, InWindow w m) →
    InWindow w w.getBestMatch.1 ∧
      commonLength w.data MaxMatchLength w.getBestMatch.1 w.offset = w.getBestMatch.2 ∧
      IsGreatest {n | ∃ m, InWindow w m ∧ commonLength w.data MaxMatchLength m w.offset = n}
        w.getBestMatch.2

variable {w : WindowIndex WindowLength MaxMatchLength}

/-- The match is with an offset of the index. -/
def Achieved (w : WindowIndex WindowLength MaxMatchLength) (best : Nat × Nat) : Prop :=
  best.1 ∈ w.index ∧ best.2 = w.getMatchLength best.1

/-- The match `(0, 0)` from before the search only stays if it is a match with
the offset 0 of the index. -/
theorem achieved_better {best : Nat × Nat} (h : w.Found best) {m : Nat} (hm : m ∈ w.index) :
    Achieved w (w.better best m) := by
  unfold better
  dsimp only
  split_ifs with hbetter
  · exact ⟨hm, rfl⟩
  · rcases h with rfl | h
    · rw [not_or, not_and] at hbetter
      have hsize : w.getMatchLength m = 0 := Nat.le_zero.mp (not_lt.mp hbetter.1)
      have hzero : m = 0 := Nat.le_zero.mp (not_lt.mp (hbetter.2 hsize))
      rw [hzero] at hm hsize
      exact ⟨hm, hsize.symm⟩
    · exact h

theorem achieved_getBestMatch {m : Nat} (hm : m ∈ w.index) : Achieved w w.getBestMatch := by
  have happ : (upperBound w.setComparator w.offset w.index).1 ++
      (upperBound w.setComparator w.offset w.index).2 = w.index :=
    List.takeWhile_append_dropWhile
  have hnone : w.Found (0, 0) := .inl rfl
  have hbefore (p : Nat) (hp : (upperBound w.setComparator w.offset w.index).1.getLast? = some p) :
      p ∈ w.index := by
    rw [← happ]
    exact List.mem_append_left _ (List.mem_of_mem_getLast? hp)
  have hafter (s : Nat) (hs : (upperBound w.setComparator w.offset w.index).2.head? = some s) :
      s ∈ w.index := by
    rw [← happ]
    exact List.mem_append_right _ (List.mem_of_mem_head? hs)
  simp only [getBestMatch]
  cases hs : (upperBound w.setComparator w.offset w.index).2.head? with
  | none =>
      cases hp : (upperBound w.setComparator w.offset w.index).1.getLast? with
      | none =>
          rw [List.head?_eq_none_iff.mp hs, List.getLast?_eq_none_iff.mp hp] at happ
          rw [← happ] at hm
          exact absurd hm List.not_mem_nil
      | some p => exact achieved_better hnone (hbefore p hp)
  | some s =>
      have hfirst := achieved_better hnone (hafter s hs)
      cases hp : (upperBound w.setComparator w.offset w.index).1.getLast? with
      | none => exact hfirst
      | some p => exact achieved_better (.inr hfirst) (hbefore p hp)

theorem exact_of_valid (h : w.Valid) (hwindow : 0 < WindowLength) : Exact w := by
  have hlength (m : Nat) : w.getMatchLength m = commonLength w.data MaxMatchLength m w.offset :=
    matchLength_eq_commonLength w.data MaxMatchLength m w.offset
  constructor
  · exact h.mem_iff
  · apply (strictTotalOn_of_comparesBy w.setComparator_comparesBy).mono
    rintro m (hm | rfl)
    · exact hm.1.le.trans h.offset_le
    · exact h.offset_le
  · intro hfull
    refine ⟨⟨by omega, by omega⟩, ?_⟩
    intro m
    have hle : w.offset - WindowLength ≤ w.data.length := (Nat.sub_le _ _).trans h.offset_le
    rw [w.setComparator_comparesBy.mem_erase hle h.le_length, h.mem_iff, InWindow]
  · intro hempty
    rcases w.getBestMatch_found with hnone | ⟨hmem, -⟩
    · exact hnone
    · exact absurd ((h.mem_iff _).mp hmem) (hempty _)
  · rintro ⟨m, hm⟩
    rcases achieved_getBestMatch ((h.mem_iff m).mpr hm) with ⟨hmem, hsize⟩
    rw [hlength] at hsize
    have hin : InWindow w w.getBestMatch.1 := (h.mem_iff _).mp hmem
    refine ⟨hin, hsize.symm, ⟨w.getBestMatch.1, hin, hsize.symm⟩, ?_⟩
    rintro n ⟨k, hk, rfl⟩
    rw [← hlength]
    exact h.getMatchLength_le ((h.mem_iff k).mpr hk)

/-- The index is exact at every offset up to the end of the data. -/
theorem exact_iterate_advance (hwindow : 0 < WindowLength) (data : List UInt8) {n : Nat}
    (hn : n ≤ data.length) :
    Exact (WindowIndex.advance^[n] (new data : WindowIndex WindowLength MaxMatchLength)) := by
  apply exact_of_valid _ hwindow
  exact ((new_at data).iterate_advance hwindow (by rwa [Nat.zero_add])).valid

theorem exact_iterate_advance_abab : (0 < 2 ∧ 3 ≤ [1, 2, 1, (2 : UInt8)].length) ∧
    Exact (WindowIndex.advance^[3] (new [1, 2, 1, 2] : WindowIndex 2 3)) :=
  ⟨by decide, exact_iterate_advance (by decide) [1, 2, 1, 2] (by decide)⟩

/-- With a window of length zero, the offset that leaves the window is removed
before it is put in. -/
theorem not_exact_empty_window :
    ¬ Exact (WindowIndex.advance^[1] (new [1, 1] : WindowIndex 0 3)) := by
  intro h
  have hin := (h.mem_iff 0).mp (by decide)
  exact absurd hin.2 (by decide)

end HuntersGuild.WindowExactness
