import Mathlib.Data.Nat.Basic
import Mathlib.Tactic.SplitIfs
import Mathlib.Algebra.GroupWithZero.Nat

/-!
The choice of an index of a list of weights with a ticket below their sum.
-/

namespace HuntersGuild.WeightedChoice

/-- The index whose share of the tickets the ticket falls into. -/
def choose : List Nat → Nat → Option Nat
  | [], _ => none
  | weight :: weights, ticket =>
    if ticket < weight then some 0 else (choose weights (ticket - weight)).map (· + 1)

theorem choose_of_lt {weight ticket : Nat} (h : ticket < weight) (weights : List Nat) :
    choose (weight :: weights) ticket = some 0 :=
  if_pos h

theorem choose_add (weight : Nat) (weights : List Nat) (ticket : Nat) :
    choose (weight :: weights) (weight + ticket) = (choose weights ticket).map (· + 1) := by
  rw [choose, if_neg (Nat.not_lt.mpr (Nat.le_add_right weight ticket)), Nat.add_sub_cancel_left]

theorem exists_choose {weights : List Nat} {ticket : Nat} (h : ticket < weights.sum) :
    ∃ z < weights.length, choose weights ticket = some z := by
  induction weights generalizing ticket with
  | nil => exact absurd h (Nat.not_lt_zero ticket)
  | cons weight weights ih =>
      rw [List.sum_cons] at h
      rw [List.length_cons, choose]
      split_ifs with hlt
      · exact ⟨0, Nat.succ_pos _, rfl⟩
      · rcases ih (show ticket - weight < weights.sum by omega) with ⟨z, hz, hchoose⟩
        exact ⟨z + 1, Nat.succ_lt_succ hz, congrArg (Option.map (· + 1)) hchoose⟩

/-- Every index gets as many tickets as its weight says. -/
theorem countP_choose (weights : List Nat) (z : Nat) :
    (List.range weights.sum).countP (fun ticket => choose weights ticket = some z) =
      weights.getD z 0 := by
  induction weights generalizing z with
  | nil => rfl
  | cons weight weights ih =>
      have hfirst (ticket : Nat) (hticket : ticket ∈ List.range weight) :
          choose (weight :: weights) ticket = some 0 :=
        choose_of_lt (List.mem_range.mp hticket) weights
      rw [List.sum_cons, List.range_add, List.countP_append, List.countP_map]
      cases z with
      | zero =>
          have hhead : (List.range weight).countP
              (fun ticket => choose (weight :: weights) ticket = some 0) = weight := by
            rw [List.countP_eq_length.mpr, List.length_range]
            intro ticket hticket
            exact decide_eq_true (hfirst ticket hticket)
          have htail : (List.range weights.sum).countP
              ((fun ticket => decide (choose (weight :: weights) ticket = some 0)) ∘
                fun ticket => weight + ticket) = 0 := by
            apply List.countP_eq_zero.mpr
            intro ticket _
            rw [Function.comp_apply, choose_add]
            simp
          rw [hhead, htail]
          rfl
      | succ z =>
          have hhead : (List.range weight).countP
              (fun ticket => choose (weight :: weights) ticket = some (z + 1)) = 0 := by
            apply List.countP_eq_zero.mpr
            intro ticket hticket
            rw [hfirst ticket hticket]
            simp
          have htail : ((fun ticket => decide (choose (weight :: weights) ticket = some (z + 1))) ∘
              fun ticket => weight + ticket) = fun ticket => decide (choose weights ticket = some z) := by
            funext ticket
            rw [Function.comp_apply, choose_add]
            simp
          rw [hhead, htail, ih, Nat.zero_add]
          rfl

end HuntersGuild.WeightedChoice
