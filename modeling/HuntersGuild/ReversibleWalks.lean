import Mathlib.Data.List.Chain
import Mathlib.Data.List.Basic

/-!
Walks along moves that can be taken back, written with the last move first.
-/

namespace HuntersGuild.ReversibleWalks

universe u v

structure Moves (V : Type u) (D : Type v) where
  move : D → V → V
  back : D → D
  move_back : ∀ d v, move d (move (back d) v) = v

variable {V : Type u} {D : Type v} (moves : Moves V D)

def Moves.endpoint (start : V) : List D → V
  | [] => start
  | d :: walk => moves.move d (Moves.endpoint start walk)

/-- The places of a walk after its start. -/
def Moves.trail (start : V) : List D → List V
  | [] => []
  | d :: walk => moves.move d (moves.endpoint start walk) :: Moves.trail start walk

/-- No move is made only to be taken back by the next one. -/
def Moves.Straight (walk : List D) : Prop := walk.IsChain fun d e => e ≠ moves.back d

/-- A walk without the moves that the next one takes back. -/
def Moves.straighten [DecidableEq D] : List D → List D
  | [] => []
  | d :: walk =>
      match Moves.straighten walk with
      | [] => [d]
      | e :: rest => if e = moves.back d then rest else d :: e :: rest

@[simp] theorem Moves.length_trail (start : V) (walk : List D) :
    (moves.trail start walk).length = walk.length := by
  induction walk with
  | nil => rfl
  | cons d walk ih => simp only [trail, List.length_cons, ih]

theorem Moves.trail_sublist_cons (start : V) (d : D) (walk : List D) :
    (moves.trail start walk).Sublist (moves.trail start (d :: walk)) :=
  List.sublist_cons_self _ _

theorem Moves.endpoint_mem_trail (start : V) {walk : List D} (h : walk ≠ []) :
    moves.endpoint start walk ∈ moves.trail start walk := by
  cases walk with
  | nil => exact absurd rfl h
  | cons d walk => exact List.mem_cons_self

section Straighten

variable [DecidableEq D] (start : V)

theorem Moves.straight_straighten (walk : List D) : moves.Straight (moves.straighten walk) := by
  induction walk with
  | nil => exact List.isChain_nil
  | cons d walk ih =>
      rw [straighten]
      cases hwalk : moves.straighten walk with
      | nil => exact List.isChain_singleton d
      | cons e rest =>
          rw [hwalk] at ih
          by_cases hback : e = moves.back d
          · simp only [if_pos hback]
            exact List.IsChain.tail ih
          · simp only [if_neg hback]
            exact List.isChain_cons_cons.mpr ⟨hback, ih⟩

theorem Moves.endpoint_straighten (walk : List D) :
    moves.endpoint start (moves.straighten walk) = moves.endpoint start walk := by
  induction walk with
  | nil => rfl
  | cons d walk ih =>
      rw [straighten, endpoint, ← ih]
      cases hwalk : moves.straighten walk with
      | nil => rfl
      | cons e rest =>
          by_cases hback : e = moves.back d
          · simp only [if_pos hback]
            simp only [endpoint, hback, moves.move_back]
          · simp only [if_neg hback, endpoint]

/-- Straightening a walk only leaves places out. -/
theorem Moves.trail_straighten_sublist (walk : List D) :
    (moves.trail start (moves.straighten walk)).Sublist (moves.trail start walk) := by
  induction walk with
  | nil => exact List.Sublist.refl _
  | cons d walk ih =>
      have hend := moves.endpoint_straighten start walk
      rw [straighten]
      cases hwalk : moves.straighten walk with
      | nil =>
          rw [hwalk] at ih hend
          simp only [trail, ← hend]
          exact ih.cons_cons _
      | cons e rest =>
          rw [hwalk] at ih hend
          by_cases hback : e = moves.back d
          · simp only [if_pos hback]
            calc (moves.trail start rest).Sublist (moves.trail start (e :: rest)) :=
                  moves.trail_sublist_cons start e rest
              _ |>.Sublist (moves.trail start walk) := ih
              _ |>.Sublist (moves.trail start (d :: walk)) := moves.trail_sublist_cons start d walk
          · simp only [if_neg hback, trail, ← hend]
            exact ih.cons_cons _

end Straighten

end HuntersGuild.ReversibleWalks
