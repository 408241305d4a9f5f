import Mathlib.Data.List.Basic

/-!
Depth-first search of a tree down to a depth, and the first of the cheapest of
the nodes that it meets.
-/

namespace HuntersGuild.BoundedSearch

universe u

variable {α : Type u} (children : α → List α) (admitted : α → Bool)

/-- The nodes from a node on that are at most so many levels below it, each before
those below it; nothing below a node that is not admitted is met. -/
def explore : Nat → α → List α
  | 0, node => if admitted node then [node] else []
  | depth + 1, node =>
      if admitted node then node :: (children node).flatMap (explore depth) else []

variable {children admitted}

theorem mem_explore_self {depth : Nat} {node : α} (h : admitted node) :
    node ∈ explore children admitted depth node := by
  cases depth <;> simp [explore, h]

theorem mem_explore_child {depth : Nat} {node child x : α} (hnode : admitted node)
    (hchild : child ∈ children node) (hx : x ∈ explore children admitted depth child) :
    x ∈ explore children admitted (depth + 1) node := by
  rw [explore, if_pos hnode]
  exact List.mem_cons_of_mem _ (List.mem_flatMap.mpr ⟨child, hchild, hx⟩)

theorem mem_explore_succ {depth : Nat} {node x child : α}
    (hx : x ∈ explore children admitted depth node) (hchild : child ∈ children x)
    (hadmitted : admitted child) : child ∈ explore children admitted (depth + 1) node := by
  induction depth generalizing node with
  | zero =>
      by_cases hnode : admitted node
      · simp only [explore, if_pos hnode, List.mem_singleton] at hx
        subst hx
        exact mem_explore_child hnode hchild (mem_explore_self hadmitted)
      · simp [explore, hnode] at hx
  | succ depth ih =>
      by_cases hnode : admitted node
      · simp only [explore, if_pos hnode, List.mem_cons, List.mem_flatMap] at hx
        rcases hx with rfl | ⟨middle, hmiddle, hx⟩
        · exact mem_explore_child hnode hchild (mem_explore_self hadmitted)
        · exact mem_explore_child hnode hmiddle (ih hx)
      · simp [explore, hnode] at hx

theorem mem_explore_mono {depth depth' : Nat} (hle : depth ≤ depth') {node x : α}
    (hx : x ∈ explore children admitted depth node) :
    x ∈ explore children admitted depth' node := by
  induction depth generalizing node depth' with
  | zero =>
      by_cases hnode : admitted node
      · simp only [explore, if_pos hnode, List.mem_singleton] at hx
        subst hx
        exact mem_explore_self hnode
      · simp [explore, hnode] at hx
  | succ depth ih =>
      obtain ⟨depth', rfl⟩ := Nat.exists_eq_succ_of_ne_zero (by omega : depth' ≠ 0)
      by_cases hnode : admitted node
      · simp only [explore, if_pos hnode, List.mem_cons, List.mem_flatMap] at hx
        rcases hx with rfl | ⟨child, hchild, hx⟩
        · exact mem_explore_self hnode
        · exact mem_explore_child hnode hchild (ih (by omega) hx)
      · simp [explore, hnode] at hx

/-- What holds of the node, and goes on to the admitted children, holds of every
node that is met. -/
theorem of_mem_explore {p : α → Prop} {depth : Nat} {node x : α} (hnode : admitted node → p node)
    (hchild : ∀ parent child, p parent → child ∈ children parent → admitted child → p child)
    (hx : x ∈ explore children admitted depth node) : p x := by
  induction depth generalizing node with
  | zero =>
      by_cases hadmitted : admitted node
      · simp only [explore, if_pos hadmitted, List.mem_singleton] at hx
        exact hx ▸ hnode hadmitted
      · simp [explore, hadmitted] at hx
  | succ depth ih =>
      by_cases hadmitted : admitted node
      · simp only [explore, if_pos hadmitted, List.mem_cons, List.mem_flatMap] at hx
        rcases hx with rfl | ⟨child, hmem, hx⟩
        · exact hnode hadmitted
        · exact ih (hchild node child (hnode hadmitted) hmem) hx
      · simp [explore, hadmitted] at hx

theorem size_le_of_mem_explore (size : α → Nat)
    (hsize : ∀ parent child, child ∈ children parent → size child ≤ size parent + 1)
    {depth : Nat} {node x : α} (hx : x ∈ explore children admitted depth node) :
    size x ≤ size node + depth := by
  induction depth generalizing node with
  | zero =>
      by_cases hadmitted : admitted node
      · simp only [explore, if_pos hadmitted, List.mem_singleton] at hx
        exact hx ▸ Nat.le_refl _
      · simp [explore, hadmitted] at hx
  | succ depth ih =>
      by_cases hadmitted : admitted node
      · simp only [explore, if_pos hadmitted, List.mem_cons, List.mem_flatMap] at hx
        rcases hx with rfl | ⟨child, hmem, hx⟩
        · exact Nat.le_add_right _ _
        · calc size x ≤ size child + depth := ih hx
            _ ≤ size node + 1 + depth := Nat.add_le_add_right (hsize node child hmem) depth
            _ = size node + (depth + 1) := by omega
      · simp [explore, hadmitted] at hx

section Cheapest

variable (cost : α → Nat)

/-- The first of the cheapest of some items, if any is cheaper than the bound. -/
def cheapest : Option Nat → List α → Option α
  | _, [] => none
  | bound, x :: xs =>
      if bound.all fun b => cost x < b then
        (cheapest (some (cost x)) xs).or (some x)
      else
        cheapest bound xs

variable {cost}

theorem cheapest_append (bound : Option Nat) (xs ys : List α) :
    cheapest cost bound (xs ++ ys) =
      match cheapest cost bound xs with
      | none => cheapest cost bound ys
      | some x => (cheapest cost (some (cost x)) ys).or (some x) := by
  induction xs generalizing bound with
  | nil => rfl
  | cons x xs ih =>
      rw [List.cons_append, cheapest, cheapest]
      by_cases hbound : bound.all fun b => cost x < b
      · simp only [if_pos hbound, ih]
        cases cheapest cost (some (cost x)) xs with
        | none => rfl
        | some y => simp
      · simp only [if_neg hbound, ih]

theorem mem_of_cheapest {bound : Option Nat} {xs : List α} {x : α}
    (h : cheapest cost bound xs = some x) : x ∈ xs := by
  induction xs generalizing bound with
  | nil => cases h
  | cons y ys ih =>
      rw [cheapest] at h
      by_cases hbound : bound.all fun b => cost y < b
      · rw [if_pos hbound] at h
        rcases Option.or_eq_some_iff.mp h with hlater | ⟨_, hself⟩
        · exact List.mem_cons_of_mem y (ih hlater)
        · exact Option.some.inj hself ▸ List.mem_cons_self
      · rw [if_neg hbound] at h
        exact List.mem_cons_of_mem y (ih h)

end Cheapest

end HuntersGuild.BoundedSearch
