import HuntersGuild.MovementProgress

/-!
A movement search finds the tiles that a card may move to, and for one of them the
cheapest walk there.
-/

namespace HuntersGuild.MovementExactness

open HuntersGuild.BattleMaps
open HuntersGuild.BoundedSearch
open HuntersGuild.ByteStreams
open HuntersGuild.CardPlacement (HandAndEquipState)
open HuntersGuild.ExceptionRules
open HuntersGuild.MovementProgress
open HuntersGuild.MovementSearch
open HuntersGuild.MovementWalks
open HuntersGuild.ReversibleWalks

/-- The tile of a location. -/
def tileOf (x y : UInt8) : Tile := (x.toNat, y.toNat)

section Start

variable {search : Search} {x y : UInt8} {heading : Heading}

end Start

/-- Whether a tile is marked in the map of visited tiles. -/
def isMarked (visitedMap : Vector UInt8 256) (x y : Nat) : Bool :=
  x < 16 ∧ y < 16 ∧ visitedMap[x * 16 + y]? = some 1

/-- A path to a tile is the cheapest of the walks there, with the tile itself twice. -/
structure FollowsCheapest (search : Search) (start : Tile) (limit : Nat) (tile : Tile)
    (path : MovePath) (walk : List Heading) : Prop where
  reaches : Reaches search start limit tile walk
  cost_le : ∀ other, Reaches search start limit tile other →
    walkCost search start walk ≤ walkCost search start other
  cost_eq : path.cost = walkCost search start walk
  end_twice : path.stepLocs.head? = (locations start walk).head?
  steps_eq : path.stepLocs.tail = locations start walk

structure Exact (search : Search) (start : Tile) (limit : Nat) (endLoc : Option Location)
    (result : MoveResult) : Prop where
  marks : ∀ mark ∈ result.visitedMap.toList, mark = 0 ∨ mark = 1
  marked_iff : ∀ x y : Nat, ((x : Int), (y : Int)) ≠ start →
    (isMarked result.visitedMap x y ↔ ∃ walk, Reaches search start limit (x, y) walk)
  path : ∀ loc, endLoc = some loc → tileOf loc.x loc.y ≠ start →
    ∃ path, result.outPath = some path ∧ path.stepLocs.length ≤ 11 ∧
      (path.isValid ↔ isMarked result.visitedMap loc.x.toNat loc.y.toNat) ∧
      (path.isValid → ∃ walk,
        FollowsCheapest search start limit (tileOf loc.x loc.y) path walk) ∧
      result.outCost = some (if path.isValid then path.cost else 99)

section Result

variable {search : Search} {start : Tile} {limit : Nat}

theorem Reaches.inside {tile : Tile} {walk : List Heading}
    (h : Reaches search start limit tile walk) (hne : tile ≠ start) : inside search tile := by
  have hwalk : walk ≠ [] := by
    rintro rfl
    exact hne h.endpoint_eq.symm
  have hmem := steps.endpoint_mem_trail start hwalk
  rw [h.endpoint_eq] at hmem
  have hpassable := h.passable_of_mem tile hmem
  rw [passable, decide_eq_true_iff] at hpassable
  exact hpassable.1

theorem inside_of_mem_tried (hlimit : 1 ≤ limit) {walk : List Heading}
    (h : walk ∈ tried search start limit) : inside search (steps.endpoint start walk) := by
  obtain ⟨_, hne, hall, _⟩ := (mem_tried_iff hlimit).mp h
  exact (admitted_iff.mp (hall walk (List.suffix_refl walk) hne)).1

/-- The walks that lead to a tile are represented among those that are tried. -/
theorem exists_tried_iff (hscale : ∀ cond ∈ search.chain.conditions.toList,
      cond.type = .scaleMvCost → 0 ≤ cond.value.toInt) (hlimit : 1 ≤ limit) {tile : Tile}
    (hne : tile ≠ start) :
    (∃ walk ∈ tried search start limit, steps.endpoint start walk = tile ∧ vacant search tile) ↔
      ∃ walk, Reaches search start limit tile walk := by
  constructor
  · rintro ⟨walk, hwalk, rfl, hvacant⟩
    exact ⟨walk, reaches_of_mem_tried hlimit hwalk hvacant⟩
  · rintro ⟨walk, hwalk⟩
    obtain ⟨other, hother, hend, _⟩ := hwalk.exists_tried hscale hlimit hne
    exact ⟨other, hother, hend, hwalk.vacant⟩

theorem marked_iff (hwidth : search.mapAndRules.map.width.toNat ≤ 16)
    (hheight : search.mapAndRules.map.height.toNat ≤ 16)
    (hscale : ∀ cond ∈ search.chain.conditions.toList,
      cond.type = .scaleMvCost → 0 ≤ cond.value.toInt) (hlimit : 1 ≤ limit)
    {visitedMap : Vector UInt8 256}
    (hvisited : ∀ index (_ : index < 256), visitedMap[index] =
      if (tried search start limit).any (marks search start index) then 1 else 0)
    {x y : Nat} (hne : ((x : Int), (y : Int)) ≠ start) :
    isMarked visitedMap x y ↔ ∃ walk, Reaches search start limit (x, y) walk := by
  rw [← exists_tried_iff hscale hlimit hne, isMarked, decide_eq_true_iff]
  constructor
  · rintro ⟨hx, hy, hmark⟩
    have hindex : x * 16 + y < 256 := by omega
    rw [Vector.getElem?_eq_getElem hindex, hvisited _ hindex] at hmark
    have hany : (tried search start limit).any (marks search start (x * 16 + y)) := by
      by_contra hany
      rw [if_neg hany] at hmark
      cases hmark
    obtain ⟨walk, hwalk, hmarks⟩ := List.any_eq_true.mp hany
    rw [marks, decide_eq_true_iff] at hmarks
    have hinside := inside_iff.mp (inside_of_mem_tried hlimit hwalk)
    have hend : steps.endpoint start walk = ((x : Int), (y : Int)) := by
      apply Prod.ext <;> simp only <;> omega
    exact ⟨walk, hwalk, hend, hend ▸ hmarks.1⟩
  · rintro ⟨walk, hwalk, hend, hvacant⟩
    have hinside := inside_iff.mp (inside_of_mem_tried hlimit hwalk)
    rw [hend] at hinside
    simp only at hinside
    have hindex : x * 16 + y < 256 := by omega
    refine ⟨by omega, by omega, ?_⟩
    have hany : (tried search start limit).any (marks search start (x * 16 + y)) := by
      refine List.any_eq_true.mpr ⟨walk, hwalk, ?_⟩
      rw [marks, decide_eq_true_iff, hend]
      exact ⟨hvacant, by simp only; omega⟩
    rw [Vector.getElem?_eq_getElem hindex, hvisited _ hindex, if_pos hany]

end Result

end HuntersGuild.MovementExactness
