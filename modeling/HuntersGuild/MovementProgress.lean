import HuntersGuild.ExceptionRules
import HuntersGuild.MovementWalks

/-!
What a movement search has done once it has tried some walks.
-/

namespace HuntersGuild.MovementProgress

open HuntersGuild.BattleMaps
open HuntersGuild.BoundedSearch
open HuntersGuild.ByteStreams
open HuntersGuild.ExceptionRules
open HuntersGuild.MovementSearch
open HuntersGuild.MovementWalks
open HuntersGuild.ReversibleWalks

section Progress

variable (search : Search) (start : Tile)

/-- Whether a tile is the vacant end that a path is looked for to. -/
def endsPath (path : Option MovePath) (tile : Tile) : Bool :=
  vacant search tile && (path.map (·.endLoc)).any fun endLoc =>
    (endLoc.x.toNat : Int) = tile.1 ∧ (endLoc.y.toNat : Int) = tile.2

/-- What a walk has to cost less than to become the path. -/
def costBound (path : Option MovePath) : Option Nat :=
  path.bind fun path => if path.isValid then some path.cost else none

/-- The cheapest of some walks to the end of the path. -/
def bestWalk (path : Option MovePath) (walks : List (List Heading)) : Option (List Heading) :=
  cheapest (walkCost search start) (costBound path)
    (walks.filter fun walk => endsPath search path (steps.endpoint start walk))

/-- The steps of a path once the calls for all but the first `depth` steps of the walk
have been left. -/
def stepsFrom (depth : Nat) (walk : List Heading) : List Location :=
  (locations start walk).take 1 ++ (locations start walk).take (walk.length - depth)

inductive PathProgress (depth : Nat) (walks : List (List Heading)) (before : Option MovePath) :
    Bool → Option MovePath → Prop
  | same (hnone : bestWalk search start before walks = none) :
      PathProgress depth walks before false before
  | found {walk : List Heading} {path : MovePath}
      (hsome : bestWalk search start before walks = some walk)
      (hend : some path.endLoc = before.map (·.endLoc))
      (hvalid : path.isValid)
      (hcost : path.cost = walkCost search start walk)
      (hsteps : path.stepLocs = stepsFrom start depth walk) :
      PathProgress depth walks before true (some path)

def marks (index : Nat) (walk : List Heading) : Bool :=
  let tile := steps.endpoint start walk
  vacant search tile ∧ (tile.1 * 16 + tile.2).toNat = index

structure Progress (depth : Nat) (walks : List (List Heading)) (before : SearchState)
    (result : Bool × SearchState) : Prop where
  visited : ∀ index (_ : index < 256), result.2.visitedMap[index] =
    if walks.any (marks search start index) then 1 else before.visitedMap[index]
  path : PathProgress search start depth walks before.path result.1 result.2.path

/-- The numbers by which the search calls a tile; they may be others only for a tile
that it does not enter. -/
structure Spot (x y : Int8) (tile : Tile) : Prop where
  outside : search.isOutside x y = !inside search tile
  names : inside search tile → x.toInt = tile.1 ∧ y.toInt = tile.2

end Progress

variable {search : Search} {start : Tile} {depth : Nat}

theorem bestWalk_append (path : Option MovePath) (walks walks' : List (List Heading)) :
    bestWalk search start path (walks ++ walks') =
      match bestWalk search start path walks with
      | none => bestWalk search start path walks'
      | some walk =>
          (cheapest (walkCost search start) (some (walkCost search start walk))
            (walks'.filter fun walk =>
              endsPath search path (steps.endpoint start walk))).or (some walk) := by
  unfold bestWalk
  rw [List.filter_append, cheapest_append]
  cases cheapest (walkCost search start) (costBound path)
    (walks.filter fun walk => endsPath search path (steps.endpoint start walk)) <;> rfl

theorem PathProgress.append {walks walks' : List (List Heading)} {before middle after : Option MovePath}
    {ret ret' : Bool} (h : PathProgress search start depth walks before ret middle)
    (h' : PathProgress search start depth walks' middle ret' after) :
    PathProgress search start depth (walks ++ walks') before (ret || ret') after := by
  cases h with
  | same hnone =>
      cases h' with
      | same hnone' =>
          apply PathProgress.same
          rw [bestWalk_append, hnone]
          exact hnone'
      | found hsome hend hvalid hcost hsteps =>
          refine PathProgress.found ?_ hend hvalid hcost hsteps
          rw [bestWalk_append, hnone]
          exact hsome
  | @found walk path hsome hend hvalid hcost hsteps =>
      have hlater : bestWalk search start (some path) walks' =
          cheapest (walkCost search start) (some (walkCost search start walk))
            (walks'.filter fun walk => endsPath search before (steps.endpoint start walk)) := by
        rw [bestWalk, ← hcost]
        simp only [costBound, Option.bind_some, if_pos hvalid, endsPath, Option.map_some, hend]
      cases h' with
      | same hnone' =>
          refine PathProgress.found ?_ hend hvalid hcost hsteps
          rw [bestWalk_append, hsome]
          simp only [← hlater, hnone', Option.none_or]
      | found hsome' hend' hvalid' hcost' hsteps' =>
          refine PathProgress.found ?_ (hend'.trans hend) hvalid' hcost' hsteps'
          rw [bestWalk_append, hsome]
          simp only [← hlater, hsome', Option.some_or]

theorem Progress.append {walks walks' : List (List Heading)} {before middle after : SearchState}
    {ret ret' : Bool} (h : Progress search start depth walks before (ret, middle))
    (h' : Progress search start depth walks' middle (ret', after)) :
    Progress search start depth (walks ++ walks') before (ret || ret', after) := by
  refine ⟨?_, h.path.append h'.path⟩
  intro index hindex
  have hvisited := h.visited index hindex
  have hvisited' := h'.visited index hindex
  simp only at hvisited hvisited'
  rw [hvisited', hvisited, List.any_append]
  cases walks.any (marks search start index) <;> simp

theorem Progress.nil (state : SearchState) : Progress search start depth [] state (false, state) := by
  refine ⟨fun index hindex => rfl, PathProgress.same rfl⟩

/-- At an occupied tile nothing is written. -/
theorem Progress.occupied {walk : List Heading}
    (h : vacant search (steps.endpoint start walk) = false) (state : SearchState) :
    Progress search start depth [walk] state (false, state) := by
  refine ⟨?_, PathProgress.same ?_⟩
  · intro index hindex
    simp [marks, h]
  · simp [bestWalk, endsPath, h, cheapest]

theorem exists_locations_append (start : Tile) (before walk : List Heading) :
    ∃ later, later.length = before.length ∧
      locations start (before ++ walk) = later ++ locations start walk := by
  induction before with
  | nil => exact ⟨[], rfl, rfl⟩
  | cons heading before ih =>
      obtain ⟨later, hlength, heq⟩ := ih
      refine ⟨location (steps.endpoint start (heading :: (before ++ walk))) heading :: later,
        by simp [hlength], ?_⟩
      simp only [List.cons_append, locations, heq]

theorem stepsFrom_succ {heading : Heading} {rest walk : List Heading}
    (h : heading :: rest <:+ walk) :
    stepsFrom start (rest.length + 1) walk ++
        [location (steps.endpoint start (heading :: rest)) heading] =
      stepsFrom start rest.length walk := by
  obtain ⟨before, rfl⟩ := h
  obtain ⟨later, hlength, heq⟩ := exists_locations_append start before (heading :: rest)
  have hdeep : (before ++ heading :: rest).length - (rest.length + 1) = later.length := by
    simp only [List.length_append, List.length_cons]
    omega
  have hshallow : (before ++ heading :: rest).length - rest.length = later.length + 1 := by
    simp only [List.length_append, List.length_cons]
    omega
  unfold stepsFrom
  rw [hdeep, hshallow, heq, List.append_assoc]
  congr 1
  simp [locations, List.take_append]

theorem PathProgress.leave {heading : Heading} {rest : List Heading} {walks : List (List Heading)}
    {before after : Option MovePath} {ret : Bool} {x y : Int8}
    (h : PathProgress search start (rest.length + 1) walks before ret after)
    (hloc : (⟨x.toUInt8, y.toUInt8, heading.direction⟩ : Location) =
      location (steps.endpoint start (heading :: rest)) heading)
    (hwalks : ∀ walk ∈ walks, heading :: rest <:+ walk ∧ walk.length ≤ 9)
    (visitedMap : Vector UInt8 256) (tileIsOccupied : Bool) :
    ∃ result, leave x y heading.direction tileIsOccupied ret ⟨visitedMap, after⟩ = .ok result ∧
      result.2.visitedMap = visitedMap ∧
      PathProgress search start rest.length walks before result.1 result.2.path := by
  cases h with
  | same hnone =>
      refine ⟨(false, ⟨visitedMap, before⟩), ?_, rfl, PathProgress.same hnone⟩
      cases before <;> rfl
  | @found walk path hsome hend hvalid hcost hsteps =>
      have hmem := List.mem_of_mem_filter (mem_of_cheapest hsome)
      obtain ⟨hsuffix, hlength⟩ := hwalks walk hmem
      have hroom : path.stepLocs.length < 11 := by
        rw [hsteps, stepsFrom, List.length_append, List.length_take, List.length_take]
        omega
      have hstep : path.addStep ⟨x.toUInt8, y.toUInt8, heading.direction⟩ =
          .ok { path with stepLocs := stepsFrom start rest.length walk } := by
        rw [MovePath.addStep, if_pos hroom, hloc, hsteps, stepsFrom_succ hsuffix]
      have hvalid' : !(stepsFrom start rest.length walk).isEmpty := by
        rw [← stepsFrom_succ hsuffix]
        simp
      cases tileIsOccupied with
      | false =>
          refine ⟨(true, ⟨visitedMap, some { path with
            stepLocs := stepsFrom start rest.length walk }⟩), ?_, rfl,
            PathProgress.found hsome hend hvalid' hcost rfl⟩
          simp only [MovementSearch.leave, hstep]
          rfl
      | true =>
          refine ⟨(true, ⟨visitedMap, some { path with
            stepLocs := stepsFrom start rest.length walk
            numOccupiedTiles := path.numOccupiedTiles + 1 }⟩), ?_, rfl,
            PathProgress.found hsome hend hvalid' hcost rfl⟩
          simp only [MovementSearch.leave, hstep]
          rfl

section Tiles

variable {x y : Int8} {tile : Tile}

theorem toUInt8_eq_ofNat {value : Int8} (h : 0 ≤ value.toInt) :
    value.toUInt8 = .ofNat value.toInt.toNat := by
  apply UInt8.toNat_inj.mp
  have hcond := BitVec.toInt_eq_toNat_cond value.toBitVec
  have hlt := value.toBitVec.isLt
  rw [UInt8.toNat_ofNat']
  change value.toBitVec.toNat = _
  change 0 ≤ value.toBitVec.toInt at h
  change _ = value.toBitVec.toInt.toNat % _
  split at hcond <;> omega

theorem inside_iff : inside search tile ↔
    1 ≤ tile.1 ∧ tile.1 < search.mapAndRules.map.width.toNat - 1 ∧
      1 ≤ tile.2 ∧ tile.2 < search.mapAndRules.map.height.toNat - 1 := by
  rw [inside, decide_eq_true_iff]

theorem isOutside_iff : search.isOutside x y ↔
    ¬ (1 ≤ x.toInt ∧ x.toInt < search.mapAndRules.map.width.toNat - 1 ∧
      1 ≤ y.toInt ∧ y.toInt < search.mapAndRules.map.height.toNat - 1) := by
  have hone : (1 : Int8).toInt = 1 := rfl
  rw [Search.isOutside, decide_eq_true_iff, Int8.lt_iff_toInt_lt, Int8.lt_iff_toInt_lt, hone]
  omega

theorem spot_of_iff
    (h : (1 ≤ x.toInt ∧ x.toInt < search.mapAndRules.map.width.toNat - 1 ∧
        1 ≤ y.toInt ∧ y.toInt < search.mapAndRules.map.height.toNat - 1) ↔ inside search tile)
    (hnames : inside search tile → x.toInt = tile.1 ∧ y.toInt = tile.2) :
    Spot search x y tile := by
  refine ⟨?_, hnames⟩
  rw [Bool.eq_iff_iff, isOutside_iff, h]
  simp

theorem Spot.toUInt8 (h : Spot search x y tile) (hinside : inside search tile) :
    x.toUInt8 = .ofNat tile.1.toNat ∧ y.toUInt8 = .ofNat tile.2.toNat := by
  obtain ⟨hx, hy⟩ := h.names hinside
  have hbounds := inside_iff.mp hinside
  constructor
  · rw [← hx]
    exact toUInt8_eq_ofNat (by omega)
  · rw [← hy]
    exact toUInt8_eq_ofNat (by omega)

/-- The tile one step on, whose numbers are those of this tile changed by the step's. -/
theorem Spot.step (hwidth : search.mapAndRules.map.width.toNat ≤ 16)
    (hheight : search.mapAndRules.map.height.toNat ≤ 16) (h : Spot search x y tile)
    (hinside : inside search tile) {dx dy : Int8} {heading : Heading}
    (hoffset : offsets heading.direction = .ok (dx, dy)) :
    Spot search (x + dx) (y + dy) (steps.move heading tile) := by
  obtain ⟨hx, hy⟩ := h.names hinside
  have hbounds := inside_iff.mp hinside
  have hd : dx.toInt = heading.offset.1 ∧ dy.toInt = heading.offset.2 ∧
      -1 ≤ dx.toInt ∧ dx.toInt ≤ 1 ∧ -1 ≤ dy.toInt ∧ dy.toInt ≤ 1 := by
    cases heading <;>
    · simp only [Heading.direction, offsets, Except.ok.injEq, Prod.mk.injEq] at hoffset
      rw [← hoffset.1, ← hoffset.2]
      decide
  have hsum : (x + dx).toInt = (steps.move heading tile).1 ∧
      (y + dy).toInt = (steps.move heading tile).2 := by
    rw [Int8.toInt_add, Int8.toInt_add]
    simp only [steps]
    rw [Int.bmod_eq_of_le, Int.bmod_eq_of_le] <;> omega
  refine spot_of_iff ?_ (fun _ => hsum)
  rw [inside_iff, hsum.1, hsum.2]

theorem location_eq (h : Spot search x y tile) (hinside : inside search tile) (heading : Heading) :
    (⟨x.toUInt8, y.toUInt8, heading.direction⟩ : Location) = location tile heading := by
  obtain ⟨hx, hy⟩ := h.toUInt8 hinside
  rw [location, hx, hy]

end Tiles

section Search

variable {x y : Int8} {heading : Heading} {rest : List Heading}

theorem admitted_iff {walk : List Heading} : admitted search start walk ↔
    inside search (steps.endpoint start walk) ∧
      (vacant search (steps.endpoint start walk) →
        walkCost search start walk ≤ search.maxAtkPoints.toNat) ∧
      (vacant search (steps.endpoint start walk) = false → search.isFreeManeuverOrAerial) := by
  rw [admitted, decide_eq_true_iff]
  cases vacant search (steps.endpoint start walk) <;> simp

theorem Progress.leave {walks : List (List Heading)} {before : SearchState}
    {result : Bool × SearchState}
    (h : Progress search start (rest.length + 1) walks before result)
    (hspot : Spot search x y (steps.endpoint start (heading :: rest)))
    (hinside : inside search (steps.endpoint start (heading :: rest)))
    (hwalks : ∀ walk ∈ walks, heading :: rest <:+ walk ∧ walk.length ≤ 9) (tileIsOccupied : Bool) :
    ∃ left, leave x y heading.direction tileIsOccupied result.1 result.2 = .ok left ∧
      Progress search start rest.length walks before left := by
  obtain ⟨left, hleft, hvisited, hpath⟩ :=
    h.path.leave (location_eq hspot hinside heading) hwalks result.2.visitedMap tileIsOccupied
  refine ⟨left, hleft, ?_, hpath⟩
  rw [hvisited]
  exact h.visited

end Search

end HuntersGuild.MovementProgress
