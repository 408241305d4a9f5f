import HuntersGuild.BoundedSearch
import HuntersGuild.MovementSearch
import HuntersGuild.ReversibleWalks

/-!
The walks over the map that a movement search looks for, and those that it tries.
-/

namespace HuntersGuild.MovementWalks

open HuntersGuild.BattleMaps
open HuntersGuild.BoundedSearch
open HuntersGuild.MovementSearch
open HuntersGuild.ReversibleWalks

inductive Heading where
  | right
  | up
  | left
  | down
deriving DecidableEq

def Heading.direction : Heading → Direction
  | .right => .right
  | .up => .up
  | .left => .left
  | .down => .down

def Heading.offset : Heading → Int × Int
  | .right => (1, 0)
  | .up => (0, -1)
  | .left => (-1, 0)
  | .down => (0, 1)

def Heading.back : Heading → Heading
  | .right => .left
  | .up => .down
  | .left => .right
  | .down => .up

def Heading.toLeft : Heading → Heading
  | .right => .up
  | .up => .left
  | .left => .down
  | .down => .right

def Heading.toRight : Heading → Heading
  | .right => .down
  | .up => .right
  | .left => .up
  | .down => .left

abbrev Tile := Int × Int

/-- The orthogonal steps from tile to tile. -/
def steps : Moves Tile Heading where
  move heading tile := (tile.1 + heading.offset.1, tile.2 + heading.offset.2)
  back := Heading.back
  move_back := by
    rintro heading ⟨x, y⟩
    cases heading <;> simp [Heading.back, Heading.offset]

section Search

variable (search : Search)

/-- Inside of the border of the map. -/
def inside (tile : Tile) : Bool :=
  1 ≤ tile.1 ∧ tile.1 < search.mapAndRules.map.width.toNat - 1 ∧
    1 ≤ tile.2 ∧ tile.2 < search.mapAndRules.map.height.toNat - 1

def vacant (tile : Tile) : Bool :=
  match search.mapAndRules.tileIsVacant (.ofNat tile.1.toNat) (.ofNat tile.2.toNat) with
  | .ok vacant => vacant
  | .error _ => false

/-- Whether a card may move over a tile. -/
def passable (tile : Tile) : Bool :=
  inside search tile ∧ (vacant search tile ∨ search.isFreeManeuverOrAerial)

variable (start : Tile)

/-- How many occupied tiles a walk moves over. -/
def occupiedTiles (walk : List Heading) : Nat :=
  (steps.trail start walk).countP fun tile => !vacant search tile

def walkCost (walk : List Heading) : Nat :=
  getPathCost search.chain walk.length
    (if search.isAerial then occupiedTiles search start walk else 0)

/-- A walk that a card may take to a tile, its last step first. -/
structure Reaches (limit : Nat) (tile : Tile) (walk : List Heading) : Prop where
  endpoint_eq : steps.endpoint start walk = tile
  length_le : walk.length ≤ limit
  passable_of_mem : ∀ passed ∈ steps.trail start walk, passable search passed
  vacant : vacant search tile
  cost_le : walkCost search start walk ≤ search.maxAtkPoints.toNat

def location (tile : Tile) (heading : Heading) : Location where
  x := .ofNat tile.1.toNat
  y := .ofNat tile.2.toNat
  direction := heading.direction

/-- The locations of a walk after its start, from the last one back. -/
def locations : List Heading → List Location
  | [] => []
  | heading :: walk =>
      location (steps.endpoint start (heading :: walk)) heading :: locations walk

/-- Whether the search goes on from the end of a walk. -/
def admitted (walk : List Heading) : Bool :=
  let tile := steps.endpoint start walk
  inside search tile ∧
    if vacant search tile then walkCost search start walk ≤ search.maxAtkPoints.toNat
    else search.isFreeManeuverOrAerial

/-- The walks that are tried after a walk: the card does not turn around. -/
def longer : List Heading → List (List Heading)
  | [] => [[.right], [.up], [.left], [.down]]
  | heading :: walk =>
      [heading, heading.toLeft, heading.toRight].map fun next => next :: heading :: walk

/-- The walks that are tried, in the order in which they are. -/
def tried (limit : Nat) : List (List Heading) :=
  (longer []).flatMap (explore longer (admitted search start) (limit - 1))

end Search

theorem Heading.mem_turns_iff (last heading : Heading) :
    heading ∈ [last, last.toLeft, last.toRight] ↔ last ≠ heading.back := by
  cases last <;> cases heading <;> decide

theorem mem_longer_iff {walk next : List Heading} :
    next ∈ longer walk ↔
      ∃ heading : Heading, next = heading :: walk ∧ ∀ last ∈ walk.head?, last ≠ heading.back := by
  cases walk with
  | nil =>
      constructor
      · intro h
        simp only [longer, List.mem_cons, List.not_mem_nil, or_false] at h
        rcases h with rfl | rfl | rfl | rfl <;> exact ⟨_, rfl, by simp⟩
      · rintro ⟨heading, rfl, _⟩
        cases heading <;> simp [longer]
  | cons last walk =>
      constructor
      · intro h
        obtain ⟨heading, hheading, rfl⟩ := List.mem_map.mp h
        refine ⟨heading, rfl, ?_⟩
        rintro last' ⟨⟩
        exact (Heading.mem_turns_iff last heading).mp hheading
      · rintro ⟨heading, rfl, hlast⟩
        exact List.mem_map.mpr ⟨heading, (Heading.mem_turns_iff last heading).mpr (hlast last rfl), rfl⟩

theorem length_le_of_mem_longer (walk next : List Heading) (h : next ∈ longer walk) :
    next.length ≤ walk.length + 1 := by
  obtain ⟨heading, rfl, _⟩ := mem_longer_iff.mp h
  exact le_refl _

theorem straight_cons_iff {heading : Heading} {walk : List Heading} :
    steps.Straight (heading :: walk) ↔
      heading :: walk ∈ longer walk ∧ steps.Straight walk := by
  rw [mem_longer_iff]
  constructor
  · intro h
    exact ⟨⟨heading, rfl, (List.isChain_cons.mp h).1⟩, (List.isChain_cons.mp h).2⟩
  · rintro ⟨⟨heading', heq, hlast⟩, hwalk⟩
    rw [List.cons_eq_cons] at heq
    exact List.isChain_cons.mpr ⟨heq.1 ▸ hlast, hwalk⟩

variable {search : Search} {start : Tile}

theorem occupiedTiles_le_of_sublist {walk walk' : List Heading}
    (h : (steps.trail start walk).Sublist (steps.trail start walk')) :
    occupiedTiles search start walk ≤ occupiedTiles search start walk' :=
  h.countP_le

theorem trail_sublist_of_suffix (start : Tile) {walk walk' : List Heading} (h : walk <:+ walk') :
    (steps.trail start walk).Sublist (steps.trail start walk') := by
  obtain ⟨before, rfl⟩ := h
  induction before with
  | nil => exact List.Sublist.refl _
  | cons heading before ih => exact ih.trans (steps.trail_sublist_cons start heading _)

section Monotone

variable (hscale : ∀ cond ∈ search.chain.conditions.toList,
  cond.type = .scaleMvCost → 0 ≤ cond.value.toInt)

include hscale

theorem walkCost_le_of_sublist {walk walk' : List Heading}
    (h : (steps.trail start walk).Sublist (steps.trail start walk')) :
    walkCost search start walk ≤ walkCost search start walk' := by
  have hlength : walk.length ≤ walk'.length := by
    rw [← steps.length_trail start walk, ← steps.length_trail start walk']
    exact h.length_le
  apply getPathCost_mono hscale hlength
  split
  · exact occupiedTiles_le_of_sublist h
  · exact le_refl 0

/-- A walk may be straightened. -/
theorem Reaches.straighten {limit : Nat} {tile : Tile} {walk : List Heading}
    (h : Reaches search start limit tile walk) :
    Reaches search start limit tile (steps.straighten walk) ∧
      walkCost search start (steps.straighten walk) ≤ walkCost search start walk := by
  have hsub := steps.trail_straighten_sublist start walk
  have hcost := walkCost_le_of_sublist hscale hsub
  have hlength : (steps.straighten walk).length ≤ walk.length := by
    rw [← steps.length_trail start walk, ← steps.length_trail start (steps.straighten walk)]
    exact hsub.length_le
  refine ⟨⟨?_, ?_, ?_, h.vacant, ?_⟩, hcost⟩
  · rw [steps.endpoint_straighten]
    exact h.endpoint_eq
  · exact Nat.le_trans hlength h.length_le
  · intro passed hpassed
    exact h.passable_of_mem passed (hsub.subset hpassed)
  · exact Nat.le_trans hcost h.cost_le

end Monotone

/-- Every part of the walk from the start on is admitted. -/
def AllAdmitted (search : Search) (start : Tile) (walk : List Heading) : Prop :=
  ∀ part, part <:+ walk → part ≠ [] → admitted search start part

theorem allAdmitted_cons {heading : Heading} {walk : List Heading} :
    AllAdmitted search start (heading :: walk) ↔
      admitted search start (heading :: walk) ∧ AllAdmitted search start walk := by
  constructor
  · intro h
    constructor
    · exact h _ (List.suffix_refl _) (List.cons_ne_nil _ _)
    · intro part hpart
      exact h part (hpart.trans (List.suffix_cons heading walk))
  · rintro ⟨hcons, hwalk⟩ part hpart hne
    rcases List.suffix_cons_iff.mp hpart with rfl | hpart
    · exact hcons
    · exact hwalk part hpart hne

theorem allAdmitted_of_mem_explore {depth : Nat} {node walk : List Heading}
    (hnode : steps.Straight node ∧ node ≠ [] ∧
      (admitted search start node → AllAdmitted search start node))
    (h : walk ∈ explore longer (admitted search start) depth node) :
    steps.Straight walk ∧ walk ≠ [] ∧ AllAdmitted search start walk := by
  refine of_mem_explore (p := fun walk => steps.Straight walk ∧ walk ≠ [] ∧
    AllAdmitted search start walk) ?_ ?_ h
  · intro hadmitted
    exact ⟨hnode.1, hnode.2.1, hnode.2.2 hadmitted⟩
  · rintro parent child ⟨hstraight, _, hall⟩ hchild hadmitted
    obtain ⟨heading, rfl, _⟩ := mem_longer_iff.mp hchild
    refine ⟨straight_cons_iff.mpr ⟨hchild, hstraight⟩, List.cons_ne_nil _ _, ?_⟩
    exact allAdmitted_cons.mpr ⟨hadmitted, hall⟩

theorem mem_tried_of_straight {walk : List Heading} (hstraight : steps.Straight walk)
    (hall : AllAdmitted search start walk) (hne : walk ≠ []) :
    walk ∈ (longer []).flatMap (explore longer (admitted search start) (walk.length - 1)) := by
  induction walk with
  | nil => exact absurd rfl hne
  | cons heading walk ih =>
      obtain ⟨hadmitted, hall⟩ := allAdmitted_cons.mp hall
      obtain ⟨hlonger, hstraight⟩ := straight_cons_iff.mp hstraight
      by_cases hnil : walk = []
      · subst hnil
        exact List.mem_flatMap.mpr ⟨[heading], hlonger, mem_explore_self hadmitted⟩
      · obtain ⟨root, hroot, hwalk⟩ := List.mem_flatMap.mp (ih hstraight hall hnil)
        have hdeeper := mem_explore_succ hwalk hlonger hadmitted
        have hpos : 0 < walk.length := List.length_pos_iff.mpr hnil
        rw [Nat.sub_add_cancel hpos] at hdeeper
        exact List.mem_flatMap.mpr ⟨root, hroot, hdeeper⟩

/-- The search tries the straight walks up to its limit of which every part is
admitted. -/
theorem mem_tried_iff {limit : Nat} (hlimit : 1 ≤ limit) {walk : List Heading} :
    walk ∈ tried search start limit ↔
      steps.Straight walk ∧ walk ≠ [] ∧ AllAdmitted search start walk ∧
        walk.length ≤ limit := by
  constructor
  · intro h
    obtain ⟨root, hroot, hwalk⟩ := List.mem_flatMap.mp h
    obtain ⟨heading, rfl, _⟩ := mem_longer_iff.mp hroot
    have hsingle : admitted search start [heading] → AllAdmitted search start [heading] := by
      intro hadmitted
      refine allAdmitted_cons.mpr ⟨hadmitted, ?_⟩
      intro part hpart hne
      exact absurd (List.suffix_nil.mp hpart) hne
    obtain ⟨hstraight, hne, hall⟩ := allAdmitted_of_mem_explore
      ⟨List.isChain_singleton heading, List.cons_ne_nil _ _, hsingle⟩ hwalk
    refine ⟨hstraight, hne, hall, ?_⟩
    have hsize := size_le_of_mem_explore List.length length_le_of_mem_longer hwalk
    rw [List.length_singleton] at hsize
    omega
  · rintro ⟨hstraight, hne, hall, hlength⟩
    obtain ⟨root, hroot, hwalk⟩ := List.mem_flatMap.mp (mem_tried_of_straight hstraight hall hne)
    exact List.mem_flatMap.mpr ⟨root, hroot, mem_explore_mono (by omega) hwalk⟩

theorem passable_of_admitted {walk : List Heading} (h : admitted search start walk) :
    passable search (steps.endpoint start walk) := by
  simp only [admitted, decide_eq_true_eq] at h
  obtain ⟨hinside, hrest⟩ := h
  simp only [passable, decide_eq_true_eq]
  refine ⟨hinside, ?_⟩
  split at hrest
  · exact Or.inl ‹_›
  · exact Or.inr hrest

theorem AllAdmitted.passable_of_mem {walk : List Heading} (h : AllAdmitted search start walk)
    {passed : Tile} (hpassed : passed ∈ steps.trail start walk) : passable search passed := by
  induction walk with
  | nil => cases hpassed
  | cons heading walk ih =>
      obtain ⟨hadmitted, hall⟩ := allAdmitted_cons.mp h
      rcases List.mem_cons.mp hpassed with rfl | hpassed
      · exact passable_of_admitted hadmitted
      · exact ih hall hpassed

/-- A walk that is tried and ends on a vacant tile is one of those looked for. -/
theorem reaches_of_mem_tried {limit : Nat} (hlimit : 1 ≤ limit) {walk : List Heading}
    (h : walk ∈ tried search start limit)
    (hvacant : vacant search (steps.endpoint start walk)) :
    Reaches search start limit (steps.endpoint start walk) walk := by
  obtain ⟨_, hne, hall, hlength⟩ := (mem_tried_iff hlimit).mp h
  refine ⟨rfl, hlength, ?_, hvacant, ?_⟩
  · intro passed hpassed
    exact hall.passable_of_mem hpassed
  · have hadmitted := hall walk (List.suffix_refl walk) hne
    simp only [admitted, hvacant, if_true, decide_eq_true_eq] at hadmitted
    exact hadmitted.2

/-- Of a walk looked for every part is admitted, as its parts cost no more. -/
theorem Reaches.allAdmitted
    (hscale : ∀ cond ∈ search.chain.conditions.toList,
      cond.type = .scaleMvCost → 0 ≤ cond.value.toInt)
    {limit : Nat} {tile : Tile} {walk : List Heading}
    (h : Reaches search start limit tile walk) : AllAdmitted search start walk := by
  intro part hpart hne
  have hsub := trail_sublist_of_suffix start hpart
  have hpassable := h.passable_of_mem _ (hsub.subset (steps.endpoint_mem_trail start hne))
  simp only [passable, decide_eq_true_eq] at hpassable
  simp only [admitted, decide_eq_true_eq]
  refine ⟨hpassable.1, ?_⟩
  split
  · exact Nat.le_trans (walkCost_le_of_sublist hscale hsub) h.cost_le
  · exact hpassable.2.resolve_left ‹_›

/-- Whatever walk leads to another tile, one that costs no more is tried. -/
theorem Reaches.exists_tried
    (hscale : ∀ cond ∈ search.chain.conditions.toList,
      cond.type = .scaleMvCost → 0 ≤ cond.value.toInt)
    {limit : Nat} (hlimit : 1 ≤ limit) {tile : Tile} (hstart : tile ≠ start)
    {walk : List Heading} (h : Reaches search start limit tile walk) :
    ∃ other ∈ tried search start limit, steps.endpoint start other = tile ∧
      walkCost search start other ≤ walkCost search start walk := by
  obtain ⟨hreaches, hcost⟩ := h.straighten hscale
  refine ⟨steps.straighten walk, ?_, hreaches.endpoint_eq, hcost⟩
  refine (mem_tried_iff hlimit).mpr ⟨steps.straight_straighten walk, ?_,
    hreaches.allAdmitted hscale, hreaches.length_le⟩
  intro hnil
  have hend := hreaches.endpoint_eq
  rw [hnil] at hend
  exact hstart hend.symm

end HuntersGuild.MovementWalks
