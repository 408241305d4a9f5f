import HuntersGuild.CardPlacement
import Mathlib.Tactic.Ring

/-!
The search for the tiles that a card may move to in a battle, and for its path
to one of them.

What other parts of the rules say about a card (its action chain, how far it may
move, where it is and how it moves) is a field of the server.
-/

namespace HuntersGuild.MovementSearch

open HuntersGuild.BattleMaps
open HuntersGuild.ByteStreams
open HuntersGuild.CardPlacement (HandAndEquipState)

inductive ConditionType where
  | setMvCostTo0
  | add1ToMvCost
  | scaleMvCost
  /-- a condition that does not change what a movement costs -/
  | other (value : UInt8)
deriving DecidableEq

structure Condition where
  type : ConditionType
  value : Int16

structure ActionChainWithConds where
  conditions : Vector Condition 9

/-- What one condition makes of a path's length. -/
def Condition.apply (cond : Condition) (pathLength : Int) : Int :=
  match cond.type with
  | .setMvCostTo0 => 0
  | .add1ToMvCost => pathLength + 1
  | .scaleMvCost => pathLength * cond.value.toInt
  | .other _ => pathLength

/-- The loop of `get_path_cost`. -/
def lengthAfter (conditions : List Condition) (pathLength : Int) : Int :=
  conditions.foldl (fun length cond => cond.apply length) pathLength

def getPathCost (chain : ActionChainWithConds) (pathLength costPenalty : Nat) : Nat :=
  (max 0 (min 99 (lengthAfter chain.conditions.toList pathLength + costPenalty))).toNat

structure MovePath where
  remainingDistance : Nat
  endLoc : Location
  /-- the first `length + 1` entries of `step_locs` -/
  stepLocs : List Location
  numOccupiedTiles : Nat
  cost : Nat

def MovePath.new (endLoc : Location) : MovePath where
  remainingDistance := 0
  endLoc := endLoc
  stepLocs := []
  numOccupiedTiles := 0
  cost := 0

def MovePath.isValid (path : MovePath) : Bool := !path.stepLocs.isEmpty

def MovePath.addStep (path : MovePath) (loc : Location) : Except Exception MovePath :=
  if path.stepLocs.length < 11 then
    .ok { path with stepLocs := path.stepLocs ++ [loc] }
  else
    .error (.outOfRange "array index out of bounds")

def offsets : Direction → Except Exception (Int8 × Int8)
  | .right => .ok (1, 0)
  | .up => .ok (0, -1)
  | .left => .ok (-1, 0)
  | .down => .ok (0, 1)
  | .undefined _ => .error (.logicError "invalid direction")

/-- The arguments that stay the same during a search. -/
structure Search where
  mapAndRules : MapAndRulesState
  chain : ActionChainWithConds
  maxAtkPoints : UInt8
  isFreeManeuverOrAerial : Bool
  isAerial : Bool

/-- What the search writes to. -/
structure SearchState where
  visitedMap : Vector UInt8 256
  path : Option MovePath

/-- Whether a tile is outside of the border of the map, or on it. -/
def Search.isOutside (search : Search) (x y : Int8) : Bool :=
  x < 1 ∨ (search.mapAndRules.map.width.toNat : Int) - 1 ≤ x.toInt ∨
    y < 1 ∨ (search.mapAndRules.map.height.toNat : Int) - 1 ≤ y.toInt

/-- What is done when the tiles beyond this one have been searched. -/
def leave (x y : Int8) (direction : Direction) (tileIsOccupied ret : Bool) (state : SearchState) :
    Except Exception (Bool × SearchState) :=
  match state.path, ret with
  | some path, true => do
      let path ← path.addStep ⟨x.toUInt8, y.toUInt8, direction⟩
      let path :=
        if tileIsOccupied then { path with numOccupiedTiles := path.numOccupiedTiles + 1 }
        else path
      return (true, { state with path := some path })
  | _, _ => return (ret, state)

structure CardShortStatus where
  loc : Location

structure RulerServer where
  handAndEquipStates : Vector (Option HandAndEquipState) 4
  mapAndRules : MapAndRulesState
  actionChainWithCondsForCardRef : UInt16 → Option ActionChainWithConds
  maxMoveDistanceForCardRef : UInt16 → UInt64
  shortStatusForCardRef : UInt16 → Option CardShortStatus
  cardRefIsAerialOrHasFreeManeuver : UInt16 → Bool
  cardRefIsAerial : UInt16 → Bool

structure MoveResult where
  visitedMap : Vector UInt8 256
  outPath : Option MovePath
  /-- not written without a path -/
  outCost : Option Nat

theorem Condition.apply_le_apply {cond : Condition}
    (hscale : cond.type = .scaleMvCost → 0 ≤ cond.value.toInt) {a b : Int} (hle : a ≤ b) :
    cond.apply a ≤ cond.apply b := by
  unfold apply
  cases htype : cond.type with
  | setMvCostTo0 => exact le_refl _
  | add1ToMvCost => exact Int.add_le_add_right hle 1
  | scaleMvCost => exact Int.mul_le_mul_of_nonneg_right hle (hscale htype)
  | other value => exact hle

theorem lengthAfter_mono {conditions : List Condition}
    (hscale : ∀ cond ∈ conditions, cond.type = .scaleMvCost → 0 ≤ cond.value.toInt)
    {a b : Int} (hle : a ≤ b) : lengthAfter conditions a ≤ lengthAfter conditions b := by
  induction conditions generalizing a b with
  | nil => exact hle
  | cons cond conditions ih =>
      apply ih
      · intro other hother
        exact hscale other (List.mem_cons_of_mem cond hother)
      · exact Condition.apply_le_apply (hscale cond List.mem_cons_self) hle

/-- With factors that are not negative, a longer path does not cost less. -/
theorem getPathCost_mono {chain : ActionChainWithConds}
    (hscale : ∀ cond ∈ chain.conditions.toList,
      cond.type = .scaleMvCost → 0 ≤ cond.value.toInt)
    {pathLength pathLength' penalty penalty' : Nat} (hlength : pathLength ≤ pathLength')
    (hpenalty : penalty ≤ penalty') :
    getPathCost chain pathLength penalty ≤ getPathCost chain pathLength' penalty' := by
  have hmono : lengthAfter chain.conditions.toList pathLength ≤
      lengthAfter chain.conditions.toList pathLength' :=
    lengthAfter_mono hscale (Int.ofNat_le.mpr hlength)
  unfold getPathCost
  omega

example : (99 : Int) ^ 9 * 9 < 2 ^ 63 := by decide

end HuntersGuild.MovementSearch
