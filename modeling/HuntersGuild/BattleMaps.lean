import HuntersGuild.ByteStreams

/-!
The maps of card battles.
-/

namespace HuntersGuild.BattleMaps

open HuntersGuild.ByteStreams

inductive Direction where
  | right
  | up
  | left
  | down
  /-- a value that is not of the enumeration -/
  | undefined (value : UInt8)
deriving DecidableEq

def Direction.ofValue (value : UInt8) : Direction :=
  if value = 0 then .right
  else if value = 1 then .up
  else if value = 2 then .left
  else if value = 3 then .down
  else .undefined value

structure Location where
  x : UInt8
  y : UInt8
  direction : Direction
deriving DecidableEq

structure MapState where
  width : UInt16
  height : UInt16
  tiles : Vector (Vector UInt8 16) 16

structure MapAndRulesState where
  map : MapState
  /-- four bits for each client -/
  startFacingDirections : UInt16

/-- An entry of a fixed array, whose accesses are checked. -/
def entry {α : Type} {n : Nat} (items : Vector α n) (index : Nat) : Except Exception α :=
  match items[index]? with
  | some item => .ok item
  | none => .error (.outOfRange "array index out of bounds")

def MapAndRulesState.locIsWithinBounds (self : MapAndRulesState) (x y : UInt8) : Bool :=
  x.toNat < self.map.width.toNat ∧ y.toNat < self.map.height.toNat

def MapAndRulesState.tileIsVacant (self : MapAndRulesState) (x y : UInt8) :
    Except Exception Bool := do
  if !self.locIsWithinBounds x y then
    return false
  else
    return (← entry (← entry self.map.tiles y.toNat) x.toNat) = 1

theorem entry_eq_ok {α : Type} {n : Nat} {items : Vector α n} {index : Nat} {item : α}
    (h : entry items index = .ok item) : index < n := by
  unfold entry at h
  split at h
  · rename_i heq
    exact (Vector.getElem?_eq_some_iff.mp heq).1
  · cases h

/-- A vacant tile is one of the map, of which only sixteen rows and columns are
stored. -/
theorem MapAndRulesState.bounds_of_tileIsVacant {state : MapAndRulesState} {x y : UInt8}
    (h : state.tileIsVacant x y = .ok true) :
    x.toNat < state.map.width.toNat ∧ y.toNat < state.map.height.toNat ∧
      x.toNat < 16 ∧ y.toNat < 16 := by
  unfold tileIsVacant at h
  by_cases hbounds : state.locIsWithinBounds x y = true
  · have hwithin : x.toNat < state.map.width.toNat ∧ y.toNat < state.map.height.toNat :=
      of_decide_eq_true hbounds
    simp only [hbounds, Bool.not_true, Bool.false_eq_true, if_false] at h
    cases hrow : entry state.map.tiles y.toNat with
    | error e => simp [hrow] at h
    | ok row =>
        cases htile : entry row x.toNat with
        | error e => simp [hrow, htile] at h
        | ok tile => exact ⟨hwithin.1, hwithin.2, entry_eq_ok htile, entry_eq_ok hrow⟩
  · simp [hbounds] at h

end HuntersGuild.BattleMaps
