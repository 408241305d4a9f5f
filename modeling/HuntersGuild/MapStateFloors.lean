import HuntersGuild.MapStates
import HuntersGuild.SuperMapLinks

/-!
Where the states of each floor are among all states, and which numbers the versions
have for them.
-/

namespace HuntersGuild.MapStateFloors

open HuntersGuild.Items (Version)
open HuntersGuild.MapStates
open HuntersGuild.Segments
open HuntersGuild.SuperMapLinks
open HuntersGuild.SuperMaps

/-! The floors of a game. -/

section

variable (maps : Pointer → SuperMap) (floorMapDefs : List (Option Pointer))

def mapOn (floor : Nat) : Option Pointer := (floorMapDefs[floor]?).join

/-- The number of entities of some kind on a floor. -/
def count (size : SuperMap → Nat) (floor : Nat) : Nat :=
  match mapOn floorMapDefs floor with
  | some map => size (maps map)
  | none => 0

/-- The number of entities of some kind on the floors before `n`. -/
def before (size : SuperMap → Nat) (n : Nat) : Nat := offset (count maps floorMapDefs size) n

/-- A number for each kind of entity, on the floors before `n`. -/
def basesBefore (objects enemies enemySets events : SuperMap → Nat) (n : Nat) : EntityBaseIndexes where
  baseObjectIndex := before maps floorMapDefs objects n
  baseEnemyIndex := before maps floorMapDefs enemies n
  baseEnemySetIndex := before maps floorMapDefs enemySets n
  baseEventIndex := before maps floorMapDefs events n

def versionBases (v : Version) (n : Nat) : EntityBaseIndexes :=
  if v ∈ allNonPatchVersions then
    basesBefore maps floorMapDefs (fun m => (m.version v).objects.length)
      (fun m => (m.version v).enemies.length) (fun m => (m.version v).enemySets.length)
      (fun m => (m.version v).events.length) n
  else
    .zero

def superBases (n : Nat) : EntityBaseIndexes :=
  basesBefore maps floorMapDefs (fun m => m.objects.length) (fun m => m.enemies.length)
    (fun m => m.enemySets.length) (fun m => m.events.length) n

/-- A floor knows where its states are if it is the first one or the floor before it
has a map. -/
def Continues (floor : Nat) : Prop := floor = 0 ∨ (mapOn floorMapDefs (floor - 1)).isSome = true

instance (floor : Nat) : Decidable (Continues floorMapDefs floor) := inferInstanceAs (Decidable (_ ∨ _))

def baseSuperIdsOn (floor : Nat) : EntityBaseIndexes :=
  if Continues floorMapDefs floor then superBases maps floorMapDefs floor else .zero

/-- What a floor is configured to. -/
def configOn (floor : Nat) : FloorConfig where
  superMap := mapOn floorMapDefs floor
  indexes := fun v => versionBases maps floorMapDefs v floor
  baseSuperIds := baseSuperIdsOn maps floorMapDefs floor

/-- A floor before it is reached. -/
def pendingOn (floor : Nat) : FloorConfig := { configOn maps floorMapDefs floor with superMap := none }

end

variable {maps : Pointer → SuperMap} {floorMapDefs : List (Option Pointer)} {n f j : Nat}
  {m : Pointer} {size : SuperMap → Nat} {v : Version}

theorem count_of_map (h : mapOn floorMapDefs f = some m) :
    count maps floorMapDefs size f = size (maps m) := by
  rw [count, h]

theorem count_of_none (h : mapOn floorMapDefs f = none) : count maps floorMapDefs size f = 0 := by
  rw [count, h]

theorem before_succ : before maps floorMapDefs size (n + 1) =
    before maps floorMapDefs size n + count maps floorMapDefs size n := rfl

theorem pendingOn_zero : pendingOn maps floorMapDefs 0 = .empty := by
  have hbases (v : Version) : versionBases maps floorMapDefs v 0 = .zero := by
    rw [versionBases]
    exact ite_self _
  have hsuper : baseSuperIdsOn maps floorMapDefs 0 = .zero := if_pos (.inl rfl)
  rw [pendingOn, configOn, hsuper, FloorConfig.empty]
  congr
  funext v
  exact hbases v

/-- The numbers after a floor, given where the lists of states end. -/
theorem nextFloorConfig_configOn {ms : MapState}
    (hobjects : ms.objectStates.length = (superBases maps floorMapDefs (n + 1)).baseObjectIndex)
    (henemies : ms.enemyStates.length = (superBases maps floorMapDefs (n + 1)).baseEnemyIndex)
    (hsets : ms.enemySetStates.length = (superBases maps floorMapDefs (n + 1)).baseEnemySetIndex)
    (hevents : ms.eventStates.length = (superBases maps floorMapDefs (n + 1)).baseEventIndex) :
    nextFloorConfig maps (configOn maps floorMapDefs n) .empty ms =
      pendingOn maps floorMapDefs (n + 1) := by
  have hmap : (configOn maps floorMapDefs n).superMap = mapOn floorMapDefs n := rfl
  have hpending : pendingOn maps floorMapDefs (n + 1) = ⟨none,
      fun v => versionBases maps floorMapDefs v (n + 1), baseSuperIdsOn maps floorMapDefs (n + 1)⟩ := rfl
  rw [nextFloorConfig, hmap, hpending]
  cases hfloor : mapOn floorMapDefs n with
  | none =>
      have hsuper : baseSuperIdsOn maps floorMapDefs (n + 1) = .zero := by
        refine if_neg ?_
        rintro (hzero | hsome)
        · exact absurd hzero (Nat.succ_ne_zero n)
        · rw [Nat.add_sub_cancel, hfloor] at hsome
          cases hsome
      have hbases (v : Version) : (if v ∈ allNonPatchVersions then (configOn maps floorMapDefs n).indexes v
          else FloorConfig.empty.indexes v) = versionBases maps floorMapDefs v (n + 1) := by
        change (if v ∈ allNonPatchVersions then versionBases maps floorMapDefs v n else .zero) = _
        rw [versionBases, versionBases]
        split_ifs
        · simp only [basesBefore, before_succ, count_of_none hfloor, Nat.add_zero]
        · rfl
      rw [hsuper]
      simp only [hbases]
      rfl
  | some map =>
      have hsuper : baseSuperIdsOn maps floorMapDefs (n + 1) = superBases maps floorMapDefs (n + 1) := by
        refine if_pos (.inr ?_)
        rw [Nat.add_sub_cancel, hfloor]
        rfl
      have hbases (v : Version) : (if v ∈ allNonPatchVersions then
          baseIndexesAfter maps (configOn maps floorMapDefs n) map v
          else FloorConfig.empty.indexes v) = versionBases maps floorMapDefs v (n + 1) := by
        rw [versionBases]
        split_ifs with hv
        · have hnow : (configOn maps floorMapDefs n).baseIndexesForVersion v =
              versionBases maps floorMapDefs v n := rfl
          rw [baseIndexesAfter, hnow, versionBases, if_pos hv]
          simp only [basesBefore, before_succ, count_of_map hfloor]
        · rfl
      rw [hsuper]
      simp only [hobjects, henemies, hsets, hevents, hbases]
      rfl

/-! Where the states are. -/

/-- The states of the floors before `n`, and of the first `j` entities of floor `n`,
are in their places. -/
structure Placed {σ : Type} (maps : Pointer → SuperMap) (floorMapDefs : List (Option Pointer))
    (size : SuperMap → Nat) (is : Nat → EntityRef → σ → Prop) (n j : Nat) (states : List σ) : Prop where
  length : states.length = before maps floorMapDefs size n + j
  floors : ∀ f < n, ∀ m, mapOn floorMapDefs f = some m → ∀ p < size (maps m),
    ∃ st, states[before maps floorMapDefs size f + p]? = some st ∧ is f ⟨m, p⟩ st
  current : ∀ m, mapOn floorMapDefs n = some m → ∀ p < j,
    ∃ st, states[before maps floorMapDefs size n + p]? = some st ∧ is n ⟨m, p⟩ st

section

variable {σ : Type} {is : Nat → EntityRef → σ → Prop} {states : List σ}

theorem placed_nil : Placed maps floorMapDefs size is 0 0 [] :=
  ⟨rfl, fun _ hf => absurd hf (Nat.not_lt_zero _), fun _ _ _ hp => absurd hp (Nat.not_lt_zero _)⟩

theorem getElem?_append_of_some {i : Nat} {st new : σ} (h : states[i]? = some st) :
    (states ++ [new])[i]? = some st := by
  rw [List.getElem?_append_left (List.getElem?_eq_some_iff.mp h).1, h]

theorem Placed.push (h : Placed maps floorMapDefs size is n j states)
    (hmap : mapOn floorMapDefs n = some m) {st : σ} (hst : is n ⟨m, j⟩ st) :
    Placed maps floorMapDefs size is n (j + 1) (states ++ [st]) := by
  refine ⟨?_, ?_, ?_⟩
  · rw [List.length_append, h.length]
    rfl
  · intro f hf m' hm' p hp
    obtain ⟨st', hst', his⟩ := h.floors f hf m' hm' p hp
    exact ⟨st', getElem?_append_of_some hst', his⟩
  · intro m' hm' p hp
    rcases Nat.lt_succ_iff_lt_or_eq.mp hp with hlt | rfl
    · obtain ⟨st', hst', his⟩ := h.current m' hm' p hlt
      exact ⟨st', getElem?_append_of_some hst', his⟩
    · obtain rfl : m = m' := Option.some.inj (hmap.symm.trans hm')
      refine ⟨st, ?_, hst⟩
      rw [← h.length, List.getElem?_append_right (Nat.le_refl _), Nat.sub_self]
      rfl

/-- The floor is done. -/
theorem Placed.next (h : Placed maps floorMapDefs size is n j states)
    (hj : j = count maps floorMapDefs size n) : Placed maps floorMapDefs size is (n + 1) 0 states := by
  refine ⟨?_, ?_, fun _ _ _ hp => absurd hp (Nat.not_lt_zero _)⟩
  · rw [h.length, hj, before_succ, Nat.add_zero]
  · intro f hf m' hm' p hp
    rcases Nat.lt_succ_iff_lt_or_eq.mp hf with hlt | rfl
    · exact h.floors f hlt m' hm' p hp
    · refine h.current m' hm' p ?_
      rw [hj, count_of_map hm']
      exact hp

/-- Every state belongs to an entity of a floor. -/
theorem Placed.exists_floor (h : Placed maps floorMapDefs size is n 0 states) {k : Nat} {st : σ}
    (hst : states[k]? = some st) : ∃ f < n, ∃ m, mapOn floorMapDefs f = some m ∧
      ∃ p < size (maps m), k = before maps floorMapDefs size f + p ∧ is f ⟨m, p⟩ st := by
  have hk := (List.getElem?_eq_some_iff.mp hst).1
  rw [h.length, Nat.add_zero] at hk
  obtain ⟨f, hf, hle, hlt⟩ := exists_segment hk
  cases hmap : mapOn floorMapDefs f with
  | none =>
      rw [count_of_none hmap] at hlt
      omega
  | some m =>
      rw [count_of_map hmap] at hlt
      have hp : k - before maps floorMapDefs size f < size (maps m) := Nat.sub_lt_left_of_lt_add hle hlt
      obtain ⟨st', hst', his⟩ := h.floors f hf m hmap _ hp
      have hsum : before maps floorMapDefs size f + (k - before maps floorMapDefs size f) = k :=
        Nat.add_sub_cancel' hle
      rw [hsum, hst] at hst'
      obtain rfl := Option.some.inj hst'
      exact ⟨f, hf, m, hmap, _, hp, hsum.symm, his⟩

end

end HuntersGuild.MapStateFloors
