import HuntersGuild.HeadCounts
import HuntersGuild.MapStateFloors

/-!
Which states of enemies are in a map state, and where those of each floor begin.
-/

namespace HuntersGuild.MapStateEnemies

open HuntersGuild.CheckedLoops
open HuntersGuild.ExceptionRules
open HuntersGuild.HeadCounts
open HuntersGuild.Items (Version)
open HuntersGuild.MapStateFloors
open HuntersGuild.MapStates
open HuntersGuild.SuperMapLinks
open HuntersGuild.SuperMaps

variable {maps : Pointer → SuperMap}

/-! What indexing adds. -/

theorem superEne_of_roll {ms : MapState} {fc : FloorConfig} {ene : Enemy} {type : EnemyType}
    {roll roll' : RareRoll} {v : Version}
    (h : rollForVersion maps ms fc ene type roll v = .ok roll') :
    roll'.state.superEne = roll.state.superEne := by
  dsimp only [rollForVersion] at h
  split_ifs at h
  case neg =>
    -- the flag of a child is that of its parent
    obtain ⟨parent, -, h⟩ := bind_eq_ok.mp h
    obtain ⟨superEne, -, h⟩ := bind_eq_ok.mp h
    split at h <;> exact Except.ok.inj h ▸ rfl
  all_goals exact Except.ok.inj h ▸ rfl

theorem superEne_of_rolls {ms : MapState} {fc : FloorConfig} {ene : Enemy} {type : EnemyType}
    {roll roll' : RareRoll} {versions : List Version}
    (h : versions.foldlM (rollForVersion maps ms fc ene type) roll = .ok roll') :
    roll'.state.superEne = roll.state.superEne := by
  induction versions generalizing roll with
  | nil => exact Except.ok.inj h ▸ rfl
  | cons v versions ih =>
      rw [List.foldlM_cons] at h
      obtain ⟨next, hnext, h⟩ := bind_eq_ok.mp h
      exact (ih h).trans (superEne_of_roll hnext)

/-- Whether an entity is the head of a set. -/
def isHead (maps : Pointer → SuperMap) (ref : EntityRef) : Bool := isHeadAt (maps ref.map) ref.position

/-- The map state has states for these enemies, in this order, and a place in the list
of sets for each head. -/
structure Filled (maps : Pointer → SuperMap) (refs : List EntityRef) (ms : MapState) : Prop where
  enemies : ms.enemyStates.map (·.superEne) = refs
  sets : ms.enemySetStates.length = refs.countP (isHead maps)

/-- Nothing but states has been added. -/
structure SameFloors (ms ms' : MapState) : Prop where
  numFloors : ms'.numFloors = ms.numFloors
  entries : ms'.floorConfigEntries = ms.floorConfigEntries

theorem indexEnemy_spec {map : Pointer} {fc : FloorConfig} {ms ms' : MapState} {ene : Enemy}
    {position : Pointer} {refs : List EntityRef} (hfilled : Filled maps refs ms)
    (hene : (maps map).enemies[position]? = some ene)
    (h : indexEnemy maps map fc ms (ene, position) = .ok ms') :
    Filled maps (refs ++ [⟨map, position⟩]) ms' ∧ SameFloors ms ms' := by
  dsimp only [indexEnemy] at h
  obtain ⟨target, -, h⟩ := bind_eq_ok.mp h
  obtain ⟨area, -, h⟩ := bind_eq_ok.mp h
  obtain ⟨roll, hroll, h⟩ := bind_eq_ok.mp h
  have hroll := superEne_of_rolls hroll
  have hhead : isHead maps ⟨map, position⟩ = decide (ene.childIndex = 0) := isHeadAt_of_some hene
  obtain rfl := Except.ok.inj h
  by_cases hzero : ene.childIndex = 0
  · simp only [if_pos hzero]
    refine ⟨⟨?_, ?_⟩, rfl, rfl⟩
    · simp [hfilled.enemies, hroll]
    · simp [hfilled.sets, hhead, hzero]
  · simp only [if_neg hzero]
    refine ⟨⟨?_, ?_⟩, rfl, rfl⟩
    · simp [hfilled.enemies, hroll]
    · simp [hfilled.sets, hhead, hzero]

theorem SameFloors.refl (ms : MapState) : SameFloors ms ms := ⟨rfl, rfl⟩

theorem SameFloors.trans {ms ms' ms'' : MapState} (h : SameFloors ms ms') (h' : SameFloors ms' ms'') :
    SameFloors ms ms'' :=
  ⟨h'.numFloors.trans h.numFloors, h'.entries.trans h.entries⟩

/-- Neither enemies nor floors are changed. -/
structure SameEnemies (ms ms' : MapState) : Prop extends SameFloors ms ms' where
  enemyStates : ms'.enemyStates = ms.enemyStates
  enemySetStates : ms'.enemySetStates = ms.enemySetStates

theorem SameEnemies.filled {refs : List EntityRef} {ms ms' : MapState} (h : SameEnemies ms ms')
    (hfilled : Filled maps refs ms) : Filled maps refs ms' := by
  constructor
  · rw [h.enemyStates]
    exact hfilled.enemies
  · rw [h.enemySetStates]
    exact hfilled.sets

theorem sameEnemies_foldl {f : MapState → Pointer → MapState}
    (hf : ∀ ms position, SameEnemies ms (f ms position)) (positions : List Pointer) (ms : MapState) :
    SameEnemies ms (positions.foldl f ms) := by
  induction positions generalizing ms with
  | nil => exact ⟨.refl ms, rfl, rfl⟩
  | cons position positions ih =>
      have hhead := hf ms position
      have htail := ih (f ms position)
      exact ⟨hhead.toSameFloors.trans htail.toSameFloors, htail.enemyStates.trans hhead.enemyStates,
        htail.enemySetStates.trans hhead.enemySetStates⟩

/-- The enemies of a map. -/
def refsOf (maps : Pointer → SuperMap) (map : Pointer) : List EntityRef :=
  (List.range (maps map).enemies.length).map (⟨map, ·⟩)

theorem mem_refsOf {map : Pointer} {ref : EntityRef} :
    ref ∈ refsOf maps map ↔ ref.map = map ∧ ref.position < (maps map).enemies.length := by
  rw [refsOf, List.mem_map]
  constructor
  · rintro ⟨position, hposition, rfl⟩
    exact ⟨rfl, List.mem_range.mp hposition⟩
  · rintro ⟨rfl, hposition⟩
    exact ⟨ref.position, List.mem_range.mpr hposition, rfl⟩

theorem indexSuperMap_spec {map : Pointer} {fc : FloorConfig} {ms ms' : MapState}
    {refs : List EntityRef} (hmap : fc.superMap = some map) (hfilled : Filled maps refs ms)
    (h : indexSuperMap maps fc ms = .ok ms') :
    Filled maps (refs ++ refsOf maps map) ms' ∧ SameFloors ms ms' := by
  unfold indexSuperMap at h
  rw [hmap] at h
  simp only at h
  split at h
  · cases h
  · obtain ⟨done, hloop, h⟩ := bind_eq_ok.mp h
    obtain rfl := Except.ok.inj h
    have hobjects := sameEnemies_foldl (f := indexObject map) (fun _ _ => ⟨⟨rfl, rfl⟩, rfl, rfl⟩)
      (List.range (maps map).objects.length) ms
    let I (i : Nat) (s : MapState) : Prop :=
      Filled maps (refs ++ (List.range i).map (⟨map, ·⟩)) s ∧ SameFloors ms s
    have hspec := foldlM_spec (f := indexEnemy maps map fc) I (P := fun _ _ => True) ?_ ?_ hloop
    · obtain ⟨⟨hdone, hsame⟩, -⟩ := hspec
      rw [List.length_zipIdx] at hdone
      have hevents := sameEnemies_foldl (f := indexEvent map) (fun _ _ => ⟨⟨rfl, rfl⟩, rfl, rfl⟩)
        (List.range (maps map).events.length) done
      exact ⟨hevents.filled hdone, hsame.trans hevents.toSameFloors⟩
    · rintro i ⟨ene, position⟩ s s' hi ⟨hs, hsame⟩ hstep
      obtain ⟨hene, hposition⟩ := getElem?_zipIdx_eq_some.mp hi
      change (maps map).enemies[i]? = some ene at hene
      change position = i at hposition
      subst hposition
      obtain ⟨hnext, hfloors⟩ := indexEnemy_spec hs hene hstep
      refine ⟨⟨?_, hsame.trans hfloors⟩, trivial⟩
      rw [List.range_succ, List.map_append, ← List.append_assoc]
      exact hnext
    · refine ⟨?_, hobjects.toSameFloors⟩
      rw [List.range_zero, List.map_nil, List.append_nil]
      exact hobjects.filled hfilled

/-! Floor after floor. -/

section

variable {floorMapDefs : List (Option Pointer)} {n : Nat}

/-- The enemies of a floor. -/
def refsOn (maps : Pointer → SuperMap) (floorMapDefs : List (Option Pointer)) (floor : Nat) :
    List EntityRef :=
  match mapOn floorMapDefs floor with
  | some map => refsOf maps map
  | none => []

def refsBefore (maps : Pointer → SuperMap) (floorMapDefs : List (Option Pointer)) (n : Nat) :
    List EntityRef :=
  (List.range n).flatMap (refsOn maps floorMapDefs)

theorem refsBefore_succ : refsBefore maps floorMapDefs (n + 1) =
    refsBefore maps floorMapDefs n ++ refsOn maps floorMapDefs n := by
  rw [refsBefore, List.range_succ, List.flatMap_append, List.flatMap_singleton, refsBefore]

theorem mem_refsBefore {ref : EntityRef} : ref ∈ refsBefore maps floorMapDefs n ↔
    ∃ f < n, mapOn floorMapDefs f = some ref.map ∧ ref.position < (maps ref.map).enemies.length := by
  rw [refsBefore, List.mem_flatMap]
  constructor
  · rintro ⟨f, hf, href⟩
    refine ⟨f, List.mem_range.mp hf, ?_⟩
    rw [refsOn] at href
    split at href
    · obtain ⟨rfl, hposition⟩ := mem_refsOf.mp href
      exact ⟨‹_›, hposition⟩
    · cases href
  · rintro ⟨f, hf, hmap, hposition⟩
    refine ⟨f, List.mem_range.mpr hf, ?_⟩
    rw [refsOn, hmap]
    exact mem_refsOf.mpr ⟨rfl, hposition⟩

/-- Where the states of a floor begin, and the sets among them. -/
structure Based (maps : Pointer → SuperMap) (refs : List EntityRef) (fc : FloorConfig) : Prop where
  le : fc.baseSuperIds.baseEnemyIndex ≤ refs.length
  sets : fc.baseSuperIds.baseEnemySetIndex =
    headsAmong (isHead maps) refs fc.baseSuperIds.baseEnemyIndex

theorem Based.append {refs : List EntityRef} {fc : FloorConfig} (h : Based maps refs fc)
    (more : List EntityRef) : Based maps (refs ++ more) fc := by
  constructor
  · rw [List.length_append]
    exact Nat.le_trans h.le (Nat.le_add_right _ _)
  · rw [headsAmong_append_left h.le]
    exact h.sets

theorem based_of_zero {refs : List EntityRef} {fc : FloorConfig} (h : fc.baseSuperIds = .zero) :
    Based maps refs fc := by
  constructor <;> rw [h]
  · exact Nat.zero_le _
  · rfl

/-- The floors before `n` are done. -/
structure FloorsDone (maps : Pointer → SuperMap) (floorMapDefs : List (Option Pointer)) (n : Nat)
    (ms : MapState) : Prop where
  filled : Filled maps (refsBefore maps floorMapDefs n) ms
  numFloors : ms.numFloors = 0x12
  superMap : ∀ f < n, (ms.floorConfigEntries f).superMap = mapOn floorMapDefs f
  based : ∀ f, Based maps (refsBefore maps floorMapDefs n) (ms.floorConfigEntries f)
  pending : ∀ f > n, (ms.floorConfigEntries f).baseSuperIds = .zero

theorem indexFloor_spec {fc : FloorConfig} {ms ms' : MapState}
    (h : (if fc.superMap.isSome then indexSuperMap maps fc ms else pure ms) = .ok ms')
    (hmap : fc.superMap = mapOn floorMapDefs n)
    (hfilled : Filled maps (refsBefore maps floorMapDefs n) ms) :
    Filled maps (refsBefore maps floorMapDefs (n + 1)) ms' ∧ SameFloors ms ms' := by
  rw [refsBefore_succ, refsOn, ← hmap]
  cases hfc : fc.superMap with
  | none =>
      rw [hfc] at h
      obtain rfl := Except.ok.inj h
      rw [List.append_nil]
      exact ⟨hfilled, .refl ms⟩
  | some map =>
      rw [hfc] at h
      exact indexSuperMap_spec hfc hfilled h

theorem Filled.length {refs : List EntityRef} {ms : MapState} (h : Filled maps refs ms) :
    ms.enemyStates.length = refs.length := by
  rw [← h.enemies, List.length_map]

/-- A floor begins where the states made so far end. -/
theorem based_nextFloorConfig {fc next : FloorConfig} {ms : MapState} {refs : List EntityRef}
    (hfilled : Filled maps refs ms) (hnext : next.baseSuperIds = .zero) :
    Based maps refs (nextFloorConfig maps fc next ms) := by
  cases hmap : fc.superMap with
  | none =>
      apply based_of_zero
      rw [nextFloorConfig, hmap]
      exact hnext
  | some map =>
      rw [nextFloorConfig, hmap]
      constructor
      · exact Nat.le_of_eq hfilled.length
      · simp only [hfilled.length, headsAmong_length]
        exact hfilled.sets

theorem addFloor_spec {ms ms' : MapState} (hdone : FloorsDone maps floorMapDefs n ms)
    (h : addFloor maps floorMapDefs ms n = .ok ms') : FloorsDone maps floorMapDefs (n + 1) ms' := by
  obtain ⟨indexed, hindexed, h⟩ := bind_eq_ok.mp h
  obtain ⟨hfilled, hfloors, hentries⟩ :=
    indexFloor_spec hindexed rfl ⟨hdone.filled.enemies, hdone.filled.sets⟩
  have hsuperMap : ∀ f < n + 1,
      (indexed.floorConfigEntries f).superMap = mapOn floorMapDefs f := by
    intro f hf
    rw [hentries]
    rcases Nat.lt_succ_iff_lt_or_eq.mp hf with hlt | rfl
    · simp only [Function.update_of_ne (Nat.ne_of_lt hlt)]
      exact hdone.superMap f hlt
    · simp only [Function.update_self]
      rfl
  have hbased : ∀ f, Based maps (refsBefore maps floorMapDefs (n + 1)) (indexed.floorConfigEntries f) := by
    intro f
    rw [refsBefore_succ]
    have hf := (hdone.based f).append (refsOn maps floorMapDefs n)
    rw [hentries]
    by_cases hn : f = n
    · subst hn
      simp only [Function.update_self]
      exact ⟨hf.le, hf.sets⟩
    · simp only [Function.update_of_ne hn]
      exact hf
  have hpending : ∀ f > n, (indexed.floorConfigEntries f).baseSuperIds = .zero := by
    intro f hf
    rw [hentries]
    simp only [Function.update_of_ne (Nat.ne_of_gt hf)]
    exact hdone.pending f hf
  split at h
  · obtain rfl := Except.ok.inj h
    refine ⟨⟨hfilled.enemies, hfilled.sets⟩, hfloors.trans hdone.numFloors, ?_, ?_, ?_⟩
    · intro f hf
      simp only [Function.update_of_ne (Nat.ne_of_lt hf)]
      exact hsuperMap f hf
    · intro f
      by_cases hn : f = n + 1
      · subst hn
        simp only [Function.update_self]
        exact based_nextFloorConfig hfilled (hpending (n + 1) (Nat.lt_succ_self n))
      · simp only [Function.update_of_ne hn]
        exact hbased f
    · intro f hf
      simp only [Function.update_of_ne (Nat.ne_of_gt hf)]
      exact hpending f (Nat.lt_of_succ_lt hf)
  · obtain rfl := Except.ok.inj h
    exact ⟨hfilled, hfloors.trans hdone.numFloors, hsuperMap, hbased,
      fun f hf => hpending f (Nat.lt_of_succ_lt hf)⟩

end

/-! What the checks of a map state add. -/

/-- A super map as it is made, whose own checks pass. -/
structure Valid (m : SuperMap) : Prop where
  linked : Linked m
  verified : m.verify = .ok ⟨⟩

theorem Valid.sound {m : SuperMap} (h : Valid m) : Sound m := sound_of_verify h.linked h.verified

/-- What holds of the states of enemies in every map state, which belong to the
enemies `refs`. -/
structure Built (maps : Pointer → SuperMap) (ms : MapState) (refs : List EntityRef) : Prop where
  enemies : ms.enemyStates.map (·.superEne) = refs
  numbered : ∀ (k : Nat) (st : EnemyState), ms.enemyStates[k]? = some st → st.eId = k ∧
    ∃ ene, (maps st.superEne.map).enemies[st.superEne.position]? = some ene ∧
      (ms.floorConfig ene.floor).superMap = some st.superEne.map ∧
        (ms.floorConfig ene.floor).baseSuperIds.baseEnemyIndex + st.superEne.position = k
  complete : ∀ floor m, (ms.floorConfig floor).superMap = some m →
    ∀ p < (maps m).enemies.length,
      refs[(ms.floorConfig floor).baseSuperIds.baseEnemyIndex + p]? = some ⟨m, p⟩
  based : ∀ floor m, (ms.floorConfig floor).superMap = some m →
    Based maps refs (ms.floorConfig floor)
  sound : ∀ floor m, (ms.floorConfig floor).superMap = some m → Sound (maps m)

theorem verifyEnemyState_spec {ms : MapState} {st : EnemyState} {k : Nat}
    (h : verifyEnemyState maps ms (st, k) = .ok ⟨⟩) :
    st.eId = k ∧ ∃ ene, (maps st.superEne.map).enemies[st.superEne.position]? = some ene ∧
      (ms.floorConfig ene.floor).baseSuperIds.baseEnemyIndex + ene.superId = k := by
  rw [verifyEnemyState, bind_check_eq_ok_iff] at h
  obtain ⟨hid, h⟩ := h
  obtain ⟨ene, hene, h⟩ := bind_eq_ok.mp h
  exact ⟨of_decide_eq_true hid, ene, deref_eq_ok_iff.mp hene,
    of_decide_eq_true (check_eq_ok_iff.mp h)⟩

theorem enemyStates_of_verify {ms : MapState} (h : verify maps ms = .ok ⟨⟩) :
    ∀ (k : Nat) (st : EnemyState), ms.enemyStates[k]? = some st →
      verifyEnemyState maps ms (st, k) = .ok ⟨⟩ := by
  obtain ⟨⟨⟩, -, h⟩ := bind_eq_ok.mp h
  obtain ⟨⟨⟩, -, h⟩ := bind_eq_ok.mp h
  obtain ⟨⟨⟩, -, h⟩ := bind_eq_ok.mp h
  obtain ⟨⟨⟩, -, h⟩ := bind_eq_ok.mp h
  obtain ⟨⟨⟩, -, h⟩ := bind_eq_ok.mp h
  obtain ⟨⟨⟩, -, h⟩ := bind_eq_ok.mp h
  obtain ⟨⟨⟩, henemies, -⟩ := bind_eq_ok.mp h
  intro k st hst
  exact forM_eq_ok_iff.mp henemies (st, k)
    (List.mem_of_getElem? (getElem?_zipIdx_eq_some.mpr ⟨hst, rfl⟩))

theorem built_of_verify {ms : MapState} {refs : List EntityRef} (hfilled : Filled maps refs ms)
    (hverify : verify maps ms = .ok ⟨⟩)
    (hhome : ∀ ref ∈ refs, ∀ ene, (maps ref.map).enemies[ref.position]? = some ene →
      (ms.floorConfig ene.floor).superMap = some ref.map)
    (hcomplete : ∀ floor m, (ms.floorConfig floor).superMap = some m →
      ∀ p ene, (maps m).enemies[p]? = some ene →
        (⟨m, p⟩ : EntityRef) ∈ refs ∧ ms.floorConfig ene.floor = ms.floorConfig floor)
    (hbased : ∀ floor, Based maps refs (ms.floorConfig floor))
    (hvalid : ∀ floor m, (ms.floorConfig floor).superMap = some m → Valid (maps m)) :
    Built maps ms refs := by
  have hnumbered : ∀ (k : Nat) (st : EnemyState), ms.enemyStates[k]? = some st → st.eId = k ∧
      ∃ ene, (maps st.superEne.map).enemies[st.superEne.position]? = some ene ∧
        (ms.floorConfig ene.floor).superMap = some st.superEne.map ∧
          (ms.floorConfig ene.floor).baseSuperIds.baseEnemyIndex + st.superEne.position = k := by
    intro k st hst
    obtain ⟨hid, ene, hene, hplace⟩ := verifyEnemyState_spec (enemyStates_of_verify hverify k st hst)
    have hmem : st.superEne ∈ refs := by
      rw [← hfilled.enemies]
      exact List.mem_map_of_mem (List.mem_of_getElem? hst)
    have hmap := hhome st.superEne hmem ene hene
    have hsuper := ((hvalid ene.floor st.superEne.map hmap).sound.enemyIds _ ene hene).superId
    exact ⟨hid, ene, hene, hmap, hsuper ▸ hplace⟩
  refine ⟨hfilled.enemies, hnumbered, ?_, fun floor _ _ => hbased floor,
    fun floor m hmap => (hvalid floor m hmap).sound⟩
  intro floor m hmap p hp
  obtain ⟨ene, hene⟩ := exists_getElem? hp
  obtain ⟨hmem, hfloor⟩ := hcomplete floor m hmap p ene hene
  rw [← hfilled.enemies] at hmem ⊢
  obtain ⟨st, hst, hsuper⟩ := List.mem_map.mp hmem
  obtain ⟨k, hk⟩ := List.mem_iff_getElem?.mp hst
  obtain ⟨-, ene', hene', -, hplace⟩ := hnumbered k st hk
  rw [hsuper] at hene' hplace
  obtain rfl : ene = ene' := Option.some.inj (hene.symm.trans hene')
  rw [hfloor] at hplace
  rw [hplace, List.getElem?_map, hk, ← hsuper]
  rfl

/-! The two constructors. -/

/-- The maps of the floors are valid, and their enemies are on these floors. -/
structure ValidFloors (maps : Pointer → SuperMap) (floorMapDefs : List (Option Pointer)) : Prop where
  valid : ∀ f < 0x12, ∀ m, mapOn floorMapDefs f = some m → Valid (maps m)
  home : ∀ f < 0x12, ∀ m, mapOn floorMapDefs f = some m →
    ∀ ene ∈ (maps m).enemies, ene.floor.toNat = f

/-- A map state over valid super maps. -/
inductive Made (maps : Pointer → SuperMap) (ms : MapState) : Prop
  | freePlay {difficulty : Difficulty} {event : UInt8} {randomSeed : UInt32}
      {bbRareRates : RareEnemyRates} {randCrypt : RandomGenerator}
      {floorMapDefs : List (Option Pointer)} (hvalid : ValidFloors maps floorMapDefs)
      (h : makeMapState maps difficulty event randomSeed bbRareRates randCrypt floorMapDefs = .ok ms)
  | quest {difficulty : Difficulty} {event : UInt8} {randomSeed : UInt32}
      {bbRareRates : RareEnemyRates} {randCrypt : RandomGenerator} {questMapDef : Pointer}
      (hvalid : Valid (maps questMapDef))
      (h : makeQuestMapState maps difficulty event randomSeed bbRareRates randCrypt questMapDef =
        .ok ms)

theorem Filled.computeDynamic {refs : List EntityRef} {ms : MapState} (h : Filled maps refs ms) :
    Filled maps refs (computeDynamicObjectBaseIndexes maps ms) := ⟨h.enemies, h.sets⟩

theorem floorsDone_of_addFloors {floorMapDefs : List (Option Pointer)} {ms ms' : MapState}
    (hempty : FloorsDone maps floorMapDefs 0 ms)
    (h : (List.range ms.numFloors).foldlM (addFloor maps floorMapDefs) ms = .ok ms') :
    FloorsDone maps floorMapDefs 0x12 ms' := by
  have hspec := foldlM_spec (f := addFloor maps floorMapDefs) (FloorsDone maps floorMapDefs)
    (P := fun _ _ => True) ?_ hempty h
  · rw [List.length_range, hempty.numFloors] at hspec
    exact hspec.1
  · intro i floor s s' hi hs hstep
    obtain ⟨hlt, rfl⟩ := List.getElem?_eq_some_iff.mp hi
    rw [List.getElem_range] at hstep
    exact ⟨addFloor_spec hs hstep, trivial⟩

theorem built_of_floorsDone {floorMapDefs : List (Option Pointer)} {ms : MapState}
    (hvalid : ValidFloors maps floorMapDefs) (hdone : FloorsDone maps floorMapDefs 0x12 ms)
    (hverify : verify maps (computeDynamicObjectBaseIndexes maps ms) = .ok ⟨⟩) :
    Built maps (computeDynamicObjectBaseIndexes maps ms) (refsBefore maps floorMapDefs 0x12) := by
  have hconfig : ∀ floor : UInt8, (computeDynamicObjectBaseIndexes maps ms).floorConfig floor =
      ms.floorConfigEntries (min floor.toNat 0x11) := by
    intro floor
    have hfloors := hdone.numFloors
    change ms.floorConfigEntries (min floor.toNat (ms.numFloors - 1)) = _
    rw [hfloors]
  have hhome : ∀ f < 0x12, ∀ m, mapOn floorMapDefs f = some m → ∀ (p : Nat) (ene : Enemy),
      (maps m).enemies[p]? = some ene →
        (computeDynamicObjectBaseIndexes maps ms).floorConfig ene.floor = ms.floorConfigEntries f := by
    intro f hf m hmap p ene hene
    rw [hconfig, hvalid.home f hf m hmap ene (List.mem_of_getElem? hene),
      Nat.min_eq_left (Nat.le_of_lt_succ hf)]
  have hmapOn : ∀ floor m,
      ((computeDynamicObjectBaseIndexes maps ms).floorConfig floor).superMap = some m →
        mapOn floorMapDefs (min floor.toNat 0x11) = some m := by
    intro floor m hmap
    rw [hconfig, hdone.superMap _ (by omega)] at hmap
    exact hmap
  refine built_of_verify hdone.filled.computeDynamic hverify ?_ ?_ ?_ ?_
  · intro ref href ene hene
    obtain ⟨f, hf, hmap, _⟩ := mem_refsBefore.mp href
    rw [hhome f hf ref.map hmap ref.position ene hene, hdone.superMap f hf, hmap]
  · intro floor m hmap p ene hene
    have hmap := hmapOn floor m hmap
    constructor
    · exact mem_refsBefore.mpr ⟨_, by omega, hmap, (List.getElem?_eq_some_iff.mp hene).1⟩
    · rw [hhome _ (by omega) m hmap p ene hene, hconfig]
  · intro floor
    rw [hconfig]
    exact hdone.based _
  · intro floor m hmap
    exact hvalid.valid _ (by omega) m (hmapOn floor m hmap)

theorem built_of_makeMapState {ms : MapState} {difficulty : Difficulty} {event : UInt8}
    {randomSeed : UInt32} {bbRareRates : RareEnemyRates} {randCrypt : RandomGenerator}
    {floorMapDefs : List (Option Pointer)} (hvalid : ValidFloors maps floorMapDefs)
    (h : makeMapState maps difficulty event randomSeed bbRareRates randCrypt floorMapDefs = .ok ms) :
    ∃ refs, Built maps ms refs := by
  cases floorMapDefs with
  | nil => cases h
  | cons first floorMapDefs =>
      cases first with
      | none => cases h
      | some first =>
          obtain ⟨indexed, hindexed, h⟩ := bind_eq_ok.mp h
          obtain ⟨⟨⟩, hverify, h⟩ := bind_eq_ok.mp h
          obtain rfl := Except.ok.inj h
          have hdone := floorsDone_of_addFloors ⟨⟨rfl, rfl⟩, rfl,
            fun _ hf => absurd hf (Nat.not_lt_zero _), fun _ => based_of_zero rfl,
            fun _ _ => rfl⟩ hindexed
          exact ⟨_, built_of_floorsDone hvalid hdone hverify⟩

theorem built_of_makeQuestMapState {ms : MapState} {difficulty : Difficulty} {event : UInt8}
    {randomSeed : UInt32} {bbRareRates : RareEnemyRates} {randCrypt : RandomGenerator}
    {questMapDef : Pointer} (hvalid : Valid (maps questMapDef))
    (h : makeQuestMapState maps difficulty event randomSeed bbRareRates randCrypt questMapDef =
      .ok ms) : ∃ refs, Built maps ms refs := by
  obtain ⟨indexed, hindexed, h⟩ := bind_eq_ok.mp h
  obtain ⟨⟨⟩, hverify, h⟩ := bind_eq_ok.mp h
  obtain rfl := Except.ok.inj h
  obtain ⟨hfilled, hfloors⟩ := 
    indexSuperMap_spec rfl (⟨rfl, rfl⟩ : Filled maps [] _) hindexed
  have hconfig : ∀ floor, (computeDynamicObjectBaseIndexes maps indexed).floorConfig floor =
      { FloorConfig.empty with superMap := some questMapDef } := by
    intro floor
    exact congrFun hfloors.entries _
  refine ⟨_, built_of_verify hfilled.computeDynamic hverify ?_ ?_ ?_ ?_⟩
  · intro ref href ene _
    rw [hconfig, (mem_refsOf.mp href).1]
  · intro floor m hmap p ene hene
    rw [hconfig] at hmap
    obtain rfl := Option.some.inj hmap
    refine ⟨mem_refsOf.mpr ⟨rfl, (List.getElem?_eq_some_iff.mp hene).1⟩, ?_⟩
    rw [hconfig, hconfig]
  · intro floor
    apply based_of_zero
    rw [hconfig]
    rfl
  · intro floor m hmap
    rw [hconfig] at hmap
    exact Option.some.inj hmap ▸ hvalid

theorem Made.built {ms : MapState} (h : Made maps ms) : ∃ refs, Built maps ms refs := by
  cases h with
  | freePlay hvalid h => exact built_of_makeMapState hvalid h
  | quest hvalid h => exact built_of_makeQuestMapState hvalid h

end HuntersGuild.MapStateEnemies
