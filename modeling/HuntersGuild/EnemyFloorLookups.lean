import HuntersGuild.SuperMapLinks

/-!
The enemies of a version are in the order of their floors, and where each floor
begins is known. What the search for an enemy by its floor and type finds.
-/

namespace HuntersGuild.EnemyFloorLookups

open HuntersGuild.CheckedLoops
open HuntersGuild.ExceptionRules
open HuntersGuild.Items (Version)
open HuntersGuild.SuperMapLinks
open HuntersGuild.SuperMaps
open HuntersGuild.SuperMaps.SuperMap

/-! The search. -/

/-- The loop, as long as there are positions left: past the end of the list there is
nothing to read. -/
def searchEnemies (self : SuperMap) (pointers : List Pointer) (floor : UInt8) (type : EnemyType) :
    Nat → Nat → Except Exception Pointer
  | 0, _ => .error (.outOfRange "enemy not found")
  | count + 1, z => do
    let p ← deref pointers z
    let ene ← deref self.enemies p
    if ene.floor = floor ∨ ene.type = type then return p
    else searchEnemies self pointers floor type count (z + 1)

/-- For the last floor the loop ends at the size of the array of the floors. -/
def enemyForFloorType (self : SuperMap) (v : Version) (floor : UInt8) (type : EnemyType) :
    Except Exception Pointer := do
  let entities := self.version v
  if entities.enemies.isEmpty then
    .error (.outOfRange "no enemies defined")
  else
    let starts := entities.enemyFloorStartIndexes
    let startZ ← itemAt starts floor.toNat
    let endZ ← if floor.toNat < starts.length - 1 then itemAt starts (floor.toNat + 1)
      else pure starts.length
    searchEnemies self entities.enemies floor type (endZ - startZ) startZ

/-! Where the floors begin. -/

def floorOf (m : SuperMap) (p : Pointer) : Nat :=
  match m.enemies[p]? with
  | some ene => ene.floor.toNat
  | none => 0

theorem floorOf_of_some {m : SuperMap} {p : Pointer} {ene : Enemy} (h : m.enemies[p]? = some ene) :
    floorOf m p = ene.floor.toNat := by
  rw [floorOf, h]

/-- What the checks say about the floors of a version. -/
structure FloorsIndexed (m : SuperMap) (v : Version) : Prop where
  bound : ∀ p ∈ (m.version v).enemies,
    floorOf m p < (m.version v).enemyFloorStartIndexes.length
  sorted : (m.version v).enemies.Pairwise fun p q => floorOf m p ≤ floorOf m q
  starts : ∀ f ≤ 0x11, (m.version v).enemyFloorStartIndexes[f]? =
    some ((m.version v).enemies.countP fun p => floorOf m p < f)

theorem verifyStarts_spec {lists : List (List Nat × Int × String)} {floor last : Nat}
    (h : verifyStarts lists floor last = .ok ⟨⟩) {list : List Nat × Int × String} (hlist : list ∈ lists)
    {f : Nat} (hlow : floor < f) (hhigh : f ≤ last) :
    ∃ start, list.1[f]? = some start ∧ (start : Int) = list.2.1 := by
  have hfloor := forM_eq_ok_iff.mp h f (List.mem_range'_1.mpr ⟨hlow, by omega⟩)
  obtain ⟨start, hstart, hcheck⟩ := bind_eq_ok.mp (forM_eq_ok_iff.mp hfloor list hlist)
  exact ⟨start, itemAt_eq_ok_iff.mp hstart, of_decide_eq_true (check_eq_ok_iff.mp hcheck)⟩

/-- What is checked of an enemy's floor when the loop comes to it. -/
theorem verifyEnemyOfVersion_floor {m : SuperMap} {v : Version} {cursor next : FloorCursor} {p : Pointer}
    {i : Nat} (h : m.verifyEnemyOfVersion v cursor (p, i) = .ok next) :
    next.floor = floorOf m p ∧ cursor.floor ≤ next.floor ∧
      ∀ f, cursor.floor < f → f ≤ next.floor →
        (m.version v).enemyFloorStartIndexes[f]? = some i := by
  obtain ⟨e, he, h⟩ := bind_eq_ok.mp h
  obtain ⟨set, -, h⟩ := bind_eq_ok.mp h
  rw [bind_check_eq_ok_iff] at h
  obtain ⟨horder, h⟩ := h
  obtain ⟨⟨⟩, hstarts, h⟩ := bind_eq_ok.mp h
  rw [bind_check_eq_ok_iff, bind_check_eq_ok_iff, bind_check_eq_ok_iff] at h
  obtain ⟨-, -, -, h⟩ := h
  obtain rfl := Except.ok.inj h
  refine ⟨(floorOf_of_some (deref_eq_ok_iff.mp he)).symm, of_decide_eq_true horder, fun f hlow hhigh => ?_⟩
  obtain ⟨start, hstart, heq⟩ := verifyStarts_spec hstarts List.mem_cons_self hlow hhigh
  obtain rfl : start = i := Int.ofNat_inj.mp heq
  exact hstart

/-- The loop over the enemies of a version, after `i` of them. -/
structure FloorsSoFar (m : SuperMap) (v : Version) (i : Nat) (floor : Nat) : Prop where
  bound : ∀ p ∈ (m.version v).enemies.take i, floorOf m p ≤ floor
  sorted : ((m.version v).enemies.take i).Pairwise fun p q => floorOf m p ≤ floorOf m q
  starts : ∀ f ≤ floor, (m.version v).enemyFloorStartIndexes[f]? =
    some (((m.version v).enemies.take i).countP fun p => floorOf m p < f)

theorem FloorsSoFar.step {m : SuperMap} {v : Version} {i : Nat} {p : Pointer} {cursor next : FloorCursor}
    (h : FloorsSoFar m v i cursor.floor) (hp : (m.version v).enemies[i]? = some p)
    (hstep : m.verifyEnemyOfVersion v cursor (p, i) = .ok next) :
    FloorsSoFar m v (i + 1) next.floor := by
  obtain ⟨hfloor, horder, hstarts⟩ := verifyEnemyOfVersion_floor hstep
  have htake : (m.version v).enemies.take (i + 1) = (m.version v).enemies.take i ++ [p] := by
    rw [List.take_add_one, hp]
    rfl
  refine ⟨?_, ?_, fun f hf => ?_⟩
  · rw [htake]
    intro q hq
    rcases List.mem_append.mp hq with hq | hq
    · exact Nat.le_trans (h.bound q hq) horder
    · rw [List.mem_singleton.mp hq]
      exact Nat.le_of_eq hfloor.symm
  · rw [htake, List.pairwise_append]
    refine ⟨h.sorted, List.pairwise_singleton _ _, fun q hq r hr => ?_⟩
    rw [List.mem_singleton.mp hr, ← hfloor]
    exact Nat.le_trans (h.bound q hq) horder
  · have hlast : ¬ floorOf m p < f := by omega
    rw [htake, List.countP_append, List.countP_singleton, if_neg (by simpa using hlast), Nat.add_zero]
    rcases Nat.lt_or_ge cursor.floor f with hnew | hold
    · have hall : ((m.version v).enemies.take i).countP (fun q => floorOf m q < f) =
          ((m.version v).enemies.take i).length := by
        refine List.countP_eq_length.mpr fun q hq => decide_eq_true ?_
        exact Nat.lt_of_le_of_lt (h.bound q hq) hnew
      have hlength := (List.getElem?_eq_some_iff.mp hp).1
      rw [hstarts f hnew hf, hall, List.length_take_of_le (Nat.le_of_lt hlength)]
    · exact h.starts f hold

theorem floorsIndexed_of_verify {m : SuperMap} {v : Version} (h : m.verifyVersion v = .ok ⟨⟩) :
    FloorsIndexed m v := by
  obtain ⟨⟨⟩, hzero, h⟩ := bind_eq_ok.mp h
  obtain ⟨floor, -, h⟩ := bind_eq_ok.mp h
  obtain ⟨⟨⟩, -, h⟩ := bind_eq_ok.mp h
  obtain ⟨cursor, henemies, h⟩ := bind_eq_ok.mp h
  rw [bind_check_eq_ok_iff] at h
  obtain ⟨-, h⟩ := h
  obtain ⟨⟨⟩, hends, -⟩ := bind_eq_ok.mp h
  obtain ⟨start, hstart, hcheck⟩ := bind_eq_ok.mp
    (forM_eq_ok_iff.mp hzero (m.version v).enemyFloorStartIndexes (by simp))
  obtain rfl : start = 0 := of_decide_eq_true (check_eq_ok_iff.mp hcheck)
  have hspec := foldlM_spec (f := m.verifyEnemyOfVersion v)
    (fun i cursor => FloorsSoFar m v i cursor.floor) (P := fun _ _ => True) ?_ ?_ henemies
  · obtain ⟨hall, -⟩ := hspec
    rw [List.length_zipIdx] at hall
    obtain ⟨hbound, hsorted, hstarts⟩ := hall
    rw [List.take_length] at hbound hsorted hstarts
    have hfloor := (List.getElem?_eq_some_iff.mp (hstarts cursor.floor (Nat.le_refl _))).1
    refine ⟨fun p hp => Nat.lt_of_le_of_lt (hbound p hp) hfloor, hsorted, fun f hf => ?_⟩
    rcases Nat.lt_or_ge cursor.floor f with hnew | hold
    · obtain ⟨last, hlast, heq⟩ := verifyStarts_spec hends List.mem_cons_self hnew hf
      obtain rfl : last = (m.version v).enemies.length := Int.ofNat_inj.mp heq
      rw [hlast, List.countP_eq_length.mpr fun q hq => decide_eq_true ?_]
      exact Nat.lt_of_le_of_lt (hbound q hq) hnew
    · exact hstarts f hold
  · rintro i ⟨p, k⟩ cursor next hi hcursor hstep
    obtain ⟨hp, hk⟩ := getElem?_zipIdx_eq_some.mp hi
    change k = i at hk
    subst hk
    exact ⟨hcursor.step hp hstep, trivial⟩
  · refine ⟨nofun, .nil, fun f hf => ?_⟩
    obtain rfl : f = 0 := Nat.le_zero.mp hf
    exact itemAt_eq_ok_iff.mp hstart

/-! The enemies before a floor, on it and after it. -/

theorem eq_filter_append {l : List Pointer} {key : Pointer → Nat}
    (h : l.Pairwise fun p q => key p ≤ key q) (f : Nat) :
    l = l.filter (key · < f) ++ l.filter (f ≤ key ·) := by
  induction l with
  | nil => rfl
  | cons p l ih =>
      obtain ⟨hp, hl⟩ := List.pairwise_cons.mp h
      rcases Nat.lt_or_ge (key p) f with hlt | hge
      · rw [List.filter_cons_of_pos (by simpa using hlt),
          List.filter_cons_of_neg (by simpa using hlt), List.cons_append, ← ih hl]
      · have hnone : (p :: l).filter (key · < f) = [] := by
          refine List.filter_eq_nil_iff.mpr fun q hq => ?_
          rcases List.mem_cons.mp hq with rfl | hq
          · simpa using hge
          · simpa using Nat.le_trans hge (hp q hq)
        have hall : (p :: l).filter (f ≤ key ·) = p :: l := by
          refine List.filter_eq_self.mpr fun q hq => decide_eq_true ?_
          rcases List.mem_cons.mp hq with rfl | hq
          · exact hge
          · exact Nat.le_trans hge (hp q hq)
        rw [hnone, hall, List.nil_append]

/-- The three parts of the list of a version, for one floor. -/
structure Blocks (m : SuperMap) (v : Version) (f : Nat) (before on after : List Pointer) : Prop where
  enemies : (m.version v).enemies = before ++ (on ++ after)
  before : ∀ p ∈ before, floorOf m p < f
  on : ∀ p ∈ on, floorOf m p = f
  after : ∀ p ∈ after, f < floorOf m p

theorem FloorsIndexed.exists_blocks {m : SuperMap} {v : Version} (h : FloorsIndexed m v) (f : Nat) :
    ∃ before on after, Blocks m v f before on after := by
  have hsplit := eq_filter_append h.sorted f
  have hsorted : ((m.version v).enemies.filter (f ≤ floorOf m ·)).Pairwise
      fun p q => floorOf m p ≤ floorOf m q := h.sorted.filter _
  have hrest := eq_filter_append hsorted (f + 1)
  rw [hrest] at hsplit
  refine ⟨_, _, _, hsplit, ?_, ?_, ?_⟩
  · intro p hp
    exact of_decide_eq_true (List.mem_filter.mp hp).2
  · intro p hp
    obtain ⟨hp, hhigh⟩ := List.mem_filter.mp hp
    have hlow := of_decide_eq_true (List.mem_filter.mp hp).2
    have hhigh := of_decide_eq_true hhigh
    omega
  · intro p hp
    exact of_decide_eq_true (List.mem_filter.mp hp).2

variable {m : SuperMap} {v : Version} {f : Nat} {before on after : List Pointer}

theorem countP_eq_of_forall {l : List Pointer} {p : Pointer → Bool} {b : Bool} (h : ∀ a ∈ l, p a = b) :
    l.countP p = if b then l.length else 0 := by
  cases b with
  | true => exact List.countP_eq_length.mpr h
  | false => exact List.countP_eq_zero.mpr fun a ha => by simp [h a ha]

theorem Blocks.countP_lt (h : Blocks m v f before on after) :
    ((m.version v).enemies.countP fun p => floorOf m p < f) = before.length := by
  have hbefore := countP_eq_of_forall fun p hp => decide_eq_true (h.before p hp)
  have hon := countP_eq_of_forall (l := on) fun p hp =>
    decide_eq_false (show ¬ floorOf m p < f by have := h.on p hp; omega)
  have hafter := countP_eq_of_forall (l := after) fun p hp =>
    decide_eq_false (show ¬ floorOf m p < f by have := h.after p hp; omega)
  rw [h.enemies, List.countP_append, List.countP_append, hbefore, hon, hafter]
  simp

theorem Blocks.countP_le (h : Blocks m v f before on after) :
    ((m.version v).enemies.countP fun p => floorOf m p < f + 1) = before.length + on.length := by
  have hbefore := countP_eq_of_forall (l := before) fun p hp =>
    decide_eq_true (show floorOf m p < f + 1 by have := h.before p hp; omega)
  have hon := countP_eq_of_forall (l := on) fun p hp =>
    decide_eq_true (show floorOf m p < f + 1 by have := h.on p hp; omega)
  have hafter := countP_eq_of_forall (l := after) fun p hp =>
    decide_eq_false (show ¬ floorOf m p < f + 1 by have := h.after p hp; omega)
  rw [h.enemies, List.countP_append, List.countP_append, hbefore, hon, hafter]
  simp

/-! What is to be found, and what is found. -/

/-- An enemy on the floor and of the type. -/
def isWanted (m : SuperMap) (floor : UInt8) (type : EnemyType) (p : Pointer) : Bool :=
  match m.enemies[p]? with
  | some ene => ene.floor = floor ∧ ene.type = type
  | none => false

/-- The first enemy of the version on the floor and of the type is found, and only when
there is none the search throws `out_of_range`. -/
def FindsRight (m : SuperMap) (v : Version) (floor : UInt8) (type : EnemyType) : Prop :=
  match (m.version v).enemies.find? (isWanted m floor type) with
  | some p => enemyForFloorType m v floor type = .ok p
  | none => ∃ what, enemyForFloorType m v floor type = .error (.outOfRange what)

/-- A super map whose own checks pass. The arrays have one entry for each floor. -/
structure Checked (m : SuperMap) : Prop where
  floors : ∀ v, (m.version v).enemyFloorStartIndexes.length = 0x12
  verified : m.verify = .ok ⟨⟩

theorem Checked.floorsIndexed (h : Checked m) (hv : v ∈ allNonPatchVersions) : FloorsIndexed m v := by
  obtain ⟨⟨⟩, -, hverify⟩ := bind_eq_ok.mp h.verified
  obtain ⟨⟨⟩, -, hverify⟩ := bind_eq_ok.mp hverify
  obtain ⟨⟨⟩, -, hversions⟩ := bind_eq_ok.mp hverify
  exact floorsIndexed_of_verify (forM_eq_ok_iff.mp hversions v hv)

theorem Checked.exists_enemy (h : Checked m) (hv : v ∈ allNonPatchVersions) {p : Pointer}
    (hp : p ∈ (m.version v).enemies) : ∃ ene, m.enemies[p]? = some ene := by
  obtain ⟨⟨⟩, -, hverify⟩ := bind_eq_ok.mp h.verified
  obtain ⟨⟨⟩, -, hverify⟩ := bind_eq_ok.mp hverify
  obtain ⟨⟨⟩, -, hversions⟩ := bind_eq_ok.mp hverify
  obtain ⟨i, hi⟩ := List.getElem?_of_mem hp
  obtain ⟨ene, hene, -⟩ := (versionIndexed_of_verify (forM_eq_ok_iff.mp hversions v hv)).enemies i p hi
  exact ⟨ene, hene⟩

/-- The first enemy of the version on a floor, whatever its type. -/
def firstOnFloor (m : SuperMap) (v : Version) (floor : UInt8) : Option Pointer :=
  (m.version v).enemies.find? fun p => floorOf m p = floor.toNat

def HasType (m : SuperMap) (type : EnemyType) (p : Pointer) : Prop :=
  ∃ ene, m.enemies[p]? = some ene ∧ ene.type = type

variable {floor : UInt8} {type : EnemyType}

theorem isWanted_iff {p : Pointer} :
    isWanted m floor type p = true ↔ (∃ ene, m.enemies[p]? = some ene) ∧
      floorOf m p = floor.toNat ∧ HasType m type p := by
  unfold isWanted floorOf HasType
  cases hene : m.enemies[p]? with
  | none => simp
  | some ene => simp [UInt8.toNat_inj]

theorem Blocks.firstOnFloor (h : Blocks m v floor.toNat before on after) :
    firstOnFloor m v floor = on.head? := by
  have hbefore : before.find? (fun p => floorOf m p = floor.toNat) = none :=
    List.find?_eq_none.mpr fun p hp => by simpa using Nat.ne_of_lt (h.before p hp)
  have hafter : after.find? (fun p => floorOf m p = floor.toNat) = none :=
    List.find?_eq_none.mpr fun p hp => by simpa using Nat.ne_of_gt (h.after p hp)
  rw [EnemyFloorLookups.firstOnFloor, h.enemies, List.find?_append, hbefore, Option.none_or,
    List.find?_append, hafter, Option.or_none]
  cases on with
  | nil => rfl
  | cons p on =>
      rw [List.find?_cons_of_pos (by simpa using h.on p List.mem_cons_self)]
      rfl

/-- Off the floor nothing is wanted. -/
theorem Blocks.find?_isWanted (h : Blocks m v floor.toNat before on after) :
    (m.version v).enemies.find? (isWanted m floor type) = on.find? (isWanted m floor type) := by
  have hnone {l : List Pointer} (hl : ∀ p ∈ l, floorOf m p ≠ floor.toNat) :
      l.find? (isWanted m floor type) = none :=
    List.find?_eq_none.mpr fun p hp hwanted => hl p hp (isWanted_iff.mp hwanted).2.1
  rw [h.enemies, List.find?_append, hnone fun p hp => Nat.ne_of_lt (h.before p hp), Option.none_or,
    List.find?_append, hnone fun p hp => Nat.ne_of_gt (h.after p hp), Option.or_none]

/-- Where the list goes on with an enemy of the floor, that enemy is found. -/
theorem searchEnemies_of_floor {pointers : List Pointer} {z count : Nat} {p : Pointer} {ene : Enemy}
    (hp : pointers[z]? = some p) (hene : m.enemies[p]? = some ene) (hfloor : ene.floor = floor) :
    searchEnemies m pointers floor type (count + 1) z = .ok p := by
  unfold searchEnemies
  rw [deref_eq_ok_iff.mpr hp, ok_bind, deref_eq_ok_iff.mpr hene, ok_bind, if_pos (.inl hfloor)]
  rfl

theorem searchEnemies_of_end {pointers : List Pointer} {z count : Nat} (hz : pointers[z]? = none) :
    searchEnemies m pointers floor type (count + 1) z = .error .undefined := by
  unfold searchEnemies
  rw [deref, hz]
  rfl

/-- The search finds the first enemy on the floor: right if it has the type. -/
theorem findsRight_iff_of_first
    (h : Blocks m v floor.toNat before on after) {p : Pointer} (hfirst : on.head? = some p)
    (hfinds : enemyForFloorType m v floor type = .ok p) :
    FindsRight m v floor type ↔ HasType m type p := by
  have hmem : p ∈ on := List.mem_of_mem_head? hfirst
  unfold FindsRight
  rw [hfinds]
  constructor
  · intro hright
    cases hwanted : (m.version v).enemies.find? (isWanted m floor type) with
    | none =>
        rw [hwanted] at hright
        obtain ⟨what, hwhat⟩ := hright
        cases hwhat
    | some q =>
        rw [hwanted] at hright
        obtain rfl := Except.ok.inj hright
        exact (isWanted_iff.mp (List.find?_some hwanted)).2.2
  · intro htype
    have hexists : ∃ ene, m.enemies[p]? = some ene := by
      obtain ⟨ene, hene, -⟩ := htype
      exact ⟨ene, hene⟩
    have hwanted : isWanted m floor type p = true := isWanted_iff.mpr ⟨hexists, h.on p hmem, htype⟩
    rw [h.find?_isWanted]
    cases on with
    | nil => cases hfirst
    | cons q on =>
        obtain rfl := Option.some.inj hfirst
        rw [List.find?_cons_of_pos hwanted]

theorem findsRight_iff_of_outOfRange {what : String}
    (hfinds : enemyForFloorType m v floor type = .error (.outOfRange what)) :
    FindsRight m v floor type ↔ ∀ p ∈ (m.version v).enemies, isWanted m floor type p = false := by
  unfold FindsRight
  rw [hfinds]
  constructor
  · intro hright p hp
    cases hwanted : (m.version v).enemies.find? (isWanted m floor type) with
    | none => simpa using List.find?_eq_none.mp hwanted p hp
    | some q =>
        rw [hwanted] at hright
        cases hright
  · intro hnone
    rw [List.find?_eq_none.mpr fun p hp => by simp [hnone p hp]]
    exact ⟨what, rfl⟩

theorem enemyForFloorType_of_nil (h : (m.version v).enemies = []) :
    enemyForFloorType m v floor type = .error (.outOfRange "no enemies defined") := by
  unfold enemyForFloorType
  dsimp only
  rw [h]
  rfl

/-- The search starts where the floor begins. -/
theorem enemyForFloorType_eq (hm : Checked m) (hv : v ∈ allNonPatchVersions)
    (h : Blocks m v floor.toNat before on after) (hfloor : floor.toNat ≤ 0x11)
    (hne : (m.version v).enemies ≠ []) :
    enemyForFloorType m v floor type = searchEnemies m (m.version v).enemies floor type
      (if floor.toNat < 0x11 then on.length else 0x12 - before.length) before.length := by
  have hstarts := (hm.floorsIndexed hv).starts
  have hstart := hstarts floor.toNat hfloor
  rw [h.countP_lt] at hstart
  unfold enemyForFloorType
  dsimp only
  rw [if_neg (by simpa using hne), itemAt_eq_ok_iff.mpr hstart, ok_bind, hm.floors]
  split_ifs with hlast
  · have hend := hstarts (floor.toNat + 1) hlast
    rw [h.countP_le] at hend
    rw [itemAt_eq_ok_iff.mpr hend, ok_bind, Nat.add_sub_cancel_left]
  · rw [pure_eq_ok, ok_bind]

/-- When the search for an enemy is not led astray: on the floors before the last one
the first enemy of the floor has the type, if there is an enemy at all. On the last floor
the search ends at position 18: when the floor begins before it, its first enemy is there
and has the type; otherwise no enemy of the type is there. -/
def Unaffected (m : SuperMap) (v : Version) (floor : UInt8) (type : EnemyType) : Prop :=
  if floor.toNat < 0x11 then
    ∀ p, firstOnFloor m v floor = some p → HasType m type p
  else if ((m.version v).enemies.countP fun p => floorOf m p < 0x11) < 0x12 then
    (m.version v).enemies = [] ∨ ∃ p, firstOnFloor m v floor = some p ∧ HasType m type p
  else ∀ p ∈ (m.version v).enemies, isWanted m floor type p = false

/-- No enemy is on a floor after the last one. -/
theorem Blocks.after_eq_nil (h : Blocks m v floor.toNat before on after) (hm : Checked m)
    (hv : v ∈ allNonPatchVersions) (hlast : floor.toNat = 0x11) : after = [] := by
  refine List.eq_nil_iff_forall_not_mem.mpr fun p hp => ?_
  have hmem : p ∈ (m.version v).enemies := by
    rw [h.enemies]
    exact List.mem_append_right before (List.mem_append_right on hp)
  have hbound := (hm.floorsIndexed hv).bound p hmem
  have habove := h.after p hp
  rw [hm.floors] at hbound
  omega

theorem Blocks.searchEnemies_eq {p : Pointer} (h : Blocks m v floor.toNat before (p :: on) after)
    (hm : Checked m) (hv : v ∈ allNonPatchVersions) (count : Nat) :
    searchEnemies m (m.version v).enemies floor type (count + 1) before.length = .ok p := by
  have hp : (m.version v).enemies[before.length]? = some p := by
    rw [h.enemies, List.getElem?_append_right (Nat.le_refl _), Nat.sub_self]
    rfl
  obtain ⟨ene, hene⟩ := hm.exists_enemy hv (List.mem_of_getElem? hp)
  have hfloor := h.on p List.mem_cons_self
  rw [floorOf_of_some hene] at hfloor
  exact searchEnemies_of_floor hp hene (UInt8.toNat_inj.mp hfloor)

theorem isWanted_eq_false_of_nil (h : Blocks m v floor.toNat before [] after) :
    ∀ p ∈ (m.version v).enemies, isWanted m floor type p = false := by
  intro p hp
  have hnone : (m.version v).enemies.find? (isWanted m floor type) = none := h.find?_isWanted
  simpa using List.find?_eq_none.mp hnone p hp

/-- The search tests for the floor or the type, and takes the number of floors for the
number of enemies; what it finds is right exactly where that does not matter. -/
theorem findsRight_iff (hm : Checked m) (hv : v ∈ allNonPatchVersions) (hfloor : floor.toNat ≤ 0x11) :
    FindsRight m v floor type ↔ Unaffected m v floor type := by
  obtain ⟨before, on, after, h⟩ := (hm.floorsIndexed hv).exists_blocks floor.toNat
  have hfirst := h.firstOnFloor
  by_cases hne : (m.version v).enemies = []
  · obtain ⟨rfl, hrest⟩ := List.append_eq_nil_iff.mp (h.enemies.symm.trans hne)
    obtain ⟨rfl, rfl⟩ := List.append_eq_nil_iff.mp hrest
    rw [findsRight_iff_of_outOfRange (enemyForFloorType_of_nil hne), Unaffected, hfirst, hne]
    simp
  · have hsearch : enemyForFloorType m v floor type = _ := enemyForFloorType_eq hm hv h hfloor hne
    rcases Nat.lt_or_ge floor.toNat 0x11 with hlt | hge
    · rw [Unaffected, if_pos hlt, hfirst]
      rw [if_pos hlt] at hsearch
      cases on with
      | nil =>
          rw [findsRight_iff_of_outOfRange hsearch]
          exact iff_of_true (isWanted_eq_false_of_nil h) nofun
      | cons p on =>
          rw [findsRight_iff_of_first h rfl (hsearch.trans (h.searchEnemies_eq hm hv on.length))]
          exact ⟨fun htype q hq => Option.some.inj hq ▸ htype, fun hall => hall p rfl⟩
    · have hlast : floor.toNat = 0x11 := Nat.le_antisymm hfloor hge
      have hcount := h.countP_lt
      rw [hlast] at hcount
      rw [Unaffected, if_neg (Nat.not_lt.mpr hge), hcount, hfirst]
      rw [if_neg (Nat.not_lt.mpr hge)] at hsearch
      split_ifs with hearly
      · obtain ⟨count, hcount⟩ := Nat.exists_eq_add_of_lt hearly
        rw [show 0x12 - before.length = count + 1 by omega] at hsearch
        cases on with
        | nil =>
            have hend : (m.version v).enemies[before.length]? = none := by
              rw [h.enemies, h.after_eq_nil hm hv hlast]
              exact List.getElem?_eq_none (by simp)
            rw [searchEnemies_of_end hend] at hsearch
            refine iff_of_false ?_ ?_
            · rw [FindsRight, h.find?_isWanted, hsearch]
              rintro ⟨what, hwhat⟩
              cases hwhat
            · rintro (hnil | ⟨p, hp, -⟩)
              · exact hne hnil
              · cases hp
        | cons p on =>
            rw [findsRight_iff_of_first h rfl (hsearch.trans (h.searchEnemies_eq hm hv count))]
            constructor
            · exact fun htype => .inr ⟨p, rfl, htype⟩
            · rintro (hnil | ⟨q, hq, htype⟩)
              · exact absurd hnil hne
              · exact Option.some.inj hq ▸ htype
      · rw [show 0x12 - before.length = 0 by omega] at hsearch
        exact findsRight_iff_of_outOfRange hsearch

/-! A map with two enemies of different types on its first floor. -/

def sampleEnemy (superId : Nat) (type : EnemyType) : Enemy where
  defForVersion := fun _ => ⟨some ⟨0, superId⟩, .ofNat superId, .ofNat superId⟩
  superId := superId
  superSetId := superId
  childIndex := 0
  aliasTargetEne := none
  type := type
  isDefaultRareV123 := false
  isDefaultRareBb := false
  floor := 0

def twoTypes : SuperMap where
  floorToArea := .replicate 0x12 0
  objects := []
  enemies := [sampleEnemy 0 .booma, sampleEnemy 1 .gobooma]
  enemySets := [0, 1]
  events := []
  entitiesForVersion := fun _ => {
    objects := []
    objectFloorStartIndexes := .replicate 0x12 0
    enemies := [0, 1]
    enemyFloorStartIndexes := 0 :: .replicate 0x11 2
    enemySets := [0, 1]
    enemySetFloorStartIndexes := 0 :: .replicate 0x11 2
    events := []
    eventFloorStartIndexes := .replicate 0x12 0 }

theorem checked_twoTypes : Checked twoTypes := ⟨fun _ => rfl, rfl⟩

theorem twoTypes_findsRight_iff :
    FindsRight twoTypes .bbV4 0 .booma ↔ Unaffected twoTypes .bbV4 0 .booma :=
  findsRight_iff checked_twoTypes (by decide) (by decide)

/-- The first enemy of the floor is returned for the type of the second one. -/
theorem twoTypes_not_findsRight :
    ¬ ∀ (m : SuperMap) (v : Version) (floor : UInt8) (type : EnemyType), Checked m →
      v ∈ allNonPatchVersions → floor.toNat ≤ 0x11 → FindsRight m v floor type := by
  intro h
  have hfound : enemyForFloorType twoTypes .bbV4 0 .gobooma = .ok 1 :=
    h twoTypes .bbV4 0 .gobooma checked_twoTypes (by decide) (by decide)
  cases hfound

end HuntersGuild.EnemyFloorLookups
