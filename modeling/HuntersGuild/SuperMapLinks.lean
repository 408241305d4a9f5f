import HuntersGuild.CheckedLoops
import HuntersGuild.HeadCounts
import HuntersGuild.SuperMaps

/-!
How the entities of a super map and the lists of the versions are linked, and what
the checks say about them.
-/

namespace HuntersGuild.SuperMapLinks

open HuntersGuild.CheckedLoops
open HuntersGuild.ExceptionRules
open HuntersGuild.HeadCounts
open HuntersGuild.Items (Version)
open HuntersGuild.SuperMaps
open HuntersGuild.SuperMaps.SuperMap

/-! Links. -/

/-- An entity that has an index is in the list at this index. -/
def Listed {α : Type} (relativeIndex : α → UInt16) (entities : List α) (pointers : List Pointer) : Prop :=
  ∀ (p : Pointer) (e : α), entities[p]? = some e → relativeIndex e ≠ 0xFFFF →
    pointers[(relativeIndex e).toNat]? = some p

/-- What holds of every super map, as entities are only added to it and linked. -/
structure Linked (m : SuperMap) : Prop where
  objects : ∀ v, Listed (fun o => (o.version v).relativeObjectIndex) m.objects (m.version v).objects
  enemies : ∀ v, Listed (fun e => (e.version v).relativeEnemyIndex) m.enemies (m.version v).enemies
  events : ∀ v, Listed (fun e => (e.version v).relativeEventIndex) m.events (m.version v).events
  children : ∀ (v : Version) (i : Nat) (p : Pointer) (e : Enemy), (m.version v).enemies[i + 1]? = some p →
    m.enemies[p]? = some e → e.childIndex ≠ 0 → ∃ q, (m.version v).enemies[i]? = some q ∧ p = q + 1
  headFirst : ∀ e, m.enemies[0]? = some e → e.childIndex = 0
  aliases : ∀ (p : Pointer) (e : Enemy) (t : Pointer), m.enemies[p]? = some e → e.aliasTargetEne = some t →
    t < p ∧ ∃ target, m.enemies[t]? = some target ∧ target.aliasTargetEne = none

/-! Single checks. -/

theorem check_eq_ok_iff {ok : Bool} {what : String} : check ok what = .ok ⟨⟩ ↔ ok = true := by
  rw [check]
  cases ok
  · exact iff_of_false nofun nofun
  · exact iff_of_true rfl rfl

theorem bind_check_eq_ok_iff {α : Type} {ok : Bool} {what : String} {f : Unit → Except Exception α}
    {a : α} : (check ok what >>= f) = .ok a ↔ ok = true ∧ f ⟨⟩ = .ok a := by
  rw [bind_eq_ok]
  constructor
  · rintro ⟨⟨⟩, hok, hf⟩
    exact ⟨check_eq_ok_iff.mp hok, hf⟩
  · rintro ⟨hok, hf⟩
    exact ⟨⟨⟩, check_eq_ok_iff.mpr hok, hf⟩

theorem deref_eq_ok_iff {α : Type} {entities : List α} {p : Pointer} {e : α} :
    deref entities p = .ok e ↔ entities[p]? = some e := by
  rw [deref]
  cases entities[p]? <;> simp

theorem itemAt_eq_ok_iff {α : Type} {items : List α} {i : Nat} {item : α} :
    itemAt items i = .ok item ↔ items[i]? = some item := by
  rw [itemAt]
  cases items[i]? <;> simp

/-! What the checks say. -/

theorem verifySuperIds_eq_ok_iff {α : Type} {superId : α → Nat} {entities : List α} {what : String} :
    verifySuperIds superId entities what = .ok ⟨⟩ ↔
      ∀ (k : Nat) (e : α), entities[k]? = some e → superId e = k := by
  rw [verifySuperIds, forM_eq_ok_iff]
  constructor
  · intro h k e he
    have hmem : (e, k) ∈ entities.zipIdx :=
      List.mem_of_getElem? (getElem?_zipIdx_eq_some.mpr ⟨he, rfl⟩)
    exact of_decide_eq_true (check_eq_ok_iff.mp (h (e, k) hmem))
  · intro h it hit
    obtain ⟨k, hk⟩ := List.mem_iff_getElem?.mp hit
    obtain ⟨he, rfl⟩ := getElem?_zipIdx_eq_some.mp hk
    exact check_eq_ok_iff.mpr (decide_eq_true (h it.2 it.1 he))

/-- The sets among the first enemies. -/
def headCount (enemies : List Enemy) (n : Nat) : Nat :=
  (enemies.take n).countP fun ene => ene.childIndex = 0

theorem headCount_succ {enemies : List Enemy} {n : Nat} {ene : Enemy} (h : enemies[n]? = some ene) :
    headCount enemies (n + 1) = headCount enemies n + if ene.childIndex = 0 then 1 else 0 := by
  rw [headCount, headCount, List.take_add_one, h, List.countP_append]
  simp only [Option.toList_some, List.countP_singleton, decide_eq_true_eq]

/-- What is checked of an enemy in the list of all enemies. -/
structure EnemyNumbered (enemies : List Enemy) (k : Nat) (ene : Enemy) : Prop where
  superId : ene.superId = k
  child : ene.childIndex.toNat ≤ k
  set : (ene.superSetId : Int) = headCount enemies (k + 1) - 1

theorem verifyEnemy_spec {cursor next : SetCursor} {ene : Enemy} {k : Nat}
    (h : verifyEnemy cursor (ene, k) = .ok next) :
    ene.superId = k ∧ (ene.superSetId : Int) = next.superSetId ∧
      (ene.childIndex = 0 ∧ next = ⟨cursor.superSetId + 1, 0⟩ ∨
        ene.childIndex ≠ 0 ∧ ene.childIndex.toNat = cursor.prevChildIndex + 1 ∧
          next = ⟨cursor.superSetId, cursor.prevChildIndex + 1⟩) := by
  rw [verifyEnemy, bind_check_eq_ok_iff] at h
  obtain ⟨hid, h⟩ := h
  obtain ⟨found, hfound, h⟩ := bind_eq_ok.mp h
  rw [bind_check_eq_ok_iff] at h
  obtain ⟨hset, h⟩ := h
  obtain rfl : found = next := Except.ok.inj h
  refine ⟨of_decide_eq_true hid, of_decide_eq_true hset, ?_⟩
  rw [nextInSet] at hfound
  split_ifs at hfound with hhead hchild
  · exact .inl ⟨hhead, (Except.ok.inj hfound).symm⟩
  · exact .inr ⟨hhead, hchild, (Except.ok.inj hfound).symm⟩

theorem verifyEnemies_spec {m : SuperMap} (hfirst : ∀ e, m.enemies[0]? = some e → e.childIndex = 0)
    (h : m.verifyEnemies = .ok ⟨⟩) :
    (m.enemySets.length : Int) = headCount m.enemies m.enemies.length ∧
      ∀ (k : Nat) (ene : Enemy), m.enemies[k]? = some ene → EnemyNumbered m.enemies k ene := by
  obtain ⟨last, hloop, hcount⟩ := bind_eq_ok.mp h
  have hcount := of_decide_eq_true (check_eq_ok_iff.mp hcount)
  let I (i : Nat) (cursor : SetCursor) : Prop :=
    cursor.superSetId = headCount m.enemies i - 1 ∧ (0 < i → cursor.prevChildIndex < i)
  have hspec := foldlM_spec (f := verifyEnemy) I
    (P := fun (k : Nat) (it : Enemy × Nat) => EnemyNumbered m.enemies k it.1) ?_ ?_ hloop
  · obtain ⟨⟨hlast, -⟩, hall⟩ := hspec
    rw [List.length_zipIdx] at hlast
    refine ⟨by omega, fun k ene hene => ?_⟩
    exact hall k (ene, k) (getElem?_zipIdx_eq_some.mpr ⟨hene, rfl⟩)
  · rintro i ⟨ene, k⟩ cursor next hi ⟨hsets, hprev⟩ hstep
    obtain ⟨hene, rfl⟩ := getElem?_zipIdx_eq_some.mp hi
    change m.enemies[k]? = some ene at hene
    obtain ⟨hid, hset, ⟨hhead, rfl⟩ | ⟨hnot, hchild, rfl⟩⟩ := verifyEnemy_spec hstep
    · have hheads := headCount_succ hene
      rw [if_pos hhead] at hheads
      have hzero : ene.childIndex.toNat = 0 := by
        rw [hhead]
        rfl
      have hnext : cursor.superSetId + 1 = headCount m.enemies (k + 1) - 1 := by
        rw [hheads, hsets]
        push_cast
        omega
      have hchild : ene.childIndex.toNat ≤ k := Nat.le_trans (Nat.le_of_eq hzero) (Nat.zero_le k)
      exact ⟨⟨hnext, fun _ => Nat.succ_pos k⟩, hid, hchild, hset.trans hnext⟩
    · have hheads := headCount_succ hene
      rw [if_neg hnot] at hheads
      have hpos : 0 < k := by
        rcases Nat.eq_zero_or_pos k with rfl | hpos
        · exact absurd (hfirst ene hene) hnot
        · exact hpos
      have hlt := hprev hpos
      have hnext : cursor.superSetId = headCount m.enemies (k + 1) - 1 := by
        rw [hheads, hsets, Nat.add_zero]
      have hle : ene.childIndex.toNat ≤ k := by
        rw [hchild]
        exact hlt
      exact ⟨⟨hnext, fun _ => Nat.succ_lt_succ hlt⟩, hid, hle, hset.trans hnext⟩
  · exact ⟨rfl, fun h => absurd h (Nat.lt_irrefl 0)⟩

/-- An entry of a version's list, with its index. -/
def Indexed {α : Type} (relativeIndex : α → UInt16) (entities : List α) (pointers : List Pointer) : Prop :=
  ∀ (i : Nat) (p : Pointer), pointers[i]? = some p →
    ∃ e, entities[p]? = some e ∧ (relativeIndex e).toNat = i

theorem Indexed.injective {α : Type} {relativeIndex : α → UInt16} {entities : List α}
    {pointers : List Pointer} (h : Indexed relativeIndex entities pointers) {i j : Nat} {p : Pointer}
    (hi : pointers[i]? = some p) (hj : pointers[j]? = some p) : i = j := by
  obtain ⟨e, he, rfl⟩ := h i p hi
  obtain ⟨e', he', rfl⟩ := h j p hj
  rw [Option.some.inj (he.symm.trans he')]

theorem indexed_of_loop {α σ : Type} {relativeIndex : α → UInt16} {entities : List α}
    {pointers : List Pointer} {f : σ → Pointer × Nat → Except Exception σ} {s s' : σ}
    (hround : ∀ s p i s', f s (p, i) = .ok s' →
      ∃ e, entities[p]? = some e ∧ (relativeIndex e).toNat = i)
    (h : pointers.zipIdx.foldlM f s = .ok s') : Indexed relativeIndex entities pointers := by
  have hspec := foldlM_spec (f := f) (fun _ _ => True)
    (P := fun _ it => ∃ e, entities[it.1]? = some e ∧ (relativeIndex e).toNat = it.2)
    (fun i it s s' _ _ hstep => ⟨trivial, hround s it.1 it.2 s' hstep⟩) trivial h
  intro i p hp
  exact hspec.2 i (p, i) (getElem?_zipIdx_eq_some.mpr ⟨hp, rfl⟩)

/-- What the checks say about a version. -/
structure VersionIndexed (m : SuperMap) (v : Version) : Prop where
  objects : Indexed (fun o => (o.version v).relativeObjectIndex) m.objects (m.version v).objects
  enemies : Indexed (fun e => (e.version v).relativeEnemyIndex) m.enemies (m.version v).enemies
  events : Indexed (fun e => (e.version v).relativeEventIndex) m.events (m.version v).events

theorem verifyObjectOfVersion_spec {m : SuperMap} {v : Version} {floor : Nat} {p : Pointer} {i next : Nat}
    (h : m.verifyObjectOfVersion v floor (p, i) = .ok next) :
    ∃ o, m.objects[p]? = some o ∧ (o.version v).relativeObjectIndex.toNat = i := by
  obtain ⟨o, ho, h⟩ := bind_eq_ok.mp h
  obtain ⟨⟨⟩, -, h⟩ := bind_eq_ok.mp h
  obtain ⟨⟨⟩, -, h⟩ := bind_eq_ok.mp h
  obtain ⟨⟨⟩, -, h⟩ := bind_eq_ok.mp h
  rw [bind_check_eq_ok_iff] at h
  exact ⟨o, deref_eq_ok_iff.mp ho, of_decide_eq_true h.1⟩

theorem verifyEnemyOfVersion_spec {m : SuperMap} {v : Version} {cursor next : FloorCursor} {p : Pointer}
    {i : Nat} (h : m.verifyEnemyOfVersion v cursor (p, i) = .ok next) :
    ∃ e, m.enemies[p]? = some e ∧ (e.version v).relativeEnemyIndex.toNat = i := by
  obtain ⟨e, he, h⟩ := bind_eq_ok.mp h
  obtain ⟨set, -, h⟩ := bind_eq_ok.mp h
  obtain ⟨⟨⟩, -, h⟩ := bind_eq_ok.mp h
  obtain ⟨⟨⟩, -, h⟩ := bind_eq_ok.mp h
  obtain ⟨⟨⟩, -, h⟩ := bind_eq_ok.mp h
  rw [bind_check_eq_ok_iff] at h
  exact ⟨e, deref_eq_ok_iff.mp he, of_decide_eq_true h.1⟩

theorem verifyEventOfVersion_spec {m : SuperMap} {v : Version} {floor : Nat} {p : Pointer} {i next : Nat}
    (h : m.verifyEventOfVersion v floor (p, i) = .ok next) :
    ∃ e, m.events[p]? = some e ∧ (e.version v).relativeEventIndex.toNat = i := by
  obtain ⟨e, he, h⟩ := bind_eq_ok.mp h
  obtain ⟨⟨⟩, -, h⟩ := bind_eq_ok.mp h
  obtain ⟨⟨⟩, -, h⟩ := bind_eq_ok.mp h
  obtain ⟨⟨⟩, -, h⟩ := bind_eq_ok.mp h
  rw [bind_check_eq_ok_iff] at h
  exact ⟨e, deref_eq_ok_iff.mp he, of_decide_eq_true h.1⟩

/-- Whether a pointer is to the head of a set. -/
def isHeadAt (m : SuperMap) (p : Pointer) : Bool :=
  match m.enemies[p]? with
  | some ene => ene.childIndex = 0
  | none => false

theorem isHeadAt_of_some {m : SuperMap} {p : Pointer} {ene : Enemy} (h : m.enemies[p]? = some ene) :
    isHeadAt m p = decide (ene.childIndex = 0) := by
  rw [isHeadAt, h]

/-- What the checks say about the sets of a version. -/
structure SetsIndexed (m : SuperMap) (v : Version) : Prop where
  sets : (m.version v).enemySets = (m.version v).enemies.filter (isHeadAt m)
  setIndex : ∀ (i : Nat) (p : Pointer) (ene : Enemy), (m.version v).enemies[i]? = some p →
    m.enemies[p]? = some ene →
      (ene.version v).relativeSetIndex.toNat + 1 = headsAmong (isHeadAt m) (m.version v).enemies (i + 1)

theorem setOfEnemy_eq_ok {entities : EntitiesForVersion} {p : Pointer} {ene : Enemy}
    {enemySetIndex next : Int} (h : setOfEnemy entities p ene enemySetIndex = .ok next) :
    (ene.childIndex = 0 ∧ entities.enemySets[(enemySetIndex + 1).toNat]? = some p ∧
        next = enemySetIndex + 1) ∨
      (ene.childIndex ≠ 0 ∧ next = enemySetIndex) := by
  unfold setOfEnemy at h
  by_cases hzero : ene.childIndex = 0
  · rw [if_pos hzero] at h
    obtain ⟨set, hset, hrest⟩ := bind_eq_ok.mp h
    rw [bind_check_eq_ok_iff] at hrest
    obtain ⟨heq, hnext⟩ := hrest
    have hplace := itemAt_eq_ok_iff.mp hset
    rw [of_decide_eq_true heq] at hplace
    exact .inl ⟨hzero, hplace, (Except.ok.inj hnext).symm⟩
  · rw [if_neg hzero] at h
    exact .inr ⟨hzero, (Except.ok.inj h).symm⟩

theorem verifyEnemyOfVersion_sets {m : SuperMap} {v : Version} {cursor next : FloorCursor} {p : Pointer}
    {i : Nat} (h : m.verifyEnemyOfVersion v cursor (p, i) = .ok next) :
    ∃ e, m.enemies[p]? = some e ∧
      setOfEnemy (m.version v) p e cursor.enemySetIndex = .ok next.enemySetIndex ∧
        ((e.version v).relativeSetIndex.toNat : Int) = next.enemySetIndex := by
  obtain ⟨e, he, h⟩ := bind_eq_ok.mp h
  obtain ⟨set, hset, h⟩ := bind_eq_ok.mp h
  obtain ⟨⟨⟩, -, h⟩ := bind_eq_ok.mp h
  obtain ⟨⟨⟩, -, h⟩ := bind_eq_ok.mp h
  obtain ⟨⟨⟩, -, h⟩ := bind_eq_ok.mp h
  rw [bind_check_eq_ok_iff, bind_check_eq_ok_iff] at h
  obtain ⟨-, hindex, h⟩ := h
  obtain rfl := Except.ok.inj h
  exact ⟨e, deref_eq_ok_iff.mp he, hset, of_decide_eq_true hindex⟩

theorem setsIndexed_of_loop {m : SuperMap} {v : Version} {cursor : FloorCursor}
    (hloop : (m.version v).enemies.zipIdx.foldlM (m.verifyEnemyOfVersion v) ⟨0, -1⟩ = .ok cursor)
    (hlast : cursor.enemySetIndex = (m.version v).enemySets.length - 1) : SetsIndexed m v := by
  let I (i : Nat) (cursor : FloorCursor) : Prop :=
    cursor.enemySetIndex + 1 = headsAmong (isHeadAt m) (m.version v).enemies i ∧
      (m.version v).enemySets.take (headsAmong (isHeadAt m) (m.version v).enemies i) =
        ((m.version v).enemies.take i).filter (isHeadAt m)
  have hspec := foldlM_spec (f := m.verifyEnemyOfVersion v) I
    (P := fun i it => ∀ ene, m.enemies[it.1]? = some ene →
      (ene.version v).relativeSetIndex.toNat + 1 =
        headsAmong (isHeadAt m) (m.version v).enemies (i + 1)) ?_ ?_ hloop
  · obtain ⟨⟨hcount, htake⟩, hall⟩ := hspec
    rw [List.length_zipIdx] at hcount htake
    constructor
    · rw [List.take_length] at htake
      rw [← htake, List.take_of_length_le (by omega)]
    · intro i p ene hp hene
      exact hall i (p, i) (getElem?_zipIdx_eq_some.mpr ⟨hp, rfl⟩) ene hene
  · rintro i ⟨p, k⟩ cursor next hi ⟨hcount, htake⟩ hstep
    obtain ⟨hp, hk⟩ := getElem?_zipIdx_eq_some.mp hi
    change (m.version v).enemies[i]? = some p at hp
    change k = i at hk
    subst hk
    obtain ⟨e, he, hset, hindex⟩ := verifyEnemyOfVersion_sets hstep
    have hhead := isHeadAt_of_some he
    have hnext : I (k + 1) next := by
      rcases setOfEnemy_eq_ok hset with ⟨hzero, hentry, heq⟩ | ⟨hchild, heq⟩
      · have hsucc := headsAmong_succ_of_head hp (hhead.trans (decide_eq_true hzero))
        have hplace : (cursor.enemySetIndex + 1).toNat =
            headsAmong (isHeadAt m) (m.version v).enemies k := by omega
        refine ⟨by omega, ?_⟩
        rw [hsucc, List.take_add_one, htake, ← hplace, hentry, List.take_add_one, hp,
          List.filter_append]
        simp [hhead, hzero]
      · have hsucc := headsAmong_succ_of_other hp (hhead.trans (decide_eq_false hchild))
        refine ⟨by omega, ?_⟩
        rw [hsucc, htake, List.take_add_one, hp, List.filter_append]
        simp [hhead, hchild]
    refine ⟨hnext, fun ene hene => ?_⟩
    obtain rfl : e = ene := Option.some.inj (he.symm.trans hene)
    have hcount := hnext.1
    omega
  · exact ⟨rfl, rfl⟩

theorem versionIndexed_of_verify {m : SuperMap} {v : Version} (h : m.verifyVersion v = .ok ⟨⟩) :
    VersionIndexed m v := by
  obtain ⟨⟨⟩, -, h⟩ := bind_eq_ok.mp h
  obtain ⟨floor, hobjects, h⟩ := bind_eq_ok.mp h
  obtain ⟨⟨⟩, -, h⟩ := bind_eq_ok.mp h
  obtain ⟨cursor, henemies, h⟩ := bind_eq_ok.mp h
  obtain ⟨⟨⟩, -, h⟩ := bind_eq_ok.mp h
  obtain ⟨⟨⟩, -, h⟩ := bind_eq_ok.mp h
  obtain ⟨last, hevents, -⟩ := bind_eq_ok.mp h
  refine ⟨?_, ?_, ?_⟩
  · exact indexed_of_loop (fun _ _ _ _ hround => verifyObjectOfVersion_spec hround) hobjects
  · exact indexed_of_loop (fun _ _ _ _ hround => verifyEnemyOfVersion_spec hround) henemies
  · exact indexed_of_loop (fun _ _ _ _ hround => verifyEventOfVersion_spec hround) hevents

theorem setsIndexed_of_verify {m : SuperMap} {v : Version} (h : m.verifyVersion v = .ok ⟨⟩) :
    SetsIndexed m v := by
  obtain ⟨⟨⟩, -, h⟩ := bind_eq_ok.mp h
  obtain ⟨floor, -, h⟩ := bind_eq_ok.mp h
  obtain ⟨⟨⟩, -, h⟩ := bind_eq_ok.mp h
  obtain ⟨cursor, henemies, h⟩ := bind_eq_ok.mp h
  rw [bind_check_eq_ok_iff] at h
  exact setsIndexed_of_loop henemies (of_decide_eq_true h.1)

/-- A super map as it is made, in the state in which its own checks pass. -/
structure Sound (m : SuperMap) : Prop where
  linked : Linked m
  objectIds : ∀ (k : Nat) (o : Object), m.objects[k]? = some o → o.superId = k
  enemyIds : ∀ (k : Nat) (e : Enemy), m.enemies[k]? = some e → EnemyNumbered m.enemies k e
  eventIds : ∀ (k : Nat) (e : Event), m.events[k]? = some e → e.superId = k
  sets : (m.enemySets.length : Int) = headCount m.enemies m.enemies.length
  versions : ∀ v ∈ allNonPatchVersions, VersionIndexed m v
  versionSets : ∀ v ∈ allNonPatchVersions, SetsIndexed m v

theorem sound_of_verify {m : SuperMap} (hlinked : Linked m) (h : m.verify = .ok ⟨⟩) : Sound m := by
  obtain ⟨⟨⟩, hobjects, h⟩ := bind_eq_ok.mp h
  obtain ⟨⟨⟩, henemies, h⟩ := bind_eq_ok.mp h
  obtain ⟨⟨⟩, hevents, hversions⟩ := bind_eq_ok.mp h
  obtain ⟨hsets, hnumbered⟩ := verifyEnemies_spec hlinked.headFirst henemies
  exact ⟨hlinked, verifySuperIds_eq_ok_iff.mp hobjects, hnumbered, verifySuperIds_eq_ok_iff.mp hevents,
    hsets, fun v hv => versionIndexed_of_verify (forM_eq_ok_iff.mp hversions v hv),
    fun v hv => setsIndexed_of_verify (forM_eq_ok_iff.mp hversions v hv)⟩

end HuntersGuild.SuperMapLinks
