import HuntersGuild.MapStateEnemies
import Mathlib.Tactic.IntervalCases

/-!
Looking up the heads of enemy sets by the numbers of their sets.

The lookup takes the number of a set for a place in the list of enemies, which is
right as long as there are no children among the enemies.
-/

namespace HuntersGuild.EnemySetLookups

open HuntersGuild.ExceptionRules
open HuntersGuild.HeadCounts
open HuntersGuild.Items (Version)
open HuntersGuild.MapStateEnemies
open HuntersGuild.MapStates
open HuntersGuild.SuperMapLinks
open HuntersGuild.SuperMaps

section

variable (maps : Pointer → SuperMap) (v : Version) (ms : MapState)

/-- The first number that a version has for a set on a floor. -/
def firstSet (floor : UInt8) : Nat :=
  ((ms.floorConfig floor).baseIndexesForVersion v).baseEnemySetIndex

/-- State `k` is that of the head of a set that exists in the version. -/
structure IsSetHead (k : Nat) (st : EnemyState) (ene : Enemy) : Prop where
  state : ms.enemyStates[k]? = some st
  enemy : enemyOf maps st.superEne = .ok ene
  head : ene.childIndex = 0
  exists_in : (ene.version v).relativeEnemyIndex ≠ 0xFFFF

/-- A head is found by the number of its set. -/
def Found (st : EnemyState) (ene : Enemy) : Prop :=
  ∃ index, setIndexForEnemyState maps v st ms = .ok index ∧
    enemyStateForSetIndex maps v ene.floor index ms = .ok st

/-- The numbers of the sets of a floor. -/
def InFloorRange (floor : UInt8) (index : UInt16) : Prop :=
  ∃ m, (ms.floorConfig floor).superMap = some m ∧ firstSet v ms floor ≤ index.toNat ∧
    index.toNat < firstSet v ms floor + ((maps m).version v).enemySets.length

/-- What a lookup by the number of a set is to do. -/
structure LookupsRight : Prop where
  found : ∀ k st ene, IsSetHead maps v ms k st ene → Found maps v ms st ene
  throws : ∀ floor index, ¬ InFloorRange maps v ms floor index →
    ∃ e, enemyStateForSetIndex maps v floor index ms = .error e

/-- No child comes before a head, neither among all enemies nor among those of the
version on the floor, and the number of its set is not too large. -/
structure Aligned (k : Nat) (ene : Enemy) : Prop where
  states : ∀ i < k, ∀ st, ms.enemyStates[i]? = some st → isHead maps st.superEne
  list : (ene.version v).relativeEnemyIndex = (ene.version v).relativeSetIndex
  fits : firstSet v ms ene.floor + (ene.version v).relativeSetIndex.toNat < 0x10000

/-- The version has no more enemies on the floor than sets, or no numbers behind these. -/
def NoSurplus (floor : UInt8) : Prop :=
  ∀ m, (ms.floorConfig floor).superMap = some m →
    ((maps m).version v).enemies.length ≤ ((maps m).version v).enemySets.length ∨
      0x10000 ≤ firstSet v ms floor + ((maps m).version v).enemySets.length

end

variable {maps : Pointer → SuperMap} {v : Version} {ms : MapState} {refs : List EntityRef}
  {floor : UInt8} {m : Pointer} {p : Nat}

/-! Places of states. -/

theorem enemyOf_eq_ok {ref : EntityRef} {ene : Enemy} :
    enemyOf maps ref = .ok ene ↔ (maps ref.map).enemies[ref.position]? = some ene := deref_eq_ok_iff

/-- The sets among the states up to those of a floor and some of its enemies. -/
theorem headsAmong_refs (hbuilt : Built maps ms refs) (hmap : (ms.floorConfig floor).superMap = some m)
    (hp : p ≤ (maps m).enemies.length) :
    headsAmong (isHead maps) refs ((ms.floorConfig floor).baseSuperIds.baseEnemyIndex + p) =
      (ms.floorConfig floor).baseSuperIds.baseEnemySetIndex + headCount (maps m).enemies p := by
  induction p with
  | zero => exact (hbuilt.based floor m hmap).sets.symm
  | succ p ih =>
      obtain ⟨ene, hene⟩ := exists_getElem? (Nat.lt_of_succ_le hp)
      have href := hbuilt.complete floor m hmap p (Nat.lt_of_succ_le hp)
      have hhead : isHead maps ⟨m, p⟩ = decide (ene.childIndex = 0) := isHeadAt_of_some hene
      rw [← Nat.add_assoc, headsAmong_succ href, ih (Nat.le_of_succ_le hp), headCount_succ hene, hhead]
      simp only [decide_eq_true_eq, Nat.add_assoc]

theorem enemyStateForSetIndex_of_lt {index : UInt16} (h : index.toNat < firstSet v ms floor) :
    enemyStateForSetIndex maps v floor index ms =
      .error (.runtimeError "enemy is not on the specified floor") := if_pos h

theorem enemyStateForSetIndex_of_le {index : UInt16} (h : firstSet v ms floor ≤ index.toNat) :
    enemyStateForSetIndex maps v floor index ms =
      stateOnFloor maps EntityBaseIndexes.baseEnemySetIndex EntitiesForVersion.enemies
        SuperMap.enemies Enemy.superSetId ms.enemyStates "there are no enemies on the specified floor"
        v (ms.floorConfig floor) index := if_neg (Nat.not_lt.mpr h)

/-- The lookup returns the state whose place is the number of the set. -/
theorem exists_lookup (hbuilt : Built maps ms refs) (hv : v ∈ allNonPatchVersions)
    (hmap : (ms.floorConfig floor).superMap = some m) {index : UInt16}
    (hle : firstSet v ms floor ≤ index.toNat)
    (hp : ((maps m).version v).enemies[index.toNat - firstSet v ms floor]? = some p) :
    ∃ i, i + 1 = headsAmong (isHead maps) refs
        ((ms.floorConfig floor).baseSuperIds.baseEnemyIndex + p + 1) ∧
      enemyStateForSetIndex maps v floor index ms = itemAt ms.enemyStates i := by
  have hsound := hbuilt.sound floor m hmap
  obtain ⟨ene, hene, -⟩ := (hsound.versions v hv).enemies _ p hp
  have hset := (hsound.enemyIds p ene hene).set
  have hlt : p + 1 ≤ (maps m).enemies.length := (List.getElem?_eq_some_iff.mp hene).1
  refine ⟨(ms.floorConfig floor).baseSuperIds.baseEnemySetIndex + ene.superSetId, ?_, ?_⟩
  · rw [Nat.add_assoc _ p 1, headsAmong_refs hbuilt hmap hlt]
    omega
  · rw [enemyStateForSetIndex_of_le hle, stateOnFloor, hmap]
    exact bind_of_ok (itemAt_eq_ok_iff.mpr hp) (bind_of_ok (deref_eq_ok_iff.mpr hene) rfl)

theorem length_refs (hbuilt : Built maps ms refs) : refs.length = ms.enemyStates.length := by
  rw [← hbuilt.enemies, List.length_map]

/-- What is known of the head of a set that a version has. -/
structure Located (maps : Pointer → SuperMap) (v : Version) (ms : MapState) (k : Nat) (st : EnemyState)
    (ene : Enemy) : Prop where
  eId : st.eId = k
  enemy : (maps st.superEne.map).enemies[st.superEne.position]? = some ene
  superMap : (ms.floorConfig ene.floor).superMap = some st.superEne.map
  place : (ms.floorConfig ene.floor).baseSuperIds.baseEnemyIndex + st.superEne.position = k
  listed : ((maps st.superEne.map).version v).enemies[(ene.version v).relativeEnemyIndex.toNat]? =
    some st.superEne.position
  isHead : isHeadAt (maps st.superEne.map) st.superEne.position = true
  setIndex : (ene.version v).relativeSetIndex.toNat =
    headsAmong (isHeadAt (maps st.superEne.map)) ((maps st.superEne.map).version v).enemies
      (ene.version v).relativeEnemyIndex.toNat

theorem IsSetHead.located (hbuilt : Built maps ms refs) (hv : v ∈ allNonPatchVersions) {k : Nat}
    {st : EnemyState} {ene : Enemy} (h : IsSetHead maps v ms k st ene) :
    Located maps v ms k st ene := by
  obtain ⟨hid, ene', hene, hmap, hplace⟩ := hbuilt.numbered k st h.state
  obtain rfl : ene' = ene := Option.some.inj (hene.symm.trans (enemyOf_eq_ok.mp h.enemy))
  have hsound := hbuilt.sound _ _ hmap
  have hlisted := hsound.linked.enemies v _ _ hene h.exists_in
  have hhead : isHeadAt (maps st.superEne.map) st.superEne.position = true :=
    (isHeadAt_of_some hene).trans (decide_eq_true h.head)
  refine ⟨hid, hene, hmap, hplace, hlisted, hhead, ?_⟩
  have hset := (hsound.versionSets v hv).setIndex _ _ _ hlisted hene
  rw [headsAmong_succ_of_head hlisted hhead] at hset
  exact Nat.succ.inj hset

theorem Located.setIndex_le {k : Nat} {st : EnemyState} {ene : Enemy} (h : Located maps v ms k st ene) :
    (ene.version v).relativeSetIndex.toNat ≤ (ene.version v).relativeEnemyIndex.toNat := by
  rw [h.setIndex]
  exact headsAmong_le

theorem IsSetHead.index_lt {k : Nat} {st : EnemyState} {ene : Enemy} (h : IsSetHead maps v ms k st ene) :
    (ene.version v).relativeEnemyIndex.toNat < 0xFFFF := by
  have hlt := (ene.version v).relativeEnemyIndex.toNat_lt
  have hne : (ene.version v).relativeEnemyIndex.toNat ≠ 0xFFFF :=
    fun heq => h.exists_in (UInt16.toNat_inj.mp heq)
  omega

theorem setIndexForEnemyState_eq (hbuilt : Built maps ms refs) (hv : v ∈ allNonPatchVersions)
    {k : Nat} {st : EnemyState} {ene : Enemy} (h : IsSetHead maps v ms k st ene) :
    setIndexForEnemyState maps v st ms =
      .ok (.ofNat ((ene.version v).relativeSetIndex.toNat + firstSet v ms ene.floor)) := by
  have hle := (h.located hbuilt hv).setIndex_le
  have hne : (ene.version v).relativeSetIndex ≠ 0xFFFF := by
    intro heq
    rw [heq] at hle
    exact Nat.not_lt.mpr hle h.index_lt
  refine bind_of_ok h.enemy ?_
  rw [indexOnFloor, if_neg hne]
  rfl

/-- A state is found at its own place. -/
theorem itemAt_eq_ok_iff_place (hbuilt : Built maps ms refs) {k i : Nat} {st : EnemyState}
    (hst : ms.enemyStates[k]? = some st) : itemAt ms.enemyStates i = .ok st ↔ i = k := by
  rw [itemAt_eq_ok_iff]
  constructor
  · intro hi
    rw [← (hbuilt.numbered i st hi).1, (hbuilt.numbered k st hst).1]
  · rintro rfl
    exact hst

theorem found_iff (hbuilt : Built maps ms refs) (hv : v ∈ allNonPatchVersions) {k : Nat}
    {st : EnemyState} {ene : Enemy} (h : IsSetHead maps v ms k st ene) :
    Found maps v ms st ene ↔
      firstSet v ms ene.floor + (ene.version v).relativeSetIndex.toNat < 0x10000 ∧
        ∃ q, ((maps st.superEne.map).version v).enemies[(ene.version v).relativeSetIndex.toNat]? =
            some q ∧
          headsAmong (isHead maps) refs
            ((ms.floorConfig ene.floor).baseSuperIds.baseEnemyIndex + q + 1) = k + 1 := by
  have hlocated := h.located hbuilt hv
  have hfound : Found maps v ms st ene ↔ enemyStateForSetIndex maps v ene.floor
      (.ofNat ((ene.version v).relativeSetIndex.toNat + firstSet v ms ene.floor)) ms = .ok st := by
    rw [Found, setIndexForEnemyState_eq hbuilt hv h]
    simp
  rw [hfound]
  by_cases hfits : firstSet v ms ene.floor + (ene.version v).relativeSetIndex.toNat < 0x10000
  · have hindex : (UInt16.ofNat ((ene.version v).relativeSetIndex.toNat +
        firstSet v ms ene.floor)).toNat =
          (ene.version v).relativeSetIndex.toNat + firstSet v ms ene.floor :=
      UInt16.toNat_ofNat_of_lt' (by rw [Nat.add_comm]; exact hfits)
    have hlength := (List.getElem?_eq_some_iff.mp hlocated.listed).1
    obtain ⟨q, hq⟩ := exists_getElem? (Nat.lt_of_le_of_lt hlocated.setIndex_le hlength)
    have hplace := hq
    rw [← Nat.add_sub_cancel (ene.version v).relativeSetIndex.toNat (firstSet v ms ene.floor),
      ← hindex] at hplace
    obtain ⟨i, hi, hlookup⟩ := exists_lookup hbuilt hv hlocated.superMap
      (by rw [hindex]; exact Nat.le_add_left _ _) hplace
    rw [hlookup, itemAt_eq_ok_iff_place hbuilt h.state]
    constructor
    · rintro rfl
      exact ⟨hfits, q, hq, hi.symm⟩
    · rintro ⟨-, q', hq', hcount⟩
      obtain rfl : q = q' := Option.some.inj (hq.symm.trans hq')
      exact Nat.succ.inj (hi.trans hcount)
  · -- the number is taken for one of an earlier floor
    have hlt : (UInt16.ofNat ((ene.version v).relativeSetIndex.toNat +
        firstSet v ms ene.floor)).toNat < firstSet v ms ene.floor := by
      have hset := (ene.version v).relativeSetIndex.toNat_lt
      rw [UInt16.toNat_ofNat']
      omega
    rw [enemyStateForSetIndex_of_lt hlt]
    constructor
    · nofun
    · exact fun hright => absurd hright.1 hfits

/-- A head in the list of a version has a state. -/
theorem exists_isSetHead (hbuilt : Built maps ms refs) (hv : v ∈ allNonPatchVersions)
    (hmap : (ms.floorConfig floor).superMap = some m) {i : Nat}
    (hp : ((maps m).version v).enemies[i]? = some p) (hhead : isHeadAt (maps m) p = true)
    (hi : i < 0xFFFF) :
    ∃ st ene, IsSetHead maps v ms ((ms.floorConfig floor).baseSuperIds.baseEnemyIndex + p) st ene ∧
      st.superEne = ⟨m, p⟩ ∧ (ene.version v).relativeEnemyIndex.toNat = i := by
  obtain ⟨ene, hene, hindex⟩ := ((hbuilt.sound floor m hmap).versions v hv).enemies i p hp
  change (ene.version v).relativeEnemyIndex.toNat = i at hindex
  have href := hbuilt.complete floor m hmap p (List.getElem?_eq_some_iff.mp hene).1
  rw [← hbuilt.enemies, List.getElem?_map, Option.map_eq_some_iff] at href
  obtain ⟨st, hst, hsuper⟩ := href
  rw [isHeadAt_of_some hene] at hhead
  refine ⟨st, ene, ⟨hst, ?_, of_decide_eq_true hhead, ?_⟩, hsuper, hindex⟩
  · rw [enemyOf_eq_ok, hsuper]
    exact hene
  · intro heq
    have heq : (ene.version v).relativeEnemyIndex.toNat = 0xFFFF := congrArg UInt16.toNat heq
    omega

/-- All the states up to a head are of heads when there are as many sets as states. -/
theorem states_of_headsAmong (hbuilt : Built maps ms refs) {k : Nat} {st : EnemyState}
    (hst : ms.enemyStates[k]? = some st) :
    headsAmong (isHead maps) refs (k + 1) = k + 1 ↔
      isHead maps st.superEne = true ∧
        ∀ i < k, ∀ st, ms.enemyStates[i]? = some st → isHead maps st.superEne = true := by
  have hlength : k + 1 ≤ refs.length := by
    rw [length_refs hbuilt]
    exact (List.getElem?_eq_some_iff.mp hst).1
  have hrefs : ∀ (i : Nat) (st : EnemyState), ms.enemyStates[i]? = some st →
      refs[i]? = some st.superEne := by
    intro i st hst
    rw [← hbuilt.enemies, List.getElem?_map, hst]
    rfl
  rw [headsAmong_eq_iff hlength]
  constructor
  · intro h
    exact ⟨h k (Nat.lt_succ_self k) _ (hrefs k st hst),
      fun i hi st hst => h i (Nat.lt_succ_of_lt hi) _ (hrefs i st hst)⟩
  · rintro ⟨hlast, hbefore⟩ i hi ref href
    rw [← hbuilt.enemies, List.getElem?_map, Option.map_eq_some_iff] at href
    obtain ⟨st', hst', rfl⟩ := href
    rcases Nat.lt_succ_iff_lt_or_eq.mp hi with hlt | rfl
    · exact hbefore i hlt st' hst'
    · exact Option.some.inj (hst.symm.trans hst') ▸ hlast

theorem Aligned.found (hbuilt : Built maps ms refs) (hv : v ∈ allNonPatchVersions) {k : Nat}
    {st : EnemyState} {ene : Enemy} (h : IsSetHead maps v ms k st ene)
    (haligned : Aligned maps v ms k ene) : Found maps v ms st ene := by
  have hlocated := h.located hbuilt hv
  refine (found_iff hbuilt hv h).mpr ⟨haligned.fits, st.superEne.position, ?_, ?_⟩
  · rw [← haligned.list]
    exact hlocated.listed
  · rw [hlocated.place]
    exact (states_of_headsAmong hbuilt h.state).mpr ⟨hlocated.isHead, haligned.states⟩

section

variable (hbuilt : Built maps ms refs) (hv : v ∈ allNonPatchVersions)
  (hall : ∀ k st ene, IsSetHead maps v ms k st ene → Found maps v ms st ene)

include hbuilt hv hall

/-- What it means for a head in the list of a version to be found. -/
theorem exists_found (hmap : (ms.floorConfig floor).superMap = some m) {i : Nat}
    (hp : ((maps m).version v).enemies[i]? = some p) (hhead : isHeadAt (maps m) p = true)
    (hi : i < 0xFFFF) :
    ∃ q, ((maps m).version v).enemies[headsAmong (isHeadAt (maps m))
        ((maps m).version v).enemies i]? = some q ∧
      headsAmong (isHead maps) refs
          ((ms.floorConfig floor).baseSuperIds.baseEnemyIndex + q + 1) =
        (ms.floorConfig floor).baseSuperIds.baseEnemyIndex + p + 1 := by
  obtain ⟨st, ene, hset, hsuper, hindex⟩ := exists_isSetHead hbuilt hv hmap hp hhead hi
  have hlocated := hset.located hbuilt hv
  obtain ⟨-, q, hq, hcount⟩ := (found_iff hbuilt hv hset).mp (hall _ _ _ hset)
  have hplace := hlocated.place
  rw [hlocated.setIndex, hindex] at hq
  rw [hsuper] at hq hplace
  refine ⟨q, hq, ?_⟩
  rw [← Nat.add_right_cancel hplace]
  exact hcount.trans (congrArg (· + 1) hplace.symm)

/-- When every head of a version is found, no child is listed before a head: the next
head behind the first child would be taken for the one that the child belongs to. -/
theorem headsAmong_eq (hmap : (ms.floorConfig floor).superMap = some m) {j : Nat}
    (hp : ((maps m).version v).enemies[j]? = some p) (hhead : isHeadAt (maps m) p = true)
    (hj : j < 0xFFFF) :
    headsAmong (isHeadAt (maps m)) ((maps m).version v).enemies j = j := by
  have hsound := hbuilt.sound floor m hmap
  by_contra hne
  obtain ⟨i, hi, hfirst, child, hchild, hother⟩ :=
    exists_first_other (Nat.le_of_lt (List.getElem?_eq_some_iff.mp hp).1) hne
  obtain ⟨childEne, hchildEne, -⟩ := (hsound.versions v hv).enemies i child hchild
  have hsetIndex := (hsound.versionSets v hv).setIndex i child childEne hchild hchildEne
  rw [headsAmong_succ_of_other hchild hother, hfirst] at hsetIndex
  cases i with
  | zero => exact Nat.succ_ne_zero _ hsetIndex
  | succ i =>
      have hnot : childEne.childIndex ≠ 0 := by
        rw [isHeadAt_of_some hchildEne] at hother
        exact of_decide_eq_false hother
      obtain ⟨parent, hparent, rfl⟩ := hsound.linked.children v i child childEne hchild hchildEne hnot
      have hparentHead : isHeadAt (maps m) parent = true :=
        (headsAmong_eq_iff (Nat.le_of_lt (List.getElem?_eq_some_iff.mp hchild).1)).mp hfirst i
          (Nat.lt_succ_self i) parent hparent
      have hbefore : headsAmong (isHeadAt (maps m)) ((maps m).version v).enemies i = i := by
        rw [headsAmong_succ_of_head hparent hparentHead] at hfirst
        exact Nat.succ.inj hfirst
      -- the parent is found at its own place
      obtain ⟨q, hq, hcount⟩ := exists_found hbuilt hv hall hmap hparent hparentHead (by omega)
      rw [hbefore] at hq
      obtain rfl : parent = q := Option.some.inj (hparent.symm.trans hq)
      -- and so would be the next head
      obtain ⟨j', hle, hlt, hsets, next, hnext, hnextHead⟩ :=
        exists_next_head hp hhead (Nat.le_of_lt hi)
      obtain ⟨q', hq', hcount'⟩ := exists_found hbuilt hv hall hmap hnext hnextHead (by omega)
      rw [hsets, hfirst] at hq'
      obtain rfl : parent + 1 = q' := Option.some.inj (hchild.symm.trans hq')
      have href := hbuilt.complete floor m hmap (parent + 1) (List.getElem?_eq_some_iff.mp hchildEne).1
      have hotherRef : isHead maps ⟨m, parent + 1⟩ = false := hother
      rw [headsAmong_succ_of_other href hotherRef, ← Nat.add_assoc, hcount] at hcount'
      obtain rfl : parent = next := Nat.add_left_cancel (Nat.succ.inj hcount')
      obtain rfl : i = j' := (hsound.versions v hv).enemies.injective hparent hnext
      exact Nat.not_succ_le_self i hle

theorem aligned_of_found {k : Nat} {st : EnemyState} {ene : Enemy}
    (h : IsSetHead maps v ms k st ene) : Aligned maps v ms k ene := by
  have hlocated := h.located hbuilt hv
  obtain ⟨hfits, q, hq, hcount⟩ := (found_iff hbuilt hv h).mp (hall k st ene h)
  have hlist := headsAmong_eq hbuilt hv hall hlocated.superMap hlocated.listed hlocated.isHead
    h.index_lt
  rw [← hlocated.setIndex] at hlist
  rw [hlist, hlocated.listed] at hq
  rw [← Option.some.inj hq, hlocated.place] at hcount
  exact ⟨((states_of_headsAmong hbuilt h.state).mp hcount).2, UInt16.toNat_inj.mp hlist.symm, hfits⟩

end

/-! Numbers outside of a floor. -/

theorem exists_ok (hbuilt : Built maps ms refs) (hv : v ∈ allNonPatchVersions)
    (hmap : (ms.floorConfig floor).superMap = some m) {index : UInt16}
    (hle : firstSet v ms floor ≤ index.toNat)
    (hlt : index.toNat - firstSet v ms floor < ((maps m).version v).enemies.length) :
    ∃ st, enemyStateForSetIndex maps v floor index ms = .ok st := by
  obtain ⟨p, hp⟩ := exists_getElem? hlt
  obtain ⟨i, hi, hlookup⟩ := exists_lookup hbuilt hv hmap hle hp
  obtain ⟨ene, hene, -⟩ := ((hbuilt.sound floor m hmap).versions v hv).enemies _ p hp
  have href := hbuilt.complete floor m hmap p (List.getElem?_eq_some_iff.mp hene).1
  have hlength := (List.getElem?_eq_some_iff.mp href).1
  have hheads : headsAmong (isHead maps) refs
      ((ms.floorConfig floor).baseSuperIds.baseEnemyIndex + p + 1) ≤ _ := headsAmong_le
  rw [length_refs hbuilt] at hlength
  obtain ⟨st, hst⟩ := exists_getElem? (by omega : i < ms.enemyStates.length)
  exact ⟨st, hlookup.trans (itemAt_eq_ok_iff.mpr hst)⟩

theorem throws_iff (hbuilt : Built maps ms refs) (hv : v ∈ allNonPatchVersions) :
    (∀ index, ¬ InFloorRange maps v ms floor index →
        ∃ e, enemyStateForSetIndex maps v floor index ms = .error e) ↔
      NoSurplus maps v ms floor := by
  constructor
  · intro h m hmap
    by_contra hsurplus
    rw [not_or, Nat.not_le, Nat.not_le] at hsurplus
    obtain ⟨hmore, hfits⟩ := hsurplus
    -- the first number behind those of the sets
    have hindex : (UInt16.ofNat (firstSet v ms floor + ((maps m).version v).enemySets.length)).toNat =
        firstSet v ms floor + ((maps m).version v).enemySets.length :=
      UInt16.toNat_ofNat_of_lt' hfits
    have hout : ¬ InFloorRange maps v ms floor
        (.ofNat (firstSet v ms floor + ((maps m).version v).enemySets.length)) := by
      rintro ⟨m', hmap', -, hlt⟩
      obtain rfl : m = m' := Option.some.inj (hmap.symm.trans hmap')
      rw [hindex] at hlt
      exact Nat.lt_irrefl _ hlt
    obtain ⟨e, herror⟩ := h _ hout
    obtain ⟨st, hok⟩ := exists_ok hbuilt hv hmap (by rw [hindex]; exact Nat.le_add_right _ _)
      (by rw [hindex, Nat.add_sub_cancel_left]; exact hmore)
    rw [hok] at herror
    cases herror
  · intro h index hout
    by_cases hlt : index.toNat < firstSet v ms floor
    · exact ⟨_, enemyStateForSetIndex_of_lt hlt⟩
    · have hle := Nat.le_of_not_lt hlt
      rw [enemyStateForSetIndex_of_le hle, stateOnFloor]
      cases hmap : (ms.floorConfig floor).superMap with
      | none => exact ⟨_, rfl⟩
      | some m =>
          have hbehind : firstSet v ms floor + ((maps m).version v).enemySets.length ≤
              index.toNat := by
            by_contra hnot
            exact hout ⟨m, hmap, hle, Nat.lt_of_not_le hnot⟩
          have hend : ((maps m).version v).enemies[index.toNat - firstSet v ms floor]? = none := by
            apply List.getElem?_eq_none
            have hindex := index.toNat_lt
            rcases h m hmap with hshort | hlast <;> omega
          have hitem : itemAt ((maps m).version v).enemies (index.toNat - firstSet v ms floor) =
              .error (.outOfRange "at") := by
            rw [itemAt, hend]
          refine ⟨.outOfRange "at", ?_⟩
          change (itemAt ((maps m).version v).enemies (index.toNat - firstSet v ms floor) >>= _) = _
          rw [hitem]
          rfl

/-- The lookups of a version are right exactly when no child comes before a head, and
no floor has more enemies than sets. -/
theorem lookupsRight_iff (h : Made maps ms) (hv : v ∈ allNonPatchVersions) :
    LookupsRight maps v ms ↔
      (∀ k st ene, IsSetHead maps v ms k st ene → Aligned maps v ms k ene) ∧
        ∀ floor, NoSurplus maps v ms floor := by
  obtain ⟨refs, hbuilt⟩ := h.built
  constructor
  · intro hright
    exact ⟨fun k st ene hhead => aligned_of_found hbuilt hv hright.found hhead,
      fun floor => (throws_iff hbuilt hv).mp (hright.throws floor)⟩
  · rintro ⟨haligned, hsurplus⟩
    exact ⟨fun k st ene hhead => (haligned k st ene hhead).found hbuilt hv hhead,
      fun floor => (throws_iff hbuilt hv).mpr (hsurplus floor)⟩

/-! A quest with a set of two enemies before another set. -/

def sampleEnemy (superId superSetId : Nat) (childIndex setIndex : UInt16) : Enemy where
  defForVersion := fun _ => ⟨some ⟨0, superSetId⟩, .ofNat superId, setIndex⟩
  superId := superId
  superSetId := superSetId
  childIndex := childIndex
  aliasTargetEne := none
  type := .booma
  isDefaultRareV123 := false
  isDefaultRareBb := false
  floor := 0

def twoSets : SuperMap where
  floorToArea := .replicate 0x12 0
  objects := []
  enemies := [sampleEnemy 0 0 0 0, sampleEnemy 1 0 1 0, sampleEnemy 2 1 0 1]
  enemySets := [0, 2]
  events := []
  entitiesForVersion := fun _ => {
    objects := []
    objectFloorStartIndexes := .replicate 0x12 0
    enemies := [0, 1, 2]
    enemyFloorStartIndexes := 0 :: .replicate 0x11 3
    enemySets := [0, 2]
    enemySetFloorStartIndexes := 0 :: .replicate 0x11 2
    events := []
    eventFloorStartIndexes := .replicate 0x12 0 }

def noRareEnemies : RareEnemyRates := ⟨0, 0, 0, 0, 0, 0, 0, 0, 0⟩

def twoSetsState : MapState :=
  computeDynamicObjectBaseIndexes (fun _ => twoSets)
    { floorToArea := .replicate 0x12 0
      numFloors := 1
      floorConfigEntries := fun _ => { FloorConfig.empty with superMap := some 0 }
      difficulty := .normal
      event := 0
      randomSeed := 0
      bbRareRates := noRareEnemies
      objectStates := []
      enemyStates := [⟨none, ⟨0, 0⟩, 0, 0, 0, 0⟩, ⟨none, ⟨0, 1⟩, 1, 0, 0, 0⟩, ⟨none, ⟨0, 2⟩, 2, 1, 0, 0⟩]
      enemySetStates := [0, 2]
      eventStates := []
      bbRareEnemyIndexes := []
      dynamicObjBaseKId := 0
      dynamicObjBaseIndexForVersion := fun _ => 0
      rand := fun _ => 0 }

theorem made_twoSetsState :
    makeQuestMapState (fun _ => twoSets) .normal 0 0 noRareEnemies (fun _ => 0) 0 =
      .ok twoSetsState := by
  rfl

theorem valid_twoSets : Valid twoSets := by
  refine ⟨⟨fun _ => nofun, ?_, fun _ => nofun, ?_, ?_, ?_⟩, rfl⟩
  · intro v p ene hene _
    have hp : p < 3 := (List.getElem?_eq_some_iff.mp hene).1
    interval_cases p <;> obtain rfl := Option.some.inj hene <;> rfl
  · intro v i p ene hp _ _
    have hi : i + 1 < 3 := (List.getElem?_eq_some_iff.mp hp).1
    have hi : i < 2 := Nat.lt_of_succ_lt_succ hi
    interval_cases i <;> obtain rfl := Option.some.inj hp <;> exact ⟨_, rfl, rfl⟩
  · intro ene hene
    obtain rfl := Option.some.inj hene
    rfl
  · intro p ene t hene ht
    have hp : p < 3 := (List.getElem?_eq_some_iff.mp hene).1
    interval_cases p <;> obtain rfl := Option.some.inj hene <;> cases ht

theorem twoSets_lookupsRight_iff :
    LookupsRight (fun _ => twoSets) .bbV4 twoSetsState ↔
      (∀ k st ene, IsSetHead (fun _ => twoSets) .bbV4 twoSetsState k st ene →
        Aligned (fun _ => twoSets) .bbV4 twoSetsState k ene) ∧
      ∀ floor, NoSurplus (fun _ => twoSets) .bbV4 twoSetsState floor :=
  lookupsRight_iff (Made.quest valid_twoSets made_twoSetsState) (by decide)

/-- The second set is taken for the first one, and there is an enemy for a third. -/
theorem twoSets_not_lookupsRight :
    Made (fun _ => twoSets) twoSetsState ∧ ¬ LookupsRight (fun _ => twoSets) .bbV4 twoSetsState := by
  refine ⟨Made.quest valid_twoSets made_twoSetsState, ?_⟩
  intro h
  obtain ⟨index, hindex, hlookup⟩ := h.found 2 ⟨none, ⟨0, 2⟩, 2, 1, 0, 0⟩ (sampleEnemy 2 1 0 1)
    ⟨rfl, rfl, rfl, by decide⟩
  obtain rfl : 1 = index := Except.ok.inj hindex
  have hfirst : (⟨none, ⟨0, 0⟩, 0, 0, 0, 0⟩ : EnemyState) = ⟨none, ⟨0, 2⟩, 2, 1, 0, 0⟩ :=
    Except.ok.inj hlookup
  exact absurd hfirst (by decide)

end HuntersGuild.EnemySetLookups
