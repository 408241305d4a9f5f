import HuntersGuild.MapStateFloors

/-!
Which enemies turn out rare while their states are made. For Blue Burst the server
keeps a list of them.
-/

namespace HuntersGuild.MapStateRares

open HuntersGuild.CheckedLoops
open HuntersGuild.ExceptionRules
open HuntersGuild.Items (Version isV4)
open HuntersGuild.MapStates
open HuntersGuild.MapStateFloors
open HuntersGuild.SuperMapLinks
open HuntersGuild.SuperMaps

/-! Flags. -/

/-- The flag of a rare enemy in Blue Burst. -/
def bbFlag (st : EnemyState) : Bool := st.rareFlags.getLsbD (versionBit .bbV4)

theorem isRare_bbV4 (ene : Enemy) (st : EnemyState) :
    st.isRare .bbV4 ene = (bbFlag st || ene.isDefaultRareBb) := rfl

theorem getLsbD_shift (i j : Nat) (hj : j < 16) : (1#16 <<< i).getLsbD j = decide (j = i) := by
  rw [BitVec.getLsbD_shiftLeft, BitVec.getLsbD_one]
  by_cases heq : j = i
  · subst heq
    simp [hj]
  · rcases Nat.lt_or_gt_of_ne heq with hlt | hgt
    · simp [hlt, heq]
    · have hpos : 0 < j - i := Nat.sub_pos_of_lt hgt
      simp [heq, Nat.ne_of_gt hpos]

theorem versionBit_eq_iff {v : Version} : versionBit .bbV4 = versionBit v ↔ v = .bbV4 := by
  cases v <;> decide

theorem bbFlag_setRare (v : Version) (st : EnemyState) :
    bbFlag (st.setRare v) = (bbFlag st || decide (v = .bbV4)) := by
  rw [bbFlag, EnemyState.setRare, BitVec.getLsbD_or, getLsbD_shift _ _ (by decide)]
  simp only [versionBit_eq_iff]
  rfl

/-! One roll. -/

/-- The two states are of the same enemy. -/
structure SameEnemy (st st' : EnemyState) : Prop where
  superEne : st'.superEne = st.superEne
  eId : st'.eId = st.eId
  setId : st'.setId = st.setId

theorem SameEnemy.refl (st : EnemyState) : SameEnemy st st := ⟨rfl, rfl, rfl⟩

theorem SameEnemy.trans {st st' st'' : EnemyState} (h : SameEnemy st st') (h' : SameEnemy st' st'') :
    SameEnemy st st'' :=
  ⟨h'.superEne.trans h.superEne, h'.eId.trans h.eId, h'.setId.trans h.setId⟩

theorem sameEnemy_setRare (v : Version) (st : EnemyState) : SameEnemy st (st.setRare v) := ⟨rfl, rfl, rfl⟩

theorem sameEnemy_mericarand (v : Version) (st : EnemyState) :
    SameEnemy st (st.setMericarandVariantFlag v) := ⟨rfl, rfl, rfl⟩

variable {maps : Pointer → SuperMap} {ms : MapState} {fc : FloorConfig} {ene : Enemy} {type : EnemyType}
  {roll : RareRoll} {v : Version}

/-- A roll for another version changes neither the list nor the flag. -/
theorem exists_roll_other (hv : v ≠ .bbV4) : ∃ roll', rollForVersion maps ms fc ene type roll v = .ok roll' ∧
    SameEnemy roll.state roll'.state ∧ roll'.bbRareEnemyIndexes = roll.bbRareEnemyIndexes ∧
      bbFlag roll'.state = bbFlag roll.state := by
  have hflag (st : EnemyState) : bbFlag (st.setRare v) = bbFlag st := by
    rw [bbFlag_setRare, decide_eq_false hv, Bool.or_false]
  have hkept : SameEnemy roll.state roll.state ∧ roll.bbRareEnemyIndexes = roll.bbRareEnemyIndexes ∧
      bbFlag roll.state = bbFlag roll.state := ⟨.refl _, rfl, rfl⟩
  have hnot : ¬ isV4 v = true := fun h => hv (of_decide_eq_true h)
  dsimp only [rollForVersion]
  rw [if_pos hnot]
  split_ifs
  · exact ⟨roll, rfl, hkept⟩
  · exact ⟨roll, rfl, hkept⟩
  · exact ⟨_, rfl, (sameEnemy_setRare v _).trans (sameEnemy_mericarand v _), rfl, hflag _⟩
  · exact ⟨_, rfl, sameEnemy_setRare v _, rfl, hflag _⟩
  · exact ⟨roll, rfl, hkept⟩
  · exact ⟨_, rfl, sameEnemy_setRare v _, rfl, hflag _⟩
  · exact ⟨roll, rfl, hkept⟩
  · exact ⟨_, rfl, sameEnemy_setRare v _, rfl, hflag _⟩
  · exact ⟨roll, rfl, hkept⟩

/-- The number that is listed of an enemy, if it is rare by chance and the head of its
set. -/
def listed (fc : FloorConfig) (ene : Enemy) (st : EnemyState) : List Nat :=
  if bbFlag st = true ∧ ene.isDefaultRareBb = false ∧ ene.childIndex = 0 then
    [(UInt16.ofNat ((ene.version .bbV4).relativeEnemyIndex.toNat +
      (fc.baseIndexesForVersion .bbV4).baseEnemyIndex)).toNat]
  else
    []

/-- The parent of a child has its state already. -/
def HasParent (maps : Pointer → SuperMap) (ms : MapState) (ene : Enemy) (eId : Nat) : Prop :=
  ene.childIndex > 0 → ene.childIndex.toNat ≤ eId ∧ ∃ parent superEne,
    ms.enemyStates[eId - ene.childIndex.toNat]? = some parent ∧ enemyOf maps parent.superEne = .ok superEne

theorem exists_roll_bb (hparent : HasParent maps ms ene roll.state.eId) (hfresh : bbFlag roll.state = false) :
    ∃ roll', rollForVersion maps ms fc ene type roll .bbV4 = .ok roll' ∧ SameEnemy roll.state roll'.state ∧
      roll'.bbRareEnemyIndexes = roll.bbRareEnemyIndexes ++ listed fc ene roll'.state := by
  have hunlisted : listed fc ene roll.state = [] := by
    refine if_neg ?_
    rw [hfresh]
    exact fun h => nomatch h.1
  have hkept (roll' : RareRoll) (hstate : roll'.state = roll.state)
      (hlist : roll'.bbRareEnemyIndexes = roll.bbRareEnemyIndexes) :
      SameEnemy roll.state roll'.state ∧
        roll'.bbRareEnemyIndexes = roll.bbRareEnemyIndexes ++ listed fc ene roll'.state := by
    rw [hstate, hlist, hunlisted, List.append_nil]
    exact ⟨.refl _, rfl⟩
  have hv4 : isV4 .bbV4 = true := rfl
  have hset (st : EnemyState) : bbFlag (st.setRare .bbV4) = true := by
    rw [bbFlag_setRare]
    exact Bool.or_true _
  dsimp only [rollForVersion]
  rw [if_neg (not_not_intro hv4), if_pos hv4]
  by_cases hmissing : (ene.version .bbV4).relativeEnemyIndex = 0xFFFF
  · rw [if_pos hmissing]
    exact ⟨roll, rfl, hkept roll rfl rfl⟩
  rw [if_neg hmissing]
  by_cases hdefault : ene.isDefaultRareBb = true
  · rw [if_pos hdefault]
    exact ⟨roll, rfl, hkept roll rfl rfl⟩
  rw [if_neg hdefault]
  by_cases hchild : ene.childIndex > 0
  · obtain ⟨hle, parent, superEne, hlookup, hene⟩ := hparent hchild
    have hnot : ene.childIndex ≠ 0 := UInt16.pos_iff_ne_zero.mp hchild
    rw [if_pos hchild, if_neg (Nat.not_lt.mpr hle), itemAt_eq_ok_iff.mpr hlookup, ok_bind, hene, ok_bind]
    split_ifs
    · refine ⟨_, rfl, sameEnemy_setRare .bbV4 _, ?_⟩
      have hnone : listed fc ene (roll.state.setRare .bbV4) = [] := if_neg fun h => hnot h.2.2
      rw [hnone, List.append_nil]
    · exact ⟨roll, rfl, hkept roll rfl rfl⟩
  · have hhead : ene.childIndex = 0 := by
      by_contra hne
      exact hchild (UInt16.pos_iff_ne_zero.mpr hne)
    have hnew (st : EnemyState) (hflag : bbFlag st = true) : listed fc ene st = _ :=
      if_pos ⟨hflag, Bool.not_eq_true _ ▸ hdefault, hhead⟩
    rw [if_neg hchild]
    split_ifs
    · refine ⟨_, rfl, (sameEnemy_setRare .bbV4 _).trans (sameEnemy_mericarand .bbV4 _), ?_⟩
      exact congrArg _ (hnew _ (hset roll.state)).symm
    · refine ⟨_, rfl, sameEnemy_setRare .bbV4 _, ?_⟩
      exact congrArg _ (hnew _ (hset roll.state)).symm
    · exact ⟨_, rfl, hkept _ rfl rfl⟩
    · exact ⟨roll, rfl, hkept roll rfl rfl⟩

end HuntersGuild.MapStateRares
