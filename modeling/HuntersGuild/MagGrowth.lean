import HuntersGuild.CappedGrowth
import HuntersGuild.MagEvolutions
import Mathlib.Algebra.BigOperators.Fin

/-!
The growth of a mag by its food: the stats are capped counters, and the bounds
that the growth keeps.
-/

namespace HuntersGuild.MagGrowth

open HuntersGuild.ByteStreams
open HuntersGuild.CappedGrowth
open HuntersGuild.ItemEncoding
open HuntersGuild.ItemParameters
open HuntersGuild.ItemRoundTrip
open HuntersGuild.Items (ItemData data1_withByte)
open HuntersGuild.MagEvolutions
open HuntersGuild.MagFeeding
open HuntersGuild.StatefulPrograms

/-! ## The stats as counters -/

def statWord (k : Fin 4) : Fin 6 := ⟨k.val + 2, by omega⟩

/-- The four stats: defense, power, dexterity and mind. -/
def magStats (magItem : ItemData) : Fin 4 → ℕ := fun k => (data1w magItem (statWord k)).toNat

def withStats (stats : Fin 4 → ℕ) (magItem : ItemData) : ItemData :=
  let magItem := withData1w magItem 2 (.ofNat (stats 0))
  let magItem := withData1w magItem 3 (.ofNat (stats 1))
  let magItem := withData1w magItem 4 (.ofNat (stats 2))
  withData1w magItem 5 (.ofNat (stats 3))

theorem computeMagLevel_toNat (magItem : ItemData) :
    (computeMagLevel magItem).toNat = level 100 (magStats magItem) := by
  have hlt : ∀ k, (data1w magItem k).toNat < 65536 := fun k => (data1w magItem k).toNat_lt
  have h2 := hlt 2
  have h3 := hlt 3
  have h4 := hlt 4
  have h5 := hlt 5
  rw [level, Fin.sum_univ_four]
  change _ = (data1w magItem 2).toNat / 100 + (data1w magItem 3).toNat / 100 +
    (data1w magItem 4).toNat / 100 + (data1w magItem 5).toNat / 100
  simp only [computeMagLevel, UInt16.toNat_add, UInt16.toNat_div, UInt16.reduceToNat]
  omega

theorem data1w_withStats (stats : Fin 4 → ℕ) (magItem : ItemData) (k : Fin 4) :
    data1w (withStats stats magItem) (statWord k) = .ofNat (stats k) := by
  unfold withStats
  fin_cases k <;> simp [statWord]

theorem withStats_magStats (magItem : ItemData) : withStats (magStats magItem) magItem = magItem := by
  apply eq_of_views
  · simp [withStats]
  · intro j
    unfold withStats
    fin_cases j <;> simp [magStats, statWord]
  · intro j
    simp [withStats]

theorem withData1w_withStats (stats : Fin 4 → ℕ) (magItem : ItemData) (k : Fin 4) (n : ℕ) :
    withData1w (withStats stats magItem) (statWord k) (.ofNat n) =
      withStats (Function.update stats k n) magItem := by
  apply eq_of_views
  · simp [withStats]
  · intro j
    unfold withStats
    fin_cases k <;> fin_cases j <;> simp [statWord, Function.update]
  · intro j
    simp [withStats]

theorem magStats_withStats {stats : Fin 4 → ℕ} (h : level 100 stats ≤ 200) (magItem : ItemData) :
    magStats (withStats stats magItem) = stats := by
  funext k
  have hk := div_le_level 100 stats k
  rw [magStats, data1w_withStats, UInt16.toNat_ofNat_of_lt' (by
    change stats k < 65536
    omega)]

/-! ## The four updates -/

theorem ofInt_natCast (n : ℕ) : UInt16.ofInt n = UInt16.ofNat n := by
  have hmod : ((n : ℤ) % 2 ^ 16).toNat = n % 2 ^ 16 := by omega
  rw [UInt16.ofInt, hmod]
  exact UInt16.ofNat_mod_size

theorem ofNat_add_ofInt {a b : ℕ} {delta : ℤ} (h : (b : ℤ) = a + delta) :
    UInt16.ofNat a + UInt16.ofInt delta = UInt16.ofNat b := by
  rw [← ofInt_natCast, ← ofInt_natCast, ← UInt16.ofInt_add, h]

/-- What an update adds is what the capped change adds. -/
theorem changed_eq_add {level stat : ℕ} {delta : ℤ}
    (h : 0 < delta ∨ delta < 0 ∧ -delta < (stat % 100 : ℕ)) :
    (changed 100 200 level stat delta : ℤ) =
      stat + (if level = 200 ∧ (99 : ℤ) - (stat % 100 : ℕ) < delta then (99 : ℤ) - (stat % 100 : ℕ)
        else delta) := by
  unfold changed
  split_ifs <;> omega

theorem changed_eq_self {level stat : ℕ} {delta : ℤ}
    (h : ¬ (0 < delta ∨ delta < 0 ∧ -delta < (stat % 100 : ℕ))) :
    changed 100 200 level stat delta = stat := by
  unfold changed
  split_ifs <;> omega

theorem run_updateStat {stats : Fin 4 → ℕ} (hlevel : level 100 stats ≤ 200) (magItem : ItemData)
    (k : Fin 4) (delta : Int8) :
    (updateStat (statWord k) delta).run (withStats stats magItem) =
      .ok ⟨⟩ (withStats (change 100 200 stats k delta.toInt) magItem) := by
  have hstat : (data1w (withStats stats magItem) (statWord k)).toNat = stats k :=
    congrFun (magStats_withStats hlevel magItem) k
  have hexisting : (data1w (withStats stats magItem) (statWord k) % 100).toNat = stats k % 100 := by
    rw [UInt16.toNat_mod, hstat]
    rfl
  have hmagLevel : (computeMagLevel (withStats stats magItem)).toNat = level 100 stats := by
    rw [computeMagLevel_toNat, magStats_withStats hlevel]
  have hhigh : ¬ 200 < computeMagLevel (withStats stats magItem) := by
    rw [UInt16.lt_iff_toNat_lt, hmagLevel]
    exact Nat.not_lt.mpr hlevel
  have hcap : computeMagLevel (withStats stats magItem) = 200 ↔ level 100 stats = 200 := by
    rw [← UInt16.toNat_inj, hmagLevel]
    rfl
  unfold updateStat
  rw [run_get_bind]
  simp only [hexisting, Int8.lt_iff_toInt_lt, Int8.toInt_zero, hcap, if_neg hhigh]
  by_cases h : 0 < delta.toInt ∨ delta.toInt < 0 ∧ -delta.toInt < (stats k % 100 : ℕ)
  · rw [if_pos h, data1w_withStats, ofNat_add_ofInt (changed_eq_add h), withData1w_withStats]
    rfl
  · rw [if_neg h, change, changed_eq_self h, Function.update_eq_self]
    rfl

def changes (feedResult : MagFeedResult) : List (Fin 4 × ℤ) :=
  [(0, feedResult.def'.toInt), (1, feedResult.pow.toInt), (2, feedResult.dex.toInt),
    (3, feedResult.mind.toInt)]

/-- Each stat changes by at most one level. -/
def Moderate (feedResult : MagFeedResult) : Prop :=
  ∀ entry ∈ changes feedResult, -100 ≤ entry.2 ∧ entry.2 ≤ 100

/-- The mag that has grown by a feed result and has not evolved yet. -/
def fedMag (feedResult : MagFeedResult) (magItem : ItemData) : ItemData :=
  settled feedResult (withStats (changeAll 100 200 (changes feedResult) (magStats magItem)) magItem)

theorem level_changeAll_magStats_le {feedResult : MagFeedResult} (h : Moderate feedResult)
    {magItem : ItemData} (hlevel : computeMagLevel magItem ≤ 200) :
    level 100 (changeAll 100 200 (changes feedResult) (magStats magItem)) ≤ 200 := by
  apply level_changeAll_le (by decide)
  · rw [← computeMagLevel_toNat]
    exact UInt16.le_iff_toNat_le.mp hlevel
  · intro entry hentry
    exact (h entry hentry).2

theorem run_feed {feedResult : MagFeedResult} (h : Moderate feedResult) {magItem : ItemData}
    (hlevel : computeMagLevel magItem ≤ 200) :
    (feed feedResult).run magItem = .ok ⟨⟩ (fedMag feedResult magItem) := by
  have hstart : level 100 (magStats magItem) ≤ 200 := by
    rw [← computeMagLevel_toNat]
    exact UInt16.le_iff_toNat_le.mp hlevel
  have hstep : ∀ (stats : Fin 4 → ℕ) (entry : Fin 4 × ℤ), entry ∈ changes feedResult →
      level 100 stats ≤ 200 → level 100 (change 100 200 stats entry.1 entry.2) ≤ 200 :=
    fun stats entry hentry hstats =>
      level_change_le (by decide) hstats entry.1 (h entry hentry).2
  have hdef := hstep _ (0, feedResult.def'.toInt) (by simp [changes]) hstart
  have hpow := hstep _ (1, feedResult.pow.toInt) (by simp [changes]) hdef
  have hdex := hstep _ (2, feedResult.dex.toInt) (by simp [changes]) hpow
  have hmag := withStats_magStats magItem
  calc (feed feedResult).run magItem
      = (feed feedResult).run (withStats (magStats magItem) magItem) := by rw [hmag]
    _ = .ok ⟨⟩ (fedMag feedResult magItem) := by
        apply (run_bind_of_ok (run_updateStat hstart magItem 0 feedResult.def')).trans
        apply (run_bind_of_ok (run_updateStat hdef magItem 1 feedResult.pow)).trans
        apply (run_bind_of_ok (run_updateStat hpow magItem 2 feedResult.dex)).trans
        apply (run_bind_of_ok (run_updateStat hdex magItem 3 feedResult.mind)).trans
        rfl

/-! ## The bounds -/

/-- What feeding leaves of a mag. -/
structure WithinBounds (magItem fed : ItemData) : Prop where
  stats : ∀ k, magStats magItem k / 100 ≤ magStats fed k / 100
  level_le : computeMagLevel fed ≤ 200
  level_eq : fed.data1[2].toNat = (computeMagLevel fed).toNat
  synchro : data2 fed 0 ≤ 120
  iq : data2 fed 1 ≤ 200

/-- The same stats, level, synchro and IQ. -/
structure SameGrowth (x y : ItemData) : Prop where
  stats : magStats x = magStats y
  level : x.data1[2] = y.data1[2]
  synchro : data2 x 0 = data2 y 0
  iq : data2 x 1 = data2 y 1

theorem WithinBounds.of_sameGrowth {magItem x y : ItemData} (h : WithinBounds magItem x)
    (hxy : SameGrowth x y) : WithinBounds magItem y := by
  have hlevel : computeMagLevel y = computeMagLevel x := by
    rw [← UInt16.toNat_inj, computeMagLevel_toNat, computeMagLevel_toNat, hxy.stats]
  refine ⟨?_, ?_, ?_, ?_, ?_⟩
  · rw [← hxy.stats]
    exact h.stats
  · rw [hlevel]
    exact h.level_le
  · rw [hlevel, ← hxy.level]
    exact h.level_eq
  · rw [← hxy.synchro]
    exact h.synchro
  · rw [← hxy.iq]
    exact h.iq

theorem SameGrowth.trans {x y z : ItemData} (hxy : SameGrowth x y) (hyz : SameGrowth y z) :
    SameGrowth x z :=
  ⟨hxy.stats.trans hyz.stats, hxy.level.trans hyz.level, hxy.synchro.trans hyz.synchro,
    hxy.iq.trans hyz.iq⟩

theorem sameGrowth_withByte (magItem : ItemData) {z : Fin 12} (hz : z.val < 4) (h : z ≠ 2)
    (v : UInt8) : SameGrowth magItem (magItem.withByte z v) := by
  refine ⟨?_, ?_, rfl, rfl⟩
  · funext k
    have hword : z.val / 2 ≠ (statWord k).val := by
      simp only [statWord]
      omega
    exact congrArg UInt16.toNat (data1w_withByte magItem hword v).symm
  · exact ((data1_withByte magItem z v 2 (by decide)).trans (if_neg h)).symm

theorem sameGrowth_withData2 (magItem : ItemData) (v : UInt8) :
    SameGrowth magItem (withData2 magItem 2 v) := by
  refine ⟨rfl, rfl, ?_, ?_⟩
  · rw [data2_withData2, if_neg (by decide)]
  · rw [data2_withData2, if_neg (by decide)]

theorem sameGrowth_of_addMagPhotonBlast {magItem item : ItemData} {pbNum : UInt8}
    (h : addMagPhotonBlast magItem pbNum = .ok item) : SameGrowth magItem item := by
  rcases addMagPhotonBlast_shape h with rfl | ⟨pbNums, flags, rfl⟩
  · exact ⟨rfl, rfl, rfl, rfl⟩
  · exact (sameGrowth_withByte magItem (by decide) (by decide) pbNums).trans
      (sameGrowth_withData2 _ flags)

/-! What the last of the updates leaves. -/

section Settled

variable (feedResult : MagFeedResult) (data : ItemData)

theorem magStats_settled : magStats (settled feedResult data) = magStats data := by
  funext k
  have hbyte : (2 : Fin 12).val / 2 ≠ (statWord k).val := by
    simp only [statWord]
    change 1 ≠ k.val + 2
    omega
  exact congrArg UInt16.toNat (data1w_withByte _ hbyte _)

theorem data1_settled_two :
    (settled feedResult data).data1[2] = (computeMagLevel data).toUInt8 := by
  apply (data1_withByte _ 2 _ 2 (by decide)).trans
  exact if_pos rfl

theorem clamp_toUInt8_le (n : ℤ) (bound : UInt8) :
    (max 0 (min n bound.toNat)).toNat.toUInt8 ≤ bound := by
  have hbound := bound.toNat_lt
  have hle : (max 0 (min n bound.toNat)).toNat ≤ bound.toNat := by omega
  rw [UInt8.le_iff_toNat_le, UInt8.toNat_ofNat_of_lt' (lt_of_le_of_lt hle hbound)]
  exact hle

theorem data2_settled_zero_le : data2 (settled feedResult data) 0 ≤ 120 := by
  change data2 (withData2 (withData2 data 0 _) 1 _) 0 ≤ 120
  rw [data2_withData2, if_neg (by decide), data2_withData2, if_pos rfl]
  exact clamp_toUInt8_le _ 120

theorem data2_settled_one_le : data2 (settled feedResult data) 1 ≤ 200 := by
  change data2 (withData2 (withData2 data 0 _) 1 _) 1 ≤ 200
  rw [data2_withData2, if_pos rfl]
  exact clamp_toUInt8_le _ 200

theorem data2_settled_two : data2 (settled feedResult data) 2 = data2 data 2 := by
  change data2 (withData2 (withData2 data 0 _) 1 _) 2 = _
  rw [data2_withData2, if_neg (by decide), data2_withData2, if_neg (by decide)]

theorem data1_settled {z : Nat} (hz : z < 12) (h : z ≠ 2) :
    (settled feedResult data).data1[z] = data.data1[z] := by
  apply (data1_withByte _ 2 _ z hz).trans
  rw [if_neg (by rw [Fin.ext_iff]; exact h.symm)]
  rfl

end Settled

/-- Feeding changes the number and the photon blasts of a mag only through its
evolution. -/
theorem data1_fedMag (feedResult : MagFeedResult) (magItem : ItemData) {z : Nat} (hz : z < 4)
    (h : z ≠ 2) : (fedMag feedResult magItem).data1[z] = magItem.data1[z] := by
  have hword : ∀ k : Fin 6, 2 ≤ k.val → z / 2 ≠ k.val := fun k hk => by omega
  rw [fedMag, data1_settled _ _ (by omega) h]
  unfold withStats
  dsimp only
  rw [data1_withData1w _ (hword 5 (by decide)), data1_withData1w _ (hword 4 (by decide)),
    data1_withData1w _ (hword 3 (by decide)), data1_withData1w _ (hword 2 (by decide))]

theorem data2_fedMag_two (feedResult : MagFeedResult) (magItem : ItemData) :
    data2 (fedMag feedResult magItem) 2 = data2 magItem 2 := by
  rw [fedMag, data2_settled_two]
  simp [withStats]

theorem photonBlastFits_congr {x y : ItemData} (h1 : x.data1[3] = y.data1[3])
    (h2 : data2 x 2 = data2 y 2) (pbNum : UInt8) :
    PhotonBlastFits x pbNum ↔ PhotonBlastFits y pbNum := by
  simp only [PhotonBlastFits, lowerBlasts, centerBlast, rightBlast, h1, h2]

theorem withinBounds_fedMag {feedResult : MagFeedResult} (h : Moderate feedResult)
    {magItem : ItemData} (hlevel : computeMagLevel magItem ≤ 200) :
    WithinBounds magItem (fedMag feedResult magItem) := by
  have hgrown := level_changeAll_magStats_le h hlevel
  have hstats : magStats (fedMag feedResult magItem) =
      changeAll 100 200 (changes feedResult) (magStats magItem) :=
    (magStats_settled _ _).trans (magStats_withStats hgrown magItem)
  have hfed : (computeMagLevel (fedMag feedResult magItem)).toNat =
      level 100 (changeAll 100 200 (changes feedResult) (magStats magItem)) := by
    rw [computeMagLevel_toNat, hstats]
  refine ⟨?_, ?_, ?_, data2_settled_zero_le _ _, data2_settled_one_le _ _⟩
  · intro k
    rw [hstats]
    exact div_le_changeAll_div (by decide) _ _ k
  · rw [UInt16.le_iff_toNat_le, hfed]
    exact hgrown
  · rw [fedMag, data1_settled_two, UInt16.toNat_toUInt8, computeMagLevel_toNat,
      magStats_withStats hgrown, ← fedMag, hfed]
    exact Nat.mod_eq_of_lt (lt_of_le_of_lt hgrown (by decide))

end HuntersGuild.MagGrowth
