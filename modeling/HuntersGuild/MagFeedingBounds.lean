import HuntersGuild.MagGrowth

/-!
Runs that feed a mag, and the exceptions that come when the mag has already
changed.
-/

namespace HuntersGuild.MagFeedingBounds

open HuntersGuild.ByteStreams
open HuntersGuild.ItemEncoding
open HuntersGuild.ItemParameters
open HuntersGuild.ItemRoundTrip
open HuntersGuild.Items (ItemData data1_withByte)
open HuntersGuild.MagEvolutions
open HuntersGuild.MagFeeding
open HuntersGuild.MagGrowth
open HuntersGuild.StatefulPrograms

/-! ## Runs -/

/-- The food, the mag and its feed result are known, and the lookups leave
`parsed'`. -/
def Finds (tables : FeedTables) (fedItem magItem : ItemData) (parsed : Parsed)
    (feedResult : MagFeedResult) (parsed' : Parsed) : Prop :=
  ∃ resultIndex magDef, resultIndexForFedItem fedItem.primaryIdentifier = .ok resultIndex ∧
    (tables.items.getMag magItem.data1[1]).run parsed = .ok magDef parsed' ∧
    tables.getMagFeedResult magDef.feedTable.toUInt8 resultIndex = .ok feedResult

section Runs

variable {tables : FeedTables} {fedItem magItem fed : ItemData} {charClass sectionId : UInt8}
  {versionHasRareMags : Bool} {parsed : Parsed}

theorem Finds.unique {feedResult feedResult' : MagFeedResult} {parsed' parsed'' : Parsed}
    (h : Finds tables fedItem magItem parsed feedResult parsed')
    (h' : Finds tables fedItem magItem parsed feedResult' parsed'') :
    feedResult = feedResult' ∧ parsed' = parsed'' := by
  obtain ⟨resultIndex, magDef, hindex, hdef, hresult⟩ := h
  obtain ⟨resultIndex', magDef', hindex', hdef', hresult'⟩ := h'
  rw [hindex] at hindex'
  cases hindex'
  rw [hdef] at hdef'
  cases hdef'
  rw [hresult] at hresult'
  cases hresult'
  exact ⟨rfl, rfl⟩

theorem run_onItems_ok {α : Type} {x : Lookup α} {a : α} {parsed' : Parsed}
    (h : x.run parsed = .ok a parsed') :
    (onItems x).run ⟨parsed, magItem⟩ = .ok a ⟨parsed', magItem⟩ := by
  rw [onItems, run_zoom, h]

theorem run_onItems_error {α : Type} {x : Lookup α} {e : Exception} {parsed' : Parsed}
    (h : x.run parsed = .error e parsed') :
    (onItems x).run ⟨parsed, magItem⟩ = .error e ⟨parsed', magItem⟩ := by
  rw [onItems, run_zoom, h]

theorem run_onMag_ok {α : Type} {x : EStateM Exception ItemData α} {a : α}
    (h : x.run magItem = .ok a fed) :
    (onMag x).run ⟨parsed, magItem⟩ = .ok a ⟨parsed, fed⟩ := by
  rw [onMag, run_zoom, h]

theorem run_onMag_modify (f : ItemData → ItemData) :
    (onMag (modify f)).run ⟨parsed, magItem⟩ = .ok ⟨⟩ ⟨parsed, f magItem⟩ := rfl

theorem run_applyMagFeedResult_of_finds {feedResult : MagFeedResult} {parsed' : Parsed}
    (hfinds : Finds tables fedItem magItem parsed feedResult parsed')
    (hlevel : computeMagLevel magItem ≤ 200) (hmoderate : Moderate feedResult) :
    (applyMagFeedResult tables fedItem charClass sectionId versionHasRareMags).run
        ⟨parsed, magItem⟩ =
      (evolve tables charClass sectionId versionHasRareMags).run
        ⟨parsed', fedMag feedResult magItem⟩ := by
  obtain ⟨resultIndex, magDef, hindex, hdef, hresult⟩ := hfinds
  unfold applyMagFeedResult
  rw [hindex, run_ok_bind, run_get_bind]
  dsimp only
  rw [run_bind_of_ok (run_onItems_ok hdef), hresult, run_ok_bind,
    run_bind_of_ok (run_onMag_ok (run_feed hmoderate hlevel))]

/-- A lookup that throws leaves the mag as it is. -/
theorem run_applyMagFeedResult_of_not_finds (charClass sectionId : UInt8)
    (versionHasRareMags : Bool)
    (hnone : ∀ feedResult parsed', ¬ Finds tables fedItem magItem parsed feedResult parsed') :
    ∃ e parsed', (applyMagFeedResult tables fedItem charClass sectionId versionHasRareMags).run
      ⟨parsed, magItem⟩ = .error e ⟨parsed', magItem⟩ := by
  unfold applyMagFeedResult
  rcases hindex : resultIndexForFedItem fedItem.primaryIdentifier with e | resultIndex
  · exact ⟨e, parsed, rfl⟩
  · rw [run_ok_bind, run_get_bind]
    rcases hdef : (tables.items.getMag magItem.data1[1]).run parsed with
      ⟨magDef, parsed'⟩ | ⟨e, parsed'⟩
    · rw [run_bind_of_ok (run_onItems_ok hdef)]
      rcases hresult : tables.getMagFeedResult magDef.feedTable.toUInt8 resultIndex with
        e | feedResult
      · exact ⟨e, parsed', rfl⟩
      · exact absurd ⟨resultIndex, magDef, hindex, hdef, hresult⟩ (hnone feedResult parsed')
    · exact ⟨e, parsed', run_bind_of_error (run_onItems_error hdef)⟩

/-- Nothing is missing for the evolution of the mag that has been fed, unless
nothing has changed yet: the mag is in the evolution table, the class is known where
it is asked for, and a new form is in the item table, with a photon blast for which
the mag has a place. -/
structure CanEvolve (tables : FeedTables) (charClass sectionId : UInt8) (versionHasRareMags : Bool)
    (parsed : Parsed) (magItem fed : ItemData) : Prop where
  known : fed = magItem ∨ ∃ evolutionNumber,
    tables.evolution.getEvolutionNumber magItem.data1[1] = .ok evolutionNumber ∧
      (AsksClass fed.data1[2] evolutionNumber → charClass < 12)
  fits : ∀ evolutionNumber number,
    tables.evolution.getEvolutionNumber magItem.data1[1] = .ok evolutionNumber →
    evolvedNumber fed evolutionNumber charClass sectionId versionHasRareMags = .ok number →
    number ≠ magItem.data1[1] →
    ∃ magDef parsed', (tables.items.getMag number).run parsed = .ok magDef parsed' ∧
      PhotonBlastFits magItem magDef.photonBlast

theorem keeps_gainPhotonBlast (number : UInt8) :
    Keeps (fun s => WithinBounds magItem s.magItem) (gainPhotonBlast tables number) := by
  have hlookup : Keeps (fun s => WithinBounds magItem s.magItem)
      (onItems (tables.items.getMag number)) := by
    intro s hs
    rw [onItems, finalState_zoom]
    exact hs
  refine hlookup.bind fun newMagDef => keeps_get_bind ?_
  intro s hs
  dsimp only
  rcases hadd : addMagPhotonBlast s.magItem newMagDef.photonBlast with e | item
  · exact hs
  · exact hs.of_sameGrowth (sameGrowth_of_addMagPhotonBlast hadd)

/-- The evolution keeps the bounds, also where it throws. -/
theorem keeps_evolve : Keeps (fun s => WithinBounds magItem s.magItem)
    (evolve tables charClass sectionId versionHasRareMags) := by
  unfold evolve
  apply keeps_get_bind
  intro s hs
  dsimp only
  refine Keeps.bind (P := fun s : FeedState => WithinBounds magItem s.magItem)
    (readOnly_fromExcept _).keeps (fun evolutionNumber => ?_) s hs
  refine (readOnly_fromExcept _).keeps.bind fun number => ?_
  have hform : Keeps (fun s => WithinBounds magItem s.magItem)
      (onMag (modify (·.withByte 1 number))) := by
    intro t ht
    exact ht.of_sameGrowth (sameGrowth_withByte t.magItem (by decide) (by decide) number)
  refine hform.bind fun _ => ?_
  split_ifs
  · exact keeps_gainPhotonBlast number
  · exact (readOnly_pure _).keeps

theorem ends_gainPhotonBlast_iff {number : UInt8} (hbounds : WithinBounds magItem fed)
    (hne : fed.data1[1] ≠ magItem.data1[1])
    (hfits : ∀ pbNum, PhotonBlastFits fed pbNum ↔ PhotonBlastFits magItem pbNum) :
    Ends (fun s => WithinBounds magItem s.magItem) (fun s => s.magItem = magItem)
        ((gainPhotonBlast tables number).run ⟨parsed, fed⟩) ↔
      ∃ magDef parsed', (tables.items.getMag number).run parsed = .ok magDef parsed' ∧
        PhotonBlastFits magItem magDef.photonBlast := by
  have hchanged : fed ≠ magItem := fun h => hne (by rw [h])
  unfold gainPhotonBlast
  rcases hdef : (tables.items.getMag number).run parsed with ⟨magDef, parsed'⟩ | ⟨e, parsed'⟩
  · rw [run_bind_of_ok (run_onItems_ok hdef), run_get_bind]
    dsimp only
    rcases hadd : addMagPhotonBlast fed magDef.photonBlast with e | item
    · refine iff_of_false hchanged ?_
      rintro ⟨magDef', parsed'', hok, hmagFits⟩
      cases hok
      obtain ⟨item, hitem⟩ := exists_addMagPhotonBlast_iff.mpr ((hfits _).mpr hmagFits)
      rw [hadd] at hitem
      cases hitem
    · refine iff_of_true ?_ ⟨magDef, parsed', rfl, ?_⟩
      · exact hbounds.of_sameGrowth (sameGrowth_of_addMagPhotonBlast hadd)
      · exact (hfits _).mp (exists_addMagPhotonBlast_iff.mp ⟨item, hadd⟩)
  · rw [run_bind_of_error (run_onItems_error hdef)]
    refine iff_of_false hchanged ?_
    rintro ⟨magDef, parsed'', hok, -⟩
    cases hok

theorem canEvolve_iff {evolutionNumber number : UInt8}
    (hevolution : tables.evolution.getEvolutionNumber magItem.data1[1] = .ok evolutionNumber)
    (hevolved : evolvedNumber fed evolutionNumber charClass sectionId versionHasRareMags =
      .ok number) :
    CanEvolve tables charClass sectionId versionHasRareMags parsed magItem fed ↔
      (number ≠ magItem.data1[1] →
        ∃ magDef parsed', (tables.items.getMag number).run parsed = .ok magDef parsed' ∧
          PhotonBlastFits magItem magDef.photonBlast) := by
  refine ⟨fun h => h.fits evolutionNumber number hevolution hevolved, fun h => ⟨?_, ?_⟩⟩
  · exact .inr ⟨evolutionNumber, hevolution, exists_evolvedNumber_iff.mp ⟨number, hevolved⟩⟩
  · intro evolutionNumber' number' hok hevolvedOk
    rw [hevolution] at hok
    cases hok
    rw [hevolved] at hevolvedOk
    cases hevolvedOk
    exact h

theorem ends_evolve_iff (hbounds : WithinBounds magItem fed)
    (hnumber : fed.data1[1] = magItem.data1[1])
    (hfits : ∀ pbNum, PhotonBlastFits fed pbNum ↔ PhotonBlastFits magItem pbNum) :
    Ends (fun s => WithinBounds magItem s.magItem) (fun s => s.magItem = magItem)
        ((evolve tables charClass sectionId versionHasRareMags).run ⟨parsed, fed⟩) ↔
      CanEvolve tables charClass sectionId versionHasRareMags parsed magItem fed := by
  unfold evolve
  rw [run_get_bind]
  dsimp only
  rw [hnumber]
  rcases hevolution : tables.evolution.getEvolutionNumber magItem.data1[1] with e | evolutionNumber
  · refine ⟨fun h => ⟨.inl h, ?_⟩, ?_⟩
    · intro evolutionNumber number hok
      rw [hevolution] at hok
      cases hok
    · rintro ⟨rfl | ⟨evolutionNumber, hok, -⟩, -⟩
      · exact rfl
      · rw [hevolution] at hok
        cases hok
  · rw [run_ok_bind]
    rcases hevolved : evolvedNumber fed evolutionNumber charClass sectionId versionHasRareMags with
      e | number
    · refine ⟨fun h => ⟨.inl h, ?_⟩, ?_⟩
      · intro evolutionNumber' number hok hevolvedOk
        rw [hevolution] at hok
        cases hok
        rw [hevolved] at hevolvedOk
        cases hevolvedOk
      · rintro ⟨rfl | ⟨evolutionNumber', hok, hclass⟩, -⟩
        · exact rfl
        · rw [hevolution] at hok
          cases hok
          obtain ⟨number, hnumberOk⟩ := exists_evolvedNumber_iff.mpr hclass
          rw [hevolved] at hnumberOk
          cases hnumberOk
    · rw [run_ok_bind, run_bind_of_ok (run_onMag_modify _),
        canEvolve_iff hevolution hevolved]
      have hkept : WithinBounds magItem (fed.withByte 1 number) :=
        hbounds.of_sameGrowth (sameGrowth_withByte fed (by decide) (by decide) number)
      have hform : (fed.withByte 1 number).data1[1] = number :=
        (data1_withByte fed 1 number 1 (by decide)).trans (if_pos rfl)
      have hsamePlaces : ∀ pbNum,
          PhotonBlastFits (fed.withByte 1 number) pbNum ↔ PhotonBlastFits magItem pbNum :=
        fun pbNum => (photonBlastFits_congr
          ((data1_withByte fed 1 number 3 (by decide)).trans (if_neg (by decide))) rfl pbNum).trans
            (hfits pbNum)
      by_cases hnew : number = magItem.data1[1]
      · rw [if_neg (not_not.mpr hnew.symm)]
        exact iff_of_true hkept fun hne => absurd hnew hne
      · rw [if_pos (Ne.symm hnew), forall_prop_of_true hnew]
        exact ends_gainPhotonBlast_iff hkept (by rwa [hform]) hsamePlaces

/-- Where the tables know the food and the mag, the bounds hold however the run ends. -/
theorem withinBounds_finalState {feedResult : MagFeedResult} {parsed' : Parsed}
    (hfinds : Finds tables fedItem magItem parsed feedResult parsed')
    (hlevel : computeMagLevel magItem ≤ 200) (hmoderate : Moderate feedResult) :
    WithinBounds magItem (finalState ((applyMagFeedResult tables fedItem charClass sectionId
      versionHasRareMags).run ⟨parsed, magItem⟩)).magItem := by
  rw [run_applyMagFeedResult_of_finds hfinds hlevel hmoderate]
  exact keeps_evolve ⟨parsed', fedMag feedResult magItem⟩ (withinBounds_fedMag hmoderate hlevel)

theorem ends_applyMagFeedResult_iff_of_finds {feedResult : MagFeedResult} {parsed' : Parsed}
    (hfinds : Finds tables fedItem magItem parsed feedResult parsed')
    (hlevel : computeMagLevel magItem ≤ 200) (hmoderate : Moderate feedResult) :
    Ends (fun s => WithinBounds magItem s.magItem) (fun s => s.magItem = magItem)
        ((applyMagFeedResult tables fedItem charClass sectionId versionHasRareMags).run
          ⟨parsed, magItem⟩) ↔
      CanEvolve tables charClass sectionId versionHasRareMags parsed' magItem
        (fedMag feedResult magItem) := by
  have hform := data1_fedMag feedResult magItem (z := 1) (by decide) (by decide)
  have hplaces := data1_fedMag feedResult magItem (z := 3) (by decide) (by decide)
  rw [run_applyMagFeedResult_of_finds hfinds hlevel hmoderate]
  exact ends_evolve_iff (withinBounds_fedMag hmoderate hlevel) hform
    (photonBlastFits_congr hplaces (data2_fedMag_two feedResult magItem))

end Runs

/-- Feeding keeps the bounds, and an exception leaves the mag as it was, exactly
if nothing is missing for the evolution once the food has changed the mag. -/
theorem applyMagFeedResult_iff (tables : FeedTables) (fedItem : ItemData) {magItem : ItemData}
    (charClass sectionId : UInt8) (versionHasRareMags : Bool) (parsed : Parsed)
    (hlevel : computeMagLevel magItem ≤ 200)
    (hmoderate : ∀ feedResult parsed', Finds tables fedItem magItem parsed feedResult parsed' →
      Moderate feedResult) :
    Ends (fun s => WithinBounds magItem s.magItem) (fun s => s.magItem = magItem)
        ((applyMagFeedResult tables fedItem charClass sectionId versionHasRareMags).run
          ⟨parsed, magItem⟩) ↔
      ∀ feedResult parsed', Finds tables fedItem magItem parsed feedResult parsed' →
        CanEvolve tables charClass sectionId versionHasRareMags parsed' magItem
          (fedMag feedResult magItem) := by
  by_cases hfound : ∃ feedResult parsed', Finds tables fedItem magItem parsed feedResult parsed'
  · obtain ⟨feedResult, parsed', hfinds⟩ := hfound
    rw [ends_applyMagFeedResult_iff_of_finds hfinds hlevel (hmoderate feedResult parsed' hfinds)]
    refine ⟨fun h result parsed'' hresult => ?_, fun h => h feedResult parsed' hfinds⟩
    obtain ⟨rfl, rfl⟩ := hfinds.unique hresult
    exact h
  · have hnone : ∀ feedResult parsed', ¬ Finds tables fedItem magItem parsed feedResult parsed' :=
      fun feedResult parsed' hfinds => hfound ⟨feedResult, parsed', hfinds⟩
    obtain ⟨e, parsed', hrun⟩ := run_applyMagFeedResult_of_not_finds charClass sectionId
      versionHasRareMags hnone
    rw [hrun]
    exact iff_of_true rfl fun feedResult parsed'' hfinds => absurd hfinds (hnone _ _)

/-! ## Two mags, the first of which evolves into the second -/

/-- The array of the two mags is at 0. The feed tables are at 64, and the results of
the first one, where a Monomate adds 5 to the defense, are at 32. -/
def exampleItems : ItemParameterTable where
  version := .bbV4
  data := [2, 0, 0, 0, 8, 0, 0, 0] ++ List.replicate 24 0 ++ [5] ++ List.replicate 17 0 ++ [4] ++
    List.replicate 13 0 ++ [32] ++ List.replicate 55 0
  layout := .v4
  offsets := ⟨0, 0, 0, 0, 0, 0, 0⟩
  numWeaponClasses := 0xED
  numToolClasses := 0x1B
  numSpecials := 0x29

def exampleTables : FeedTables := ⟨exampleItems, 64, ⟨[0, 1], 2, 0⟩⟩

def monomate : ItemData := ⟨#v[3, 0, 0, 0, 0, 1, 0, 0, 0, 0, 0, 0], 0x10001, 0⟩

def monomateResult : MagFeedResult := { def' := 5 }

def firstMagDef : MagV4 := { base := baseV4 (List.replicate 28 0), classFlags := 5 }

def secondMagDef : MagV4 :=
  { base := baseV4 (List.replicate 28 0), photonBlast := 4, classFlags := 0 }

/-- A mag of level 9, close to level 10. -/
def youngMag (pbNums : UInt8) (data2d : UInt32) : ItemData :=
  ⟨#v[2, 0, 9, pbNums, 0xE3, 3, 0, 0, 0, 0, 0, 0], 0x10000, data2d⟩

theorem moderate_monomateResult : Moderate monomateResult := by
  unfold Moderate changes
  decide

theorem run_getMag_of_v4 {items : ItemParameterTable} (h : items.layout = .v4) {data1_1 : UInt8}
    {magDef : MagV4} (hentry : items.magEntry data1_1.toNat = .ok magDef) (parsed : Parsed) :
    (items.getMag data1_1).run parsed = .ok magDef parsed := by
  unfold ItemParameterTable.getMag
  rw [if_pos h, hentry]
  rfl

theorem run_getMag_zero : (exampleItems.getMag 0).run .empty = .ok firstMagDef .empty := by
  have hentry : exampleItems.magEntry (0 : UInt8).toNat = .ok firstMagDef := by decide +kernel
  exact run_getMag_of_v4 rfl hentry .empty

theorem run_getMag_one : (exampleItems.getMag 1).run .empty = .ok secondMagDef .empty := by
  have hentry : exampleItems.magEntry (1 : UInt8).toNat = .ok secondMagDef := by decide +kernel
  exact run_getMag_of_v4 rfl hentry .empty

theorem finds_monomateResult (pbNums : UInt8) (data2d : UInt32) :
    Finds exampleTables monomate (youngMag pbNums data2d) .empty monomateResult .empty := by
  refine ⟨0, firstMagDef, by decide, ?_, by decide +kernel⟩
  change (exampleItems.getMag 0).run .empty = _
  exact run_getMag_zero

theorem applyMagFeedResult_iff_humar :
    Ends (fun s => WithinBounds (youngMag 0 0) s.magItem) (fun s => s.magItem = youngMag 0 0)
      ((applyMagFeedResult exampleTables monomate 0 0 true).run ⟨.empty, youngMag 0 0⟩) := by
  have hlevel : computeMagLevel (youngMag 0 0) ≤ 200 := by decide
  rw [applyMagFeedResult_iff exampleTables monomate 0 0 true .empty hlevel ?_]
  · intro feedResult parsed' hfinds
    obtain ⟨rfl, rfl⟩ := (finds_monomateResult 0 0).unique hfinds
    refine ⟨.inr ⟨0, by decide, fun _ => by decide⟩, ?_⟩
    intro evolutionNumber number hevolution hevolved hne
    have hzero : exampleTables.evolution.getEvolutionNumber (youngMag 0 0).data1[1] = .ok 0 := by
      decide
    have hvaruna : evolvedNumber (fedMag monomateResult (youngMag 0 0)) 0 0 0 true = .ok 1 := by
      decide +kernel
    rw [hzero] at hevolution
    cases hevolution
    rw [hvaruna] at hevolved
    cases hevolved
    refine ⟨secondMagDef, .empty, run_getMag_one, ?_⟩
    unfold PhotonBlastFits lowerBlasts
    decide
  · intro feedResult parsed' hfinds
    obtain ⟨rfl, -⟩ := (finds_monomateResult 0 0).unique hfinds
    exact moderate_monomateResult

/-- The class is asked for, or the photon blast is found to have no place, when the
mag has already grown. -/
theorem not_ends_applyMagFeedResult :
    ¬ Ends (fun s => WithinBounds (youngMag 0 0) s.magItem) (fun s => s.magItem = youngMag 0 0)
        ((applyMagFeedResult exampleTables monomate 12 0 true).run ⟨.empty, youngMag 0 0⟩) ∧
      ¬ Ends (fun s => WithinBounds (youngMag 0x2D 0x30000) s.magItem)
        (fun s => s.magItem = youngMag 0x2D 0x30000)
        ((applyMagFeedResult exampleTables monomate 0 0 true).run
          ⟨.empty, youngMag 0x2D 0x30000⟩) := by
  refine ⟨?_, ?_⟩
  · rw [ends_applyMagFeedResult_iff_of_finds (finds_monomateResult 0 0) (by decide)
      moderate_monomateResult]
    rintro ⟨h | ⟨evolutionNumber, hevolution, hclass⟩, -⟩
    · exact absurd h (by decide +kernel)
    · have hzero : exampleTables.evolution.getEvolutionNumber (youngMag 0 0).data1[1] = .ok 0 := by
        decide
      rw [hzero] at hevolution
      cases hevolution
      have hasks : AsksClass (fedMag monomateResult (youngMag 0 0)).data1[2] 0 := by
        unfold AsksClass
        decide +kernel
      exact absurd (hclass hasks) (by decide)
  · rw [ends_applyMagFeedResult_iff_of_finds (finds_monomateResult 0x2D 0x30000) (by decide)
      moderate_monomateResult]
    intro h
    obtain ⟨magDef, parsed', hdef, hfits⟩ :=
      h.fits 0 1 (by decide) (by decide +kernel) (by decide)
    cases run_getMag_one.symm.trans hdef
    unfold PhotonBlastFits lowerBlasts at hfits
    exact absurd hfits (by decide)

end HuntersGuild.MagFeedingBounds
