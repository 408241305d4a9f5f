import HuntersGuild.CardPlacement
import HuntersGuild.ExceptionRules

/-!
Where the server lets a client place a creature.
-/

namespace HuntersGuild.PlacementLegality

open HuntersGuild.BattleMaps
open HuntersGuild.ByteStreams
open HuntersGuild.CardPlacement

/-- The tile is not on the border of the map. -/
def Inside (map : MapState) (loc : Location) : Prop :=
  (1 ≤ loc.x.toNat ∧ loc.x.toNat + 1 < map.width.toNat) ∧
    1 ≤ loc.y.toNat ∧ loc.y.toNat + 1 < map.height.toNat

/-- The coordinate in the direction of the client is between the row of the
summon area and this row moved forward. -/
def InRows (area : Location) (depth : Int) (loc : Location) : Prop :=
  match area.direction with
  | .right => area.x.toNat ≤ loc.x.toNat ∧ (loc.x.toNat : Int) ≤ area.x.toNat + depth
  | .left => loc.x.toNat ≤ area.x.toNat ∧ (area.x.toNat : Int) - depth ≤ loc.x.toNat
  | .up => area.y.toNat ≤ loc.y.toNat ∧ (loc.y.toNat : Int) ≤ area.y.toNat + depth
  | .down => loc.y.toNat ≤ area.y.toNat ∧ (area.y.toNat : Int) - depth ≤ loc.y.toNat
  | .undefined _ => True

def depth (s : RulerServer) (clientId : UInt8) (ce : CardDefinition) (size : UInt8) : Int :=
  max (size.toNat - s.summonCost clientId ce) 0

/-- What is promised of a location at which a creature may be placed. -/
structure Legal (s : RulerServer) (clientId : UInt8) (ce : CardDefinition) (loc : Location) :
    Prop where
  vacant : s.mapAndRules.tileIsVacant loc.x loc.y = .ok true
  inside : Inside s.mapAndRules.map loc
  rows : ∀ area size, s.getCreatureSummonArea clientId = some (area, size) →
    InRows area (depth s clientId ce size) loc

/-- A location on the border that the tests of the area let pass: the border
across the direction of the client, unless the map has one row only, and in that
direction the border of a map with two rows, whose summon area wraps around. -/
def OnUntestedBorder (map : MapState) (area : Location) (loc : Location) : Prop :=
  let x := loc.x.toNat
  let y := loc.y.toNat
  let width := map.width.toNat
  let height := map.height.toNat
  match area.direction with
  | .right => height ≠ 1 ∧ (y = 0 ∨ y + 1 = height ∨ width = 2)
  | .left => height ≠ 1 ∧ (y = 0 ∨ y + 1 = height ∨ width % 256 = 2)
  | .up => width ≠ 1 ∧ (x = 0 ∨ x + 1 = width ∨ height = 2)
  | .down => width ≠ 1 ∧ (x = 0 ∨ x + 1 = width ∨ height % 256 = 2)
  | .undefined _ => False

/-- Without a direction the only such locations are on maps with two rows. -/
def OnFallbackBorder (map : MapState) (teamId : UInt8) (loc : Location) : Prop :=
  map.height.toNat = 2 ∧ 0 < loc.x.toNat ∧ loc.x.toNat + 1 < map.width.toNat ∧
    loc.y.toNat = if teamId = 1 then 0 else 1

/-- No other check refuses the card. -/
def Unrefused (s : RulerServer) (clientId : UInt8) (cardRef : UInt16) (target teamId : UInt8) :
    Prop :=
  s.errorCodeBeforePlacement clientId cardRef target = 0 ∧
    entry s.teamIdForClientId clientId.toNat = .ok teamId ∧ teamId ≠ 0xFF

/-- A vacant tile on the border that no test catches. -/
def Exposed (s : RulerServer) (clientId : UInt8) (ce : CardDefinition) (teamId : UInt8)
    (loc : Location) : Prop :=
  s.mapAndRules.tileIsVacant loc.x loc.y = .ok true ∧
    match s.getCreatureSummonArea clientId with
    | some (area, size) =>
        InRows area (depth s clientId ce size) loc ∧
          OnUntestedBorder s.mapAndRules.map area loc
    | none => OnFallbackBorder s.mapAndRules.map teamId loc

/-- The area in front of a client. -/
theorem getCreatureSummonArea_eq_some {s : RulerServer} {clientId : UInt8} {area : Location}
    {size : UInt8} (h : s.getCreatureSummonArea clientId = some (area, size)) :
    let map := s.mapAndRules.map
    (area = ⟨1, 0, .right⟩ ∧ size = (map.width - 3).toUInt8) ∨
      (area = ⟨(map.width - 2).toUInt8, 0, .left⟩ ∧ size = (map.width - 3).toUInt8) ∨
      (area = ⟨0, 1, .up⟩ ∧ size = (map.height - 3).toUInt8) ∨
      area = ⟨0, (map.height - 2).toUInt8, .down⟩ ∧ size = (map.height - 3).toUInt8 := by
  unfold RulerServer.getCreatureSummonArea at h
  split at h
  · cases h
  · dsimp only at h ⊢
    split at h
    · cases h
      exact .inl ⟨rfl, rfl⟩
    · cases h
      exact .inr (.inl ⟨rfl, rfl⟩)
    · cases h
      exact .inr (.inr (.inl ⟨rfl, rfl⟩))
    · cases h
      exact .inr (.inr (.inr ⟨rfl, rfl⟩))
    · cases h

/-! ## One axis -/

theorem toNat_sub_toUInt8 (size k : UInt16) (hk : k.toNat ≤ 3) :
    (size - k).toUInt8.toNat = (size.toNat + (65536 - k.toNat)) % 65536 % 256 := by
  simp only [UInt16.toNat_toUInt8, UInt16.toNat_sub]
  omega

/-- The rows in front of the first one. -/
theorem forward_inside_iff {size : UInt16} {c : Nat} {cost : Int} (hcost : 0 ≤ cost)
    (hstored : c < 16) (hbounds : c < size.toNat)
    (hrows : 1 ≤ c ∧ (c : Int) ≤ 1 + max ((size - 3).toUInt8.toNat - cost) 0) :
    (1 ≤ c ∧ c + 1 < size.toNat) ↔ size.toNat ≠ 2 := by
  rw [toNat_sub_toUInt8 size 3 (by decide)] at hrows
  have hsize := size.toNat_lt
  simp only [show (3 : UInt16).toNat = 3 from rfl] at hrows
  omega

/-- The rows in front of the last one, in the other direction. -/
theorem backward_inside_iff {size : UInt16} {c : Nat} {cost : Int} (hcost : 0 ≤ cost)
    (hbounds : c < size.toNat)
    (hrows : c ≤ (size - 2).toUInt8.toNat ∧
      ((size - 2).toUInt8.toNat : Int) - max ((size - 3).toUInt8.toNat - cost) 0 ≤ c) :
    (1 ≤ c ∧ c + 1 < size.toNat) ↔ size.toNat % 256 ≠ 2 := by
  rw [toNat_sub_toUInt8 size 3 (by decide), toNat_sub_toUInt8 size 2 (by decide)] at hrows
  have hsize := size.toNat_lt
  simp only [show (3 : UInt16).toNat = 3 from rfl, show (2 : UInt16).toNat = 2 from rfl] at hrows
  omega

/-- Both comparisons of a test across the direction of the client hold on a map
with one row only. -/
theorem refusesCoordinate_zero {c size : Nat} (hbounds : c < size) (area depth : Int) :
    refusesCoordinate 0 c area depth size = false ↔ size ≠ 1 := by
  simp only [refusesCoordinate, if_true, decide_eq_false_iff_not]
  omega

theorem refusesCoordinate_one (c area : Nat) (depth size : Int) :
    refusesCoordinate 1 c area depth size = false ↔ area ≤ c ∧ (c : Int) ≤ area + depth := by
  simp [refusesCoordinate]

theorem refusesCoordinate_neg_one (c area : Nat) (depth size : Int) :
    refusesCoordinate (-1) c area depth size = false ↔ c ≤ area ∧ (area : Int) - depth ≤ c := by
  simp [refusesCoordinate]

/-! ## Both axes -/

theorem errorCodeInArea_eq_zero_iff (map : MapState) (area : Location) (size : UInt8) (cost : Int)
    (loc : Location) :
    errorCodeInArea map area size cost loc = 0 ↔
      refusesCoordinate (offsetsForDirection area).1 loc.x.toNat area.x.toNat
          (max (size.toNat - cost) 0) map.width.toNat = false ∧
        refusesCoordinate (offsetsForDirection area).2 loc.y.toNat area.y.toNat
          (max (size.toNat - cost) 0) map.height.toNat = false := by
  simp only [errorCodeInArea]
  split
  · rename_i hx
    simp [hx]
  · split
    · rename_i hy
      simp [hy]
    · rename_i hx hy
      simp [Bool.eq_false_iff.mpr hx, Bool.eq_false_iff.mpr hy]

/-- The number of tiles across the direction of the client. -/
def crossSize (map : MapState) (area : Location) : Nat :=
  match area.direction with
  | .right | .left => map.height.toNat
  | .up | .down => map.width.toNat
  | .undefined _ => 0

/-- The tests across the direction of the client refuse maps of one row only. -/
theorem errorCodeInArea_eq_zero_iff_inRows {s : RulerServer} {clientId : UInt8} {area : Location}
    {size : UInt8} (harea : s.getCreatureSummonArea clientId = some (area, size)) (cost : Int)
    {loc : Location} (hx : loc.x.toNat < s.mapAndRules.map.width.toNat)
    (hy : loc.y.toNat < s.mapAndRules.map.height.toNat) :
    errorCodeInArea s.mapAndRules.map area size cost loc = 0 ↔
      crossSize s.mapAndRules.map area ≠ 1 ∧ InRows area (max (size.toNat - cost) 0) loc := by
  rw [errorCodeInArea_eq_zero_iff]
  have hcrossX := refusesCoordinate_zero hx area.x.toNat (max (size.toNat - cost) 0)
  have hcrossY := refusesCoordinate_zero hy area.y.toNat (max (size.toNat - cost) 0)
  rcases getCreatureSummonArea_eq_some harea with ⟨rfl, rfl⟩ | ⟨rfl, rfl⟩ | ⟨rfl, rfl⟩ | ⟨rfl, rfl⟩
  · rw [and_comm]
    exact and_congr hcrossY (refusesCoordinate_one _ _ _ _)
  · rw [and_comm]
    exact and_congr hcrossY (refusesCoordinate_neg_one _ _ _ _)
  · exact and_congr hcrossX (refusesCoordinate_one _ _ _ _)
  · exact and_congr hcrossX (refusesCoordinate_neg_one _ _ _ _)

theorem summonCost_nonneg (s : RulerServer) (clientId : UInt8) (ce : CardDefinition) :
    0 ≤ s.summonCost clientId ce := by
  unfold RulerServer.summonCost
  split
  · exact le_refl _
  · exact Int.natCast_nonneg _

/-- Among the vacant tiles in the rows of a client, those on the border are the
ones that no test looks at. -/
theorem inside_iff_of_inRows {s : RulerServer} {clientId : UInt8} {ce : CardDefinition}
    {area : Location} {size : UInt8}
    (harea : s.getCreatureSummonArea clientId = some (area, size)) {loc : Location}
    (hvacant : s.mapAndRules.tileIsVacant loc.x loc.y = .ok true)
    (hcross : crossSize s.mapAndRules.map area ≠ 1)
    (hrows : InRows area (depth s clientId ce size) loc) :
    Inside s.mapAndRules.map loc ↔ ¬ OnUntestedBorder s.mapAndRules.map area loc := by
  obtain ⟨hx, hy, hx16, hy16⟩ := MapAndRulesState.bounds_of_tileIsVacant hvacant
  have hcost := summonCost_nonneg s clientId ce
  rcases getCreatureSummonArea_eq_some harea with ⟨rfl, rfl⟩ | ⟨rfl, rfl⟩ | ⟨rfl, rfl⟩ | ⟨rfl, rfl⟩
  · have hside := forward_inside_iff hcost hx16 hx hrows
    simp only [crossSize, Inside, OnUntestedBorder] at hcross ⊢
    rw [hside]
    omega
  · have hside := backward_inside_iff hcost hx hrows
    simp only [crossSize, Inside, OnUntestedBorder] at hcross ⊢
    rw [hside]
    omega
  · have hside := forward_inside_iff hcost hy16 hy hrows
    simp only [crossSize, Inside, OnUntestedBorder] at hcross ⊢
    rw [hside]
    omega
  · have hside := backward_inside_iff hcost hy hrows
    simp only [crossSize, Inside, OnUntestedBorder] at hcross ⊢
    rw [hside]
    omega

theorem cross_of_onUntestedBorder {map : MapState} {area loc : Location}
    (h : OnUntestedBorder map area loc) : crossSize map area ≠ 1 := by
  unfold OnUntestedBorder at h
  unfold crossSize
  split at h
  · rename_i hdirection
    simpa [hdirection] using h.1
  · rename_i hdirection
    simpa [hdirection] using h.1
  · rename_i hdirection
    simpa [hdirection] using h.1
  · rename_i hdirection
    simpa [hdirection] using h.1
  · exact absurd h not_false

/-- Without a direction, only a map of two rows has an accepted tile on the
border. -/
theorem fallback_inside_iff {map : MapState} {teamId : UInt8} {cost : Int} (hcost : 0 ≤ cost)
    {loc : Location} (hy : loc.y.toNat < map.height.toNat)
    (h : errorCodeWithoutArea map teamId cost loc = 0) :
    Inside map loc ↔ ¬ OnFallbackBorder map teamId loc := by
  unfold errorCodeWithoutArea at h
  unfold Inside OnFallbackBorder
  by_cases hteam : teamId = 1
  · simp only [hteam, ne_eq, not_true_eq_false, if_false, if_true] at h ⊢
    split at h
    · omega
    · cases h
  · simp only [hteam, ne_eq, not_false_eq_true, if_true, if_false] at h ⊢
    split at h
    · omega
    · cases h

theorem fallback_of_onFallbackBorder {map : MapState} {teamId : UInt8} {loc : Location}
    (h : OnFallbackBorder map teamId loc) (cost : Int) :
    errorCodeWithoutArea map teamId cost loc = 0 := by
  obtain ⟨hheight, hx, hwidth, hy⟩ := h
  unfold errorCodeWithoutArea
  by_cases hteam : teamId = 1
  · simp only [hteam, if_true] at hy
    simp only [hteam, ne_eq, not_true_eq_false, if_false]
    rw [if_pos (by omega)]
  · simp only [hteam, if_false] at hy
    simp only [hteam, ne_eq, not_false_eq_true, if_true]
    rw [if_pos (by omega)]

/-! ## The whole check -/

/-- A creature is accepted if every check lets it pass. -/
theorem accepted_iff {s : RulerServer} (hnte : s.isNte = false) {clientId : UInt8}
    {cardRef : UInt16} {ce : CardDefinition}
    (hce : s.definitionForCardId (s.cardIdForCardRef cardRef) = some ce)
    (htype : ce.type = .creature) (loc : Location) (target : UInt8) :
    s.errorCodeForClientSettingCard clientId cardRef (some loc) target = .ok 0 ↔
      s.mapAndRules.tileIsVacant loc.x loc.y = .ok true ∧
        ∃ teamId, Unrefused s clientId cardRef target teamId ∧
          match s.getCreatureSummonArea clientId with
          | none => errorCodeWithoutArea s.mapAndRules.map teamId (s.summonCost clientId ce) loc = 0
          | some (area, size) =>
              errorCodeInArea s.mapAndRules.map area size (s.summonCost clientId ce) loc = 0 := by
  by_cases hbefore : s.errorCodeBeforePlacement clientId cardRef target = 0
  swap
  · have hcode : s.errorCodeForClientSettingCard clientId cardRef (some loc) target =
        .ok (s.errorCodeBeforePlacement clientId cardRef target) := by
      rw [RulerServer.errorCodeForClientSettingCard, if_pos hbefore]
      rfl
    rw [hcode]
    refine iff_of_false (fun h => hbefore (Except.ok.inj h)) ?_
    rintro ⟨-, teamId, hunrefused, -⟩
    exact hbefore hunrefused.1
  have hcode : s.errorCodeForClientSettingCard clientId cardRef (some loc) target =
      s.errorCodeForPlacement clientId ce (some loc) := by
    simp [RulerServer.errorCodeForClientSettingCard, hbefore, hce, htype]
  rw [hcode, RulerServer.errorCodeForPlacement]
  simp only [Unrefused, hbefore, true_and, hnte, Bool.false_eq_true, if_false]
  cases hvacant : s.mapAndRules.tileIsVacant loc.x loc.y with
  | error e => simp
  | ok vacant =>
      cases vacant with
      | false => simp
      | true =>
          cases hteam : entry s.teamIdForClientId clientId.toNat with
          | error e => simp
          | ok teamId =>
              by_cases hnone : teamId = 0xFF
              · simp [hnone]
              · cases harea : s.getCreatureSummonArea clientId with
                | none => simp [hnone]
                | some area => simp [hnone]

/-- The location of an accepted creature is legal exactly when it is not a vacant
tile on a part of the border that is not tested. -/
theorem accepted_legal_iff {s : RulerServer} (hnte : s.isNte = false) {clientId : UInt8}
    {cardRef : UInt16} {ce : CardDefinition}
    (hce : s.definitionForCardId (s.cardIdForCardRef cardRef) = some ce)
    (htype : ce.type = .creature) (loc : Location) (target : UInt8) :
    (s.errorCodeForClientSettingCard clientId cardRef (some loc) target = .ok 0 →
        Legal s clientId ce loc) ↔
      ¬ ∃ teamId, Unrefused s clientId cardRef target teamId ∧ Exposed s clientId ce teamId loc := by
  rw [accepted_iff hnte hce htype]
  cases harea : s.getCreatureSummonArea clientId with
  | none =>
      simp only [Exposed, harea]
      constructor
      · rintro h ⟨teamId, hunrefused, hvacant, hborder⟩
        have hy := (MapAndRulesState.bounds_of_tileIsVacant hvacant).2.1
        have hcode := fallback_of_onFallbackBorder hborder (s.summonCost clientId ce)
        have hlegal := h ⟨hvacant, teamId, hunrefused, hcode⟩
        exact (fallback_inside_iff (summonCost_nonneg s clientId ce) hy hcode).mp hlegal.inside hborder
      · rintro h ⟨hvacant, teamId, hunrefused, hcode⟩
        have hy := (MapAndRulesState.bounds_of_tileIsVacant hvacant).2.1
        refine ⟨hvacant, ?_, fun _ _ hsome => by rw [harea] at hsome; cases hsome⟩
        exact (fallback_inside_iff (summonCost_nonneg s clientId ce) hy hcode).mpr
          fun hborder => h ⟨teamId, hunrefused, hvacant, hborder⟩
  | some found =>
      obtain ⟨area, size⟩ := found
      simp only [Exposed, harea]
      constructor
      · rintro h ⟨teamId, hunrefused, hvacant, hrows, hborder⟩
        obtain ⟨hx, hy, -, -⟩ := MapAndRulesState.bounds_of_tileIsVacant hvacant
        have hcross := cross_of_onUntestedBorder hborder
        have hcode := (errorCodeInArea_eq_zero_iff_inRows harea _ hx hy).mpr ⟨hcross, hrows⟩
        have hlegal := h ⟨hvacant, teamId, hunrefused, hcode⟩
        exact (inside_iff_of_inRows harea hvacant hcross hrows).mp hlegal.inside hborder
      · rintro h ⟨hvacant, teamId, hunrefused, hcode⟩
        obtain ⟨hx, hy, -, -⟩ := MapAndRulesState.bounds_of_tileIsVacant hvacant
        obtain ⟨hcross, hrows⟩ := (errorCodeInArea_eq_zero_iff_inRows harea _ hx hy).mp hcode
        refine ⟨hvacant, ?_, ?_⟩
        · exact (inside_iff_of_inRows harea hvacant hcross hrows).mpr
            fun hborder => h ⟨teamId, hunrefused, hvacant, hrows, hborder⟩
        · intro area' size' hsome
          cases harea.symm.trans hsome
          exact hrows

/-- A battle of one client, who faces upwards on a map without obstacles. -/
def openBattle : RulerServer where
  isNte := false
  handAndEquipStates :=
    #v[some ⟨9, 0, #v[1, 0xFFFF, 0xFFFF, 0xFFFF, 0xFFFF, 0xFFFF], Vector.replicate 8 0xFFFF, 0xFFFF⟩,
      none, none, none]
  shortStatuses := Vector.replicate 4
    ((Vector.replicate 16 ⟨0xFFFF, 0⟩).setIfInBounds 0 ⟨0, 0⟩ |>.setIfInBounds 1 ⟨1, 0⟩)
  teamIdForClientId := #v[0, 0xFF, 0xFF, 0xFF]
  mapAndRules := ⟨⟨8, 8, Vector.replicate 16 (Vector.replicate 16 1)⟩, 1⟩
  cardIdForCardRef := id
  definitionForCardId := fun cardId => some ⟨cardId, .creature, 1⟩
  assistEffectNumberForCardId := fun _ => .other 0
  activeAssists := fun _ => []
  setCostForCard := fun _ _ => 1
  checkUsability := fun _ _ => true
  limitsByCount := fun _ => false

/-- The tile at the left end of the first summon row is on the border, and a
creature may be placed there. -/
theorem openBattle_accepts :
    openBattle.errorCodeForClientSettingCard 0 1 (some ⟨0, 1, .up⟩) 0xFF = .ok 0 ∧
      ¬ Inside openBattle.mapAndRules.map ⟨0, 1, .up⟩ := by
  refine ⟨by decide +kernel, fun h => ?_⟩
  exact absurd h.1.1 (by decide)

theorem openBattle_legal_iff :
    (openBattle.errorCodeForClientSettingCard 0 1 (some ⟨3, 1, .up⟩) 0xFF = .ok 0 →
        Legal openBattle 0 ⟨1, .creature, 1⟩ ⟨3, 1, .up⟩) ↔
      ¬ ∃ teamId, Unrefused openBattle 0 1 0xFF teamId ∧
        Exposed openBattle 0 ⟨1, .creature, 1⟩ teamId ⟨3, 1, .up⟩ :=
  accepted_legal_iff rfl rfl rfl ⟨3, 1, .up⟩ 0xFF

end HuntersGuild.PlacementLegality
