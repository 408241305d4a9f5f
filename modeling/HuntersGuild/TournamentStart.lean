import HuntersGuild.TournamentBracket

/-!
A tournament that starts has a bracket in which everything that can be skipped
is decided.
-/

namespace HuntersGuild.TournamentStart

open HuntersGuild.ExceptionRules
open HuntersGuild.KnockoutBracket
open HuntersGuild.FuelLoop
open HuntersGuild.JsonValues
open HuntersGuild.TournamentOperations
open HuntersGuild.TournamentBracket

/-! The order of the teams. -/

theorem swapTeams_subset (teams : List Team) (i j : Nat) : swapTeams teams i j ⊆ teams := by
  intro x hx
  unfold swapTeams at hx
  split at hx
  · rename_i teamI teamJ hi hj
    rcases List.mem_or_eq_of_mem_set hx with hx | rfl
    · rcases List.mem_or_eq_of_mem_set hx with hx | rfl
      · exact hx
      · exact List.mem_of_getElem? hj
    · exact List.mem_of_getElem? hi
  · exact hx

theorem packTeams_subset (teams : List Team) : packTeams teams ⊆ teams := by
  unfold packTeams
  refine List.foldlRecOn (motive := fun (acc : List Team × Nat) => acc.1 ⊆ teams) (List.range teams.length) _
    (List.Subset.refl teams) ?_
  rintro ⟨acc, wOffset⟩ hacc rOffset -
  dsimp only
  split
  · split
    · dsimp only
      split
      · exact List.Subset.trans (swapTeams_subset acc rOffset wOffset) hacc
      · exact hacc
    · exact hacc
  · exact hacc

theorem resizeTeams_subset (fuel : Nat) (teams : List Team) : resizeTeams fuel teams ⊆ teams := by
  induction fuel generalizing teams with
  | zero => exact List.Subset.refl teams
  | succ fuel ih =>
      unfold resizeTeams
      split
      · exact List.Subset.trans (ih _) (List.take_subset _ teams)
      · exact List.Subset.refl teams

theorem shuffleTeams_subset (random : Nat → UInt32) (teams : List Team) :
    shuffleTeams random teams ⊆ teams := by
  unfold shuffleTeams
  refine List.foldlRecOn (motive := fun acc => acc ⊆ teams) _ _ (List.Subset.refl teams) ?_
  intro acc hacc z _
  dsimp only
  split
  · exact List.Subset.trans (swapTeams_subset acc z _) hacc
  · exact hacc

theorem entries_subset (choices : Choices) (t : Tournament) : t.entries choices ⊆ t.teams := by
  unfold Tournament.entries
  dsimp only
  have hpack : (if hasFlag t.flags flagShuffleEntries && hasFlag t.flags flagResizeOnStart then
      packTeams t.teams else t.teams) ⊆ t.teams := by
    split
    · exact packTeams_subset t.teams
    · exact List.Subset.refl t.teams
  split
  · refine List.Subset.trans (shuffleTeams_subset _ _) ?_
    split
    · exact List.Subset.trans (resizeTeams_subset _ _) hpack
    · exact hpack
  · split
    · exact List.Subset.trans (resizeTeams_subset _ _) hpack
    · exact hpack

/-! The teams' players. -/

/-- A team that has not played, with COM decks of the index only. -/
structure Fresh (decks : COMDeckIndex) (x : Team) : Prop where
  numRoundsCleared_eq : x.numRoundsCleared = 0
  isActive_eq : x.isActive = true
  mem_decks : ∀ deck, PlayerEntry.com deck ∈ x.players → deck ∈ decks.decks

theorem fresh_registering (comDeckIndex : COMDeckIndex) (name : String) (mapNumber : UInt32)
    (rules : BattleRules.Rules) (flags : UInt8) (registrations : List Registration) :
    ∀ x ∈ (registering comDeckIndex name mapNumber rules flags registrations).teams,
      Fresh comDeckIndex x := by
  intro x hx
  obtain ⟨index, registration, rfl⟩ : ∃ index, ∃ registration : Registration,
      x = registration.team index := by
    simp only [registering, List.mem_mapIdx] at hx
    obtain ⟨index, hindex, rfl⟩ := hx
    exact ⟨index, _, rfl⟩
  refine ⟨rfl, rfl, ?_⟩
  intro deck hdeck
  simp [Registration.team] at hdeck

theorem addCOMDecks_cases (decks : COMDeckIndex) (random : Nat → UInt64) (maxPlayers fuel : Nat)
    (attempts : Nat) (players : List PlayerEntry)
    (hmem : ∀ deck, PlayerEntry.com deck ∈ players → deck ∈ decks.decks) :
    addCOMDecks decks random maxPlayers fuel attempts players = .error .moduloZero ∨
      ∃ players', addCOMDecks decks random maxPlayers fuel attempts players = .ok players' ∧
        ∀ deck, PlayerEntry.com deck ∈ players' → deck ∈ decks.decks := by
  induction fuel generalizing attempts players with
  | zero => exact .inr ⟨players, rfl, hmem⟩
  | succ fuel ih =>
      unfold addCOMDecks
      split
      · rcases hdeck : decks.randomDeck (random fuel) with e | deck
        · refine .inl ?_
          unfold COMDeckIndex.randomDeck at hdeck
          split at hdeck
          · cases hdeck
          · cases hdeck
            rfl
        · have hin : deck ∈ decks.decks := by
            unfold COMDeckIndex.randomDeck at hdeck
            split at hdeck
            · rename_i deck' hget
              cases hdeck
              exact List.mem_of_getElem? hget
            · cases hdeck
          simp only [ok_bind]
          split
          · exact ih (attempts + 1) players hmem
          · refine ih attempts _ ?_
            intro deck' hdeck'
            rcases List.mem_append.mp hdeck' with hold | hnew
            · exact hmem deck' hold
            · simp only [List.mem_singleton, PlayerEntry.com.injEq] at hnew
              rwa [hnew]
      · exact .inr ⟨players, rfl, hmem⟩

theorem prepareTeam_cases (decks : COMDeckIndex) (hasComTeams : Bool)
    (random : Nat → Nat → UInt64) (z : Nat) {x : Team} (hx : Fresh decks x) :
    (∃ e, prepareTeam decks hasComTeams random z x = .error e ∧ e ≠ .nullTeam) ∨
      ∃ x', prepareTeam decks hasComTeams random z x = .ok x' ∧ Fresh decks x' := by
  unfold prepareTeam
  dsimp only
  split
  · exact .inl ⟨_, rfl, by simp⟩
  · split
    · exact .inl ⟨_, rfl, by simp⟩
    · split
      · rcases addCOMDecks_cases decks (random z) x.maxPlayers (x.maxPlayers + 100) 0 x.players
          hx.mem_decks with herror | ⟨players, hrun, hmem⟩
        · exact .inl ⟨.moduloZero, by rw [herror]; rfl, by simp⟩
        · simp only [hrun, ok_bind]
          split
          · exact .inl ⟨_, rfl, by simp⟩
          · exact .inr ⟨_, rfl, hx.numRoundsCleared_eq, hx.isActive_eq, hmem⟩
      · exact .inr ⟨_, rfl, hx.numRoundsCleared_eq, hx.isActive_eq, hx.mem_decks⟩

theorem prepareTeams_cases (decks : COMDeckIndex) (hasComTeams : Bool)
    (random : Nat → Nat → UInt64) (z : Nat) {teams : List Team}
    (hteams : ∀ x ∈ teams, Fresh decks x) :
    (∃ e, prepareTeams decks hasComTeams random z teams = .error e ∧ e ≠ .nullTeam) ∨
      ∃ teams', prepareTeams decks hasComTeams random z teams = .ok teams' ∧
        teams'.length = teams.length ∧ ∀ x ∈ teams', Fresh decks x := by
  induction teams generalizing z with
  | nil => exact .inr ⟨[], rfl, rfl, by simp⟩
  | cons x teams ih =>
      simp only [List.forall_mem_cons] at hteams
      rcases prepareTeam_cases decks hasComTeams random z hteams.1 with
        ⟨e, herror, hne⟩ | ⟨x', hrun, hx'⟩
      · exact .inl ⟨e, by simp only [prepareTeams, herror, error_bind], hne⟩
      · rcases ih (z + 1) hteams.2 with ⟨e, herror, hne⟩ | ⟨teams', hrun', hlength, hfresh⟩
        · exact .inl ⟨e, by simp only [prepareTeams, hrun, ok_bind, herror, error_bind], hne⟩
        · refine .inr ⟨x' :: teams', ?_, by simp [hlength], ?_⟩
          · simp only [prepareTeams, hrun, ok_bind, hrun']
            rfl
          · exact List.forall_mem_cons.mpr ⟨hx', hfresh⟩

/-! The bracket at the start. -/

/-- The numbers of teams for which a bracket can be created. -/
structure BracketSize (n : Nat) : Prop where
  min : 4 ≤ n
  max : n ≤ 32
  pow : n &&& (n - 1) = 0

theorem BracketSize.even {n : Nat} (h : BracketSize n) : n % 2 = 0 := by
  have hsizes : ∀ k < 33, 4 ≤ k → k &&& (k - 1) = 0 → k % 2 = 0 := by decide
  exact hsizes n (Nat.lt_succ_of_le h.max) h.min h.pow

/-- The tournament with a bracket of matches that have not been played. -/
def withBracket (t : Tournament) (ms : List Match) : Tournament :=
  { t with
    allMatches := ms
    zeroRoundMatches := List.range t.teams.length
    finalMatch := some (2 * t.teams.length - 2) }

theorem createBracketMatches_cases {t : Tournament} (hstate : t.currentState ≠ .registration) :
    (∃ message, t.createBracketMatches = .error (.logicError message) ∧
        ¬ BracketSize t.teams.length) ∨
      BracketSize t.teams.length ∧
        ∃ ms, t.createBracketMatches = .ok (withBracket t ms) ∧
          ms.map withoutRound =
            (List.range (2 * t.teams.length - 1)).map (bracketMatch t.teams.length) := by
  unfold Tournament.createBracketMatches
  dsimp only
  split
  · exact .inl ⟨_, rfl, fun h => by have := h.min; omega⟩
  · split
    · exact .inl ⟨_, rfl, fun h => by have := h.max; omega⟩
    · split
      · rename_i hpow
        exact .inl ⟨_, rfl, fun h => hpow h.pow⟩
      · rename_i hmin hmax hpow
        obtain ⟨ms, hrun, hms⟩ := bracketRounds_eq (Nat.le_of_not_lt hmin)
          (Nat.le_of_not_lt hmax) (by simpa using hpow)
        refine .inr ⟨⟨Nat.le_of_not_lt hmin, Nat.le_of_not_lt hmax, by simpa using hpow⟩, ms, ?_,
          hms⟩
        rw [hrun]
        simp only [ok_bind, withBracket]
        rfl

section Created

variable {t : Tournament} {ms : List Match}
  (hms : ms.map withoutRound =
    (List.range (2 * t.teams.length - 1)).map (bracketMatch t.teams.length))
include hms

theorem withBracket_getElem? (m : Nat) :
    (withBracket t ms).allMatches[m]?.map withoutRound =
      if m < 2 * t.teams.length - 1 then some (bracketMatch t.teams.length m) else none := by
  have hget := congrArg (fun l : List Match => l[m]?) hms
  simp only [List.getElem?_map] at hget
  simp only [withBracket, hget]
  split
  · rename_i hlt
    simp [List.getElem?_range hlt]
  · rename_i hge
    rw [List.getElem?_eq_none (by simpa using Nat.le_of_not_lt hge)]
    rfl

theorem winner_withBracket :
    winner (withBracket t ms) = fun m => if m < t.teams.length then some m else none := by
  funext m
  have hget := withBracket_getElem? hms m
  unfold winner
  rcases hmatch : (withBracket t ms).allMatches[m]? with _ | x
  · rw [hmatch] at hget
    split at hget
    · cases hget
    · rw [if_neg (by omega)]
      rfl
  · rw [hmatch] at hget
    split at hget
    · have hwinner : x.winnerTeam = (bracketMatch t.teams.length m).winnerTeam := by
        rw [← Option.some.inj hget]
        rfl
      rw [Option.bind_some, hwinner]
      rfl
    · cases hget

omit hms in
theorem rounds_withBracket (hteams : ∀ x ∈ t.teams, x.numRoundsCleared = 0 ∧ x.isActive = true)
    (ms : List Match) :
    rounds (withBracket t ms) = fun _ => 0 := by
  funext k
  unfold rounds withBracket
  rcases hx : t.teams[k]? with _ | x
  · rfl
  · exact (hteams x (List.mem_of_getElem? hx)).1

theorem standing_withBracket (hn : 2 ≤ t.teams.length)
    (hteams : ∀ x ∈ t.teams, x.numRoundsCleared = 0 ∧ x.isActive = true) :
    Standing t.teams.length (withBracket t ms) := by
  have hrounds := rounds_withBracket hteams ms
  refine ⟨⟨hn, ?_, rfl, ?_, rfl, rfl⟩, ?_, ?_⟩
  · have hlength := congrArg List.length hms
    simpa [withBracket] using hlength
  · intro m x hx
    have hget := withBracket_getElem? hms m
    rw [hx] at hget
    split at hget
    · have hmatch : withoutRound x = bracketMatch t.teams.length m := Option.some.inj hget
      exact ⟨congrArg Match.precedingA hmatch, congrArg Match.precedingB hmatch,
        congrArg Match.following hmatch⟩
    · cases hget
  · rw [winner_withBracket hms, hrounds]
    exact results_initial (by omega)
  · intro team x hx
    have hactive := (hteams x (List.mem_of_getElem? hx)).2
    rw [winner_withBracket hms, hrounds]
    unfold Eliminated
    dsimp only
    rw [path_succ, if_neg (Nat.not_lt.mpr (le_follow _ _))]
    simp [hactive]

/-- Nothing is pending before the first entrant is announced. -/
theorem progress_withBracket (hn : 2 ≤ t.teams.length) (hpending : t.pendingMatches = [])
    (hstate : t.currentState = .inProgress) :
    Progress t.teams.length (· < 0) (withBracket t ms) := by
  have hwinner := winner_withBracket hms
  refine ⟨?_, ?_, ?_⟩
  · intro m
    have hannounced : ∀ x, ¬ Announced t.teams.length (· < 0) (withBracket t ms) x := by
      rintro x ⟨hdecided, hle | hlt⟩
      · rw [hwinner] at hdecided
        exact hdecided (if_neg (Nat.not_lt.mpr hle))
      · exact Nat.not_lt_zero x hlt
    refine iff_of_false ?_ ?_
    · simp [withBracket, hpending]
    · rintro ⟨-, -, -, hA | hB⟩
      · exact hannounced _ hA
      · exact hannounced _ hB
  · rw [hwinner]
    dsimp only
    rw [if_neg (by omega)]
    simp [withBracket, hstate]
  · simp [withBracket, hstate]

end Created

/-! Skipping matches at the start. -/

section Skipping

variable {n : Nat} {t : Tournament}

theorem entering_zeroRound {z : Nat} (h : Progress n (· < z) t) (hstanding : Standing n t)
    (hz : z < n) : Entering n (· < z) z t := by
  have htwo := hstanding.two_le
  refine ⟨by simp [hstanding.results.entrant z hz], ?_, ?_, h.started⟩
  · intro f _
    rw [h.pending_iff]
    apply awaits_congr
    intro x _
    refine (and_iff_right_of_imp ?_).symm
    rintro ⟨-, hx⟩
    omega
  · rw [h.complete_iff]
    exact (and_iff_left (by omega)).symm

/-- The loop over the zero-round matches announces every entrant. -/
theorem exists_resolveSkippable (hstanding : Standing n t) (hprogress : Progress n (· < 0) t)
    (coin : Nat → Bool) :
    ∃ t', (List.range n).foldlM (fun self m =>
        Tournament.onWinnerTeamSet coin self.allMatches.length m self) t = .ok t' ∧
      Running n t' ∧ SameEntries t t' := by
  have hstep : ∀ z < n, ∀ self, Standing n self ∧ Progress n (· < z) self ∧ SameEntries t self →
      ∃ t', Tournament.onWinnerTeamSet coin self.allMatches.length z self = .ok t' ∧
        Standing n t' ∧ Progress n (· < z + 1) t' ∧ SameEntries t t' := by
    rintro z hz self ⟨hself, hbefore, hsame⟩
    obtain ⟨t', hrun, hstanding', hafter, hsame', -⟩ :=
      hself.onWinnerTeamSet coin (entering_zeroRound hbefore hself hz)
        (by rw [hself.length_matches]; omega : 2 * n - 1 ≤ z + self.allMatches.length)
    refine ⟨t', hrun, hstanding', ?_, hsame.trans hsame'⟩
    simpa only [Nat.lt_succ_iff_lt_or_eq] using hafter
  obtain ⟨t', hrun, hstanding', hprogress', hsame⟩ := exists_foldlM_range
    (fun z self => Standing n self ∧ Progress n (· < z) self ∧ SameEntries t self) hstep
    ⟨hstanding, hprogress, SameEntries.refl t⟩
  refine ⟨t', hrun, ⟨hstanding', ?_, hprogress'.complete_iff, hprogress'.started⟩, hsame⟩
  intro m
  rw [hprogress'.pending_iff]
  apply awaits_congr
  intro x _
  unfold Announced
  refine and_congr_right fun _ => ?_
  simp only [or_true, iff_true]
  omega

end Skipping

/-- A running tournament whose settings are those of a registration, and whose
COM decks are in the index. -/
structure Started (n : Nat) (registered t : Tournament) : Prop where
  size : BracketSize n
  running : Running n t
  comDeckIndex_eq : t.comDeckIndex = registered.comDeckIndex
  mapNumber_eq : t.mapNumber = registered.mapNumber
  mem_decks : ∀ x ∈ t.teams, ∀ deck, PlayerEntry.com deck ∈ x.players →
    deck ∈ t.comDeckIndex.decks

/-- The players are those of teams that have the same entries. -/
theorem exists_players {t t' : Tournament} (h : SameEntries t t') {x' : Team}
    (hx' : x' ∈ t'.teams) : ∃ x ∈ t.teams, x.players = x'.players := by
  have hmem := List.mem_map_of_mem
    (f := fun x : Team => (x.maxPlayers, x.players, x.name, x.password)) hx'
  rw [h.teams_eq, List.mem_map] at hmem
  obtain ⟨x, hx, heq⟩ := hmem
  exact ⟨x, hx, congrArg (fun entry => entry.2.1) heq⟩

theorem Started.of_sameEntries {n : Nat} {registered t t' : Tournament}
    (h : Started n registered t) (hsame : SameEntries t t') (hrunning : Running n t') :
    Started n registered t' := by
  refine ⟨h.size, hrunning, hsame.comDeckIndex_eq.trans h.comDeckIndex_eq,
    hsame.mapNumber_eq.trans h.mapNumber_eq, ?_⟩
  intro x' hx' deck hdeck
  obtain ⟨x, hx, hplayers⟩ := exists_players hsame hx'
  rw [hsame.comDeckIndex_eq]
  exact h.mem_decks x hx deck (by rwa [hplayers])

/-- The tournament when the order of the teams is fixed. -/
def withEntries (choices : Choices) (t : Tournament) : Tournament :=
  { t with
    teams := t.entries choices
    numTeams := if hasFlag t.flags flagResizeOnStart then (t.entries choices).length
      else t.numTeams
    currentState := .inProgress }

/-- With enough teams of humans, a start is the creation of the bracket and the
preparation of the teams. -/
theorem start_eq (choices : Choices) {t : Tournament} (hstate : t.currentState = .registration)
    (hmany : ¬ (t.teams.filter Team.hasAnyHumanPlayers).length <
      (if hasFlag t.flags flagHasComTeams = true then 1 else 2)) :
    t.start choices = (do
      let self ← (withEntries choices t).createBracketMatches
      let teams ← prepareTeams self.comDeckIndex (hasFlag t.flags flagHasComTeams) choices.deck 0
        self.teams
      let self := { self with teams := teams }
      self.zeroRoundMatches.foldlM
        (fun self m => Tournament.onWinnerTeamSet choices.coin self.allMatches.length m self)
        self) := by
  unfold Tournament.start
  dsimp only
  rw [if_neg (not_not.mpr hstate), if_neg hmany]
  rfl

/-- Once the teams are prepared, the start succeeds. -/
theorem exists_started (choices : Choices) {t : Tournament} (hpending : t.pendingMatches = [])
    (hfresh : ∀ x ∈ t.teams, Fresh t.comDeckIndex x) (hstate : t.currentState = .registration)
    (hmany : ¬ (t.teams.filter Team.hasAnyHumanPlayers).length <
      (if hasFlag t.flags flagHasComTeams = true then 1 else 2))
    (hsize : BracketSize (t.entries choices).length) {teams : List Team}
    (hteams : prepareTeams t.comDeckIndex (hasFlag t.flags flagHasComTeams) choices.deck 0
      (t.entries choices) = .ok teams) :
    ∃ n t', t.start choices = .ok t' ∧ Started n t t' := by
  set self : Tournament := withEntries choices t with hself
  obtain ⟨hlength, hprepared⟩ : teams.length = self.teams.length ∧
      ∀ x ∈ teams, Fresh t.comDeckIndex x := by
    have hentries : ∀ x ∈ self.teams, Fresh t.comDeckIndex x :=
      fun x hx => hfresh x (entries_subset choices t hx)
    rcases prepareTeams_cases t.comDeckIndex (hasFlag t.flags flagHasComTeams) choices.deck 0
      hentries with ⟨e, herror, -⟩ | ⟨teams', hteams', hlength, hprepared⟩
    · cases hteams.symm.trans herror
    · obtain rfl := Except.ok.inj (hteams.symm.trans hteams')
      exact ⟨hlength, hprepared⟩
  rcases createBracketMatches_cases (t := self) (by simp [hself, withEntries]) with
    ⟨message, -, hnot⟩ | ⟨-, ms, hcreate, hms⟩
  · exact absurd hsize hnot
  have htwo : 2 ≤ teams.length := by
    rw [hlength]
    exact Nat.le_trans (by decide) hsize.min
  have hms' : ms.map withoutRound =
      (List.range (2 * teams.length - 1)).map (bracketMatch teams.length) := by rwa [hlength]
  have hstanding := standing_withBracket (t := { self with teams := teams }) hms' htwo
    (fun x hx => ⟨(hprepared x hx).numRoundsCleared_eq, (hprepared x hx).isActive_eq⟩)
  have hprogress := progress_withBracket (t := { self with teams := teams }) hms' htwo
    hpending rfl
  obtain ⟨t', hrun, hrunning, hsame⟩ :=
    exists_resolveSkippable hstanding hprogress choices.coin
  refine ⟨teams.length, t', ?_, by rwa [hlength], hrunning, hsame.comDeckIndex_eq,
    hsame.mapNumber_eq, ?_⟩
  · rw [start_eq choices hstate hmany]
    refine bind_of_ok hcreate (bind_of_ok hteams ?_)
    rw [← hrun]
    simp only [withBracket, hlength]
  · intro x' hx' deck hdeck
    obtain ⟨x, hx, hplayers⟩ := exists_players hsame hx'
    rw [hsame.comDeckIndex_eq]
    exact (hprepared x hx).mem_decks deck (by rwa [hplayers])

/-- Starting a tournament either throws one of its exceptions or leads to a
bracket in which everything that can be skipped is decided. -/
theorem start_cases (choices : Choices) {t : Tournament} (hpending : t.pendingMatches = [])
    (hfresh : ∀ x ∈ t.teams, Fresh t.comDeckIndex x) :
    (∃ e, t.start choices = .error e ∧ e ≠ .nullTeam) ∨
      ∃ n t', t.start choices = .ok t' ∧ Started n t t' := by
  by_cases hstate : t.currentState = .registration
  · by_cases hfew : (t.teams.filter Team.hasAnyHumanPlayers).length <
        (if hasFlag t.flags flagHasComTeams = true then 1 else 2)
    · refine .inl ⟨.runtimeError "not enough registrants to start tournament", ?_, by simp⟩
      unfold Tournament.start
      exact (if_neg (not_not.mpr hstate)).trans (if_pos hfew)
    · rcases createBracketMatches_cases (t := withEntries choices t) (by simp [withEntries]) with
        ⟨message, herror, -⟩ | ⟨hsize, ms, hcreate, -⟩
      · refine .inl ⟨.logicError message, ?_, by simp⟩
        rw [start_eq choices hstate hfew, herror]
        rfl
      have hentries : ∀ x ∈ t.entries choices, Fresh t.comDeckIndex x :=
        fun x hx => hfresh x (entries_subset choices t hx)
      rcases prepareTeams_cases t.comDeckIndex (hasFlag t.flags flagHasComTeams) choices.deck 0
          hentries with ⟨e, herror, hne⟩ | ⟨teams, hteams, -, -⟩
      · refine .inl ⟨e, ?_, hne⟩
        rw [start_eq choices hstate hfew]
        refine bind_of_ok hcreate (Eq.trans (congrArg (· >>= _) herror) ?_)
        rfl
      · exact .inr (exists_started choices hpending hfresh hstate hfew hsize hteams)
  · refine .inl ⟨.runtimeError "tournament has already started", ?_, by simp⟩
    unfold Tournament.start
    exact if_pos hstate

end HuntersGuild.TournamentStart
