import HuntersGuild.TournamentRegistration
import HuntersGuild.TournamentStart
import Mathlib.Data.Finset.Card

/-!
What is left of a tournament that could not be started.
-/

namespace HuntersGuild.TournamentAtomicity

open HuntersGuild.CallTrace
open HuntersGuild.ExceptionRules
open HuntersGuild.TournamentOperations
open HuntersGuild.TournamentRegistration
open HuntersGuild.TournamentStart

/-- A tournament before it is started. -/
structure Open (t : Tournament) : Prop where
  currentState_eq : t.currentState = .registration
  pendingMatches_eq : t.pendingMatches = []
  allMatches_eq : t.allMatches = []
  fresh : ∀ x ∈ t.teams, Fresh t.comDeckIndex x

/-- A tournament that can be started just as this one could. -/
structure Unstarted (t t' : Tournament) : Prop where
  currentState_eq : t'.currentState = .registration
  teams_eq : t'.teams.map (fun x => (x.name, x.players)) = t.teams.map fun x => (x.name, x.players)
  pendingMatches_eq : t'.pendingMatches = t.pendingMatches

/-- A start that completes, or throws and leaves the tournament unstarted. -/
def StartsOrNot (choices : Choices) (t : Tournament) : Prop :=
  match call (.start choices) t with
  | .ok (none, _) => True
  | .ok (some _, t') => Unstarted t t'
  | .error _ => False

/-- The first card of a drawn deck, by which decks are told apart. -/
def drawnLeader (decks : COMDeckIndex) (random : UInt64) : Option UInt16 :=
  (decks.decks[random.toNat % decks.decks.length]?).map COMDeckDefinition.firstCardId

/-- What is drawn in the first attempts, of which the last one has number zero. -/
def drawnLeaders (decks : COMDeckIndex) (random : Nat → UInt64) (fuel n : Nat) : Finset UInt16 :=
  ((List.range n).filterMap fun i => drawnLeader decks (random (fuel - 1 - i))).toFinset

/-- A team that can be filled up with COM decks: there are as many decks as empty
slots, and the draws yield as many different ones before a hundred of them are
rejected. -/
structure Completes (decks : COMDeckIndex) (hasComTeams : Bool) (random : Nat → Nat → UInt64)
    (z : Nat) (x : Team) : Prop where
  humans : x.players.any PlayerEntry.isCom = false
  enough : (x.maxPlayers + 2 ^ 64 - x.players.length) % 2 ^ 64 ≤ decks.numDecks
  draws : (hasComTeams || !x.players.isEmpty) = true →
    x.maxPlayers - x.players.length ≤ (drawnLeaders decks (random z) (x.maxPlayers + 100)
      (x.maxPlayers - x.players.length + 99)).card

/-- There are not enough teams of humans, or there are teams enough for a bracket,
each of which can be filled up. -/
def Startable (choices : Choices) (t : Tournament) : Prop :=
  (t.teams.filter Team.hasAnyHumanPlayers).length < minHumanTeams t.flags ∨
    BracketSize (t.entries choices).length ∧
      ∀ z x, (t.entries choices)[z]? = some x →
        Completes t.comDeckIndex (hasFlag t.flags flagHasComTeams) choices.deck z x

variable {decks : COMDeckIndex} {hasComTeams : Bool}

/-! Filling up a team. -/

section Draws

variable {random : Nat → UInt64} {maxPlayers fuel attempts n : Nat} {players : List PlayerEntry}

def leaderOf : PlayerEntry → Option UInt16
  | .human .. => none
  | .com deck => some deck.firstCardId

/-- The first cards of the decks that are on a team. -/
def leaders (players : List PlayerEntry) : Finset UInt16 := (players.filterMap leaderOf).toFinset

theorem drawnLeaders_succ {c : UInt16} (hdrawn : drawnLeader decks (random fuel) = some c) :
    drawnLeaders decks random (fuel + 1) (n + 1) =
      insert c (drawnLeaders decks random fuel n) := by
  have hshift : ((List.range n).map Nat.succ).filterMap
      (fun i => drawnLeader decks (random (fuel - i))) =
        (List.range n).filterMap fun i => drawnLeader decks (random (fuel - 1 - i)) := by
    rw [List.filterMap_map]
    congr 1
    funext i
    simp only [Function.comp_apply]
    rw [show fuel - i.succ = fuel - 1 - i by omega]
  unfold drawnLeaders
  simp only [Nat.add_sub_cancel]
  rw [List.range_succ_eq_map, List.filterMap_cons, hshift, Nat.sub_zero, hdrawn]
  simp

theorem card_drawnLeaders_le : (drawnLeaders decks random fuel n).card ≤ n :=
  calc (drawnLeaders decks random fuel n).card
      ≤ ((List.range n).filterMap fun i => drawnLeader decks (random (fuel - 1 - i))).length :=
        List.toFinset_card_le _
    _ ≤ (List.range n).length := List.length_filterMap_le _ _
    _ = n := List.length_range

theorem mem_leaders_iff {deck : COMDeckDefinition} :
    (players.any fun
      | .human .. => false
      | .com comDeck => comDeck = deck ∨ comDeck.firstCardId = deck.firstCardId) = true ↔
      deck.firstCardId ∈ leaders players := by
  simp only [List.any_eq_true, leaders, List.mem_toFinset, List.mem_filterMap]
  refine exists_congr fun player => and_congr_right fun _ => ?_
  cases player with
  | human accountId playerName valid => simp [leaderOf]
  | com comDeck =>
      simp only [leaderOf, decide_eq_true_eq, Option.some.injEq, or_iff_right_iff_imp]
      rintro rfl
      rfl

theorem leaders_append (deck : COMDeckDefinition) :
    leaders (players ++ [.com deck]) = insert deck.firstCardId (leaders players) := by
  ext c
  simp [leaders, leaderOf]

theorem drawnLeader_of_error {r : UInt64} {e : TournamentError}
    (h : decks.randomDeck r = .error e) : decks.decks = [] := by
  unfold COMDeckIndex.randomDeck at h
  split at h
  · cases h
  · rename_i hnone
    by_contra hne
    have hlt := Nat.mod_lt r.toNat (List.length_pos_iff.mpr hne)
    exact absurd (List.getElem?_eq_none_iff.mp hnone) (Nat.not_le.mpr hlt)

theorem drawnLeader_of_ok {r : UInt64} {deck : COMDeckDefinition}
    (h : decks.randomDeck r = .ok deck) : drawnLeader decks r = some deck.firstCardId := by
  unfold COMDeckIndex.randomDeck at h
  split at h
  · rename_i deck' hget
    obtain rfl := Except.ok.inj h
    rw [drawnLeader, hget]
    rfl
  · cases h

theorem drawnLeaders_of_nil (h : decks.decks = []) : drawnLeaders decks random fuel n = ∅ := by
  simp [drawnLeaders, drawnLeader, h]

/-- Whether the loop fills the team is decided by the number of different decks
in as many draws as there are empty slots and rejections left. -/
theorem addCOMDecks_iff (hattempts : attempts ≤ 100)
    (hfuel : maxPlayers - players.length + (100 - attempts) ≤ fuel) :
    (∃ players', addCOMDecks decks random maxPlayers fuel attempts players = .ok players' ∧
        maxPlayers ≤ players'.length) ↔
      maxPlayers - players.length ≤ (drawnLeaders decks random fuel
        (maxPlayers - players.length + 99 - attempts) \ leaders players).card := by
  induction fuel generalizing attempts players with
  | zero =>
      refine iff_of_true ⟨players, rfl, by omega⟩ ?_
      rw [show maxPlayers - players.length = 0 by omega]
      exact Nat.zero_le _
  | succ fuel ih =>
      unfold addCOMDecks
      by_cases hfull : maxPlayers ≤ players.length
      · rw [if_neg fun h => absurd h.1 (Nat.not_lt.mpr hfull)]
        refine iff_of_true ⟨players, rfl, hfull⟩ ?_
        rw [Nat.sub_eq_zero_of_le hfull]
        exact Nat.zero_le _
      obtain ⟨slots, hslots⟩ : ∃ slots, maxPlayers - players.length = slots + 1 :=
        ⟨maxPlayers - players.length - 1, by omega⟩
      by_cases hspent : attempts = 100
      · -- one draw less than there are slots
        rw [if_neg fun h => absurd h.2 (by omega)]
        refine iff_of_false ?_ (Nat.not_le.mpr ?_)
        · rintro ⟨players', hok, hlength⟩
          obtain rfl := Except.ok.inj hok
          exact hfull hlength
        · calc _ ≤ (drawnLeaders decks random (fuel + 1)
                (maxPlayers - players.length + 99 - attempts)).card :=
                Finset.card_le_card Finset.sdiff_subset
            _ ≤ maxPlayers - players.length + 99 - attempts := card_drawnLeaders_le
            _ < maxPlayers - players.length := by omega
      · rw [if_pos ⟨by omega, by omega⟩]
        rcases hdeck : decks.randomDeck (random fuel) with e | deck
        · have hnil := drawnLeader_of_error hdeck
          refine iff_of_false ?_ ?_
          · rintro ⟨players', hok, -⟩
            cases hok
          · rw [drawnLeaders_of_nil hnil, hslots]
            simp
        have hdrawn := drawnLeader_of_ok hdeck
        rw [show maxPlayers - players.length + 99 - attempts = slots + 99 - attempts + 1 by omega,
          drawnLeaders_succ hdrawn, ok_bind]
        dsimp only
        split
        · rename_i hany
          have hduplicate := mem_leaders_iff.mp hany
          rw [ih (by omega) (by omega),
            show maxPlayers - players.length + 99 - (attempts + 1) = slots + 99 - attempts by omega,
            Finset.insert_sdiff_of_mem _ hduplicate]
        · rename_i hany
          have hduplicate := mt mem_leaders_iff.mpr hany
          have hlength : (players ++ [PlayerEntry.com deck]).length = players.length + 1 := by simp
          have hcard := Finset.card_erase_add_one (Finset.mem_insert_self deck.firstCardId
            (drawnLeaders decks random fuel (slots + 99 - attempts) \ leaders players))
          rw [Finset.erase_insert_eq_erase, ← Finset.sdiff_insert] at hcard
          rw [ih hattempts (by rw [hlength]; omega), hlength, leaders_append, hslots,
            show maxPlayers - (players.length + 1) = slots by omega,
            Finset.insert_sdiff_of_notMem _ hduplicate, ← hcard]
          omega

end Draws

/-! Preparing the teams. -/

theorem prepareTeam_iff {random : Nat → Nat → UInt64} {z : Nat} {x : Team} :
    (∃ x', prepareTeam decks hasComTeams random z x = .ok x') ↔
      Completes decks hasComTeams random z x := by
  unfold prepareTeam
  dsimp only
  by_cases hcom : x.players.any PlayerEntry.isCom = true
  · rw [if_pos hcom]
    refine iff_of_false nofun fun h => ?_
    rw [h.humans] at hcom
    cases hcom
  rw [if_neg hcom]
  by_cases hfew : decks.numDecks < (x.maxPlayers + 2 ^ 64 - x.players.length) % 2 ^ 64
  · rw [if_pos hfew]
    exact iff_of_false nofun fun h => absurd h.enough (Nat.not_le.mpr hfew)
  rw [if_neg hfew]
  have henough := Nat.le_of_not_lt hfew
  have hhumans := Bool.eq_false_iff.mpr hcom
  by_cases hentered : (hasComTeams || !x.players.isEmpty) = true
  · rw [if_pos hentered]
    have hnone : leaders x.players = ∅ := by
      rw [leaders, List.toFinset_eq_empty_iff, List.filterMap_eq_nil_iff]
      intro player hplayer
      have hhuman := List.any_eq_false.mp hhumans player hplayer
      cases player with
      | human accountId playerName valid => rfl
      | com deck => exact absurd rfl hhuman
    have hloop := @addCOMDecks_iff decks (random z) x.maxPlayers (x.maxPlayers + 100) 0 x.players
      (Nat.zero_le _) (by omega)
    rw [hnone, Finset.sdiff_empty, Nat.sub_zero] at hloop
    constructor
    · rintro ⟨x', hok⟩
      refine ⟨hhumans, henough, fun _ => hloop.mp ?_⟩
      obtain ⟨players, hplayers, hok⟩ := bind_eq_ok.mp hok
      refine ⟨players, hplayers, ?_⟩
      by_contra hshort
      rw [if_pos (Nat.lt_of_not_le hshort)] at hok
      cases hok
    · intro h
      obtain ⟨players, hplayers, hlength⟩ := hloop.mpr (h.draws hentered)
      exact ⟨_, bind_of_ok hplayers (if_neg (Nat.not_lt.mpr hlength))⟩
  · rw [if_neg hentered]
    exact iff_of_true ⟨_, rfl⟩ ⟨hhumans, henough, fun h => absurd h hentered⟩

theorem prepareTeams_iff {random : Nat → Nat → UInt64} {z : Nat} {teams : List Team} :
    (∃ teams', prepareTeams decks hasComTeams random z teams = .ok teams') ↔
      ∀ k x, teams[k]? = some x → Completes decks hasComTeams random (z + k) x := by
  induction teams generalizing z with
  | nil => exact iff_of_true ⟨[], rfl⟩ fun k x hx => nomatch hx
  | cons x teams ih =>
      constructor
      · rintro ⟨teams', hok⟩ k y hy
        obtain ⟨x', hhead, hok⟩ := bind_eq_ok.mp hok
        obtain ⟨rest, htail, -⟩ := bind_eq_ok.mp hok
        cases k with
        | zero =>
            obtain rfl := Option.some.inj hy
            exact prepareTeam_iff.mp ⟨x', hhead⟩
        | succ k =>
            rw [Nat.add_comm k 1, ← Nat.add_assoc]
            exact ih.mp ⟨rest, htail⟩ k y hy
      · intro h
        obtain ⟨x', hhead⟩ := prepareTeam_iff.mpr (h 0 x rfl)
        obtain ⟨rest, htail⟩ := ih.mpr fun k y hy => by
          rw [Nat.add_assoc, Nat.add_comm 1 k]
          exact h (k + 1) y hy
        exact ⟨x' :: rest, bind_of_ok hhead (bind_of_ok htail rfl)⟩

/-! Starting. -/

variable {t t' : Tournament} {choices : Choices}

/-- Past the first two checks, a tournament that is abandoned is in progress. -/
theorem currentState_abandonedStart
    (h : ¬ (t.currentState ≠ .registration ∨
      (t.teams.filter Team.hasAnyHumanPlayers).length < minHumanTeams t.flags)) :
    (abandonedStart choices t).currentState = .inProgress := by
  unfold abandonedStart
  dsimp only
  rw [if_neg h]
  split
  · rfl
  · rename_i self hcreate
    exact (createBracketMatches_frame hcreate).2.2

theorem startsOrNot_of_ok (h : t.start choices = .ok t') : StartsOrNot choices t := by
  simp only [StartsOrNot, call, catching, h]

theorem startsOrNot_of_error {e : TournamentError} (h : t.start choices = .error e)
    (hstarts : StartsOrNot choices t) : (abandonedStart choices t).currentState = .registration := by
  simp only [StartsOrNot, call, catching, h] at hstarts
  split at hstarts
  · rename_i hcall
    split at hcall <;> cases hcall
  · rename_i hcall
    split at hcall
    · cases hcall
    · obtain ⟨-, rfl⟩ := Prod.mk.inj (Except.ok.inj hcall)
      exact hstarts.currentState_eq
  · exact hstarts.elim

/-- For which teams and draws a start completes or leaves the tournament as it
was. -/
theorem startsOrNot_iff (t : Tournament) (hopen : Open t) (choices : Choices) :
    StartsOrNot choices t ↔ Startable choices t := by
  by_cases hfew : (t.teams.filter Team.hasAnyHumanPlayers).length < minHumanTeams t.flags
  · refine iff_of_true ?_ (.inl hfew)
    have herror : t.start choices =
        .error (.runtimeError "not enough registrants to start tournament") := by
      unfold Tournament.start
      exact (if_neg (not_not.mpr hopen.currentState_eq)).trans (if_pos hfew)
    have habandoned : abandonedStart choices t = t := by
      unfold abandonedStart
      exact if_pos (.inr hfew)
    simp only [StartsOrNot, call, catching, herror, habandoned, IsCrash]
    exact ⟨hopen.currentState_eq, rfl, rfl⟩
  have hpassed : ¬ (t.currentState ≠ .registration ∨
      (t.teams.filter Team.hasAnyHumanPlayers).length < minHumanTeams t.flags) := by
    rintro (hstate | hfew')
    · exact hstate hopen.currentState_eq
    · exact hfew hfew'
  have hprepared := @prepareTeams_iff t.comDeckIndex (hasFlag t.flags flagHasComTeams) choices.deck
    0 (t.entries choices)
  simp only [Nat.zero_add] at hprepared
  constructor
  · intro hstarts
    rcases hrun : t.start choices with e | t'
    · have hleft := startsOrNot_of_error hrun hstarts
      rw [currentState_abandonedStart hpassed] at hleft
      cases hleft
    · right
      rw [start_eq choices hopen.currentState_eq hfew] at hrun
      obtain ⟨self, hcreate, hrun⟩ := bind_eq_ok.mp hrun
      obtain ⟨teams, hteams, -⟩ := bind_eq_ok.mp hrun
      rcases createBracketMatches_cases (t := withEntries choices t) (by simp [withEntries]) with
        ⟨message, herror, -⟩ | ⟨hsize, ms, hcreate', -⟩
      · cases hcreate.symm.trans herror
      · obtain rfl := Except.ok.inj (hcreate.symm.trans hcreate')
        exact ⟨hsize, hprepared.mp ⟨teams, hteams⟩⟩
  · rintro (hfew' | ⟨hsize, hcompletes⟩)
    · exact absurd hfew' hfew
    · obtain ⟨teams, hteams⟩ := hprepared.mpr hcompletes
      obtain ⟨n, t', hrun, -⟩ := exists_started choices hopen.pendingMatches_eq hopen.fresh
        hopen.currentState_eq hfew hsize hteams
      exact startsOrNot_of_ok hrun

/-! Every tournament in the state of registration is open. -/

theorem open_registering (comDeckIndex : COMDeckIndex) (name : String) (mapNumber : UInt32)
    (rules : BattleRules.Rules) (flags : UInt8) (registrations : List Registration) :
    Open (registering comDeckIndex name mapNumber rules flags registrations) :=
  ⟨rfl, rfl, rfl, fresh_registering comDeckIndex name mapNumber rules flags registrations⟩

/-- No result of a match leads back to the registration. -/
theorem resultRelation_started : ResultRelation fun t t' =>
    t.currentState ≠ .registration → t'.currentState ≠ .registration where
  refl := fun _ => id
  trans := fun _ _ _ h h' ht => h' (h ht)
  setWinner := by
    intro m team t t' h
    unfold Tournament.setWinnerTeamWithoutTriggers at h
    obtain ⟨matchM, -, h⟩ := bind_eq_ok.mp h
    split at h
    · obtain ⟨a, -, h⟩ := bind_eq_ok.mp h
      obtain ⟨b, -, h⟩ := bind_eq_ok.mp h
      dsimp only at h
      split at h
      · cases h
      · obtain ⟨x, -, h⟩ := bind_eq_ok.mp h
        obtain ⟨y, -, h⟩ := bind_eq_ok.mp h
        cases h
        exact id
    · cases h
  pending := fun _ _ => id
  complete := fun _ _ => by simp

theorem Open.setTeam (h : Open t) {teams : List Team} {ids : List UInt32}
    (hteams : ∀ x ∈ teams, Fresh t.comDeckIndex x) :
    Open { t with teams := teams, allPlayerAccountIds := ids } :=
  ⟨h.currentState_eq, h.pendingMatches_eq, h.allMatches_eq, hteams⟩

theorem fresh_set (h : Open t) {team : Nat} {y : Team} (hy : Fresh t.comDeckIndex y) :
    ∀ x ∈ t.teams.set team y, Fresh t.comDeckIndex x := by
  intro x hx
  obtain hx | rfl := List.mem_or_eq_of_mem_set hx
  · exact h.fresh x hx
  · exact hy

theorem registerPlayer_frame {team : Nat} {c : Registrant} {teamName password : String}
    {r : Option TournamentError}
    (hcall : registerPlayer team c teamName password t = .ok (r, t')) :
    t'.currentState = t.currentState ∧ (Open t → Open t') := by
  unfold registerPlayer at hcall
  obtain ⟨x, hx, hcall⟩ := bind_eq_ok.mp hcall
  split at hcall
  · cases hcall
    exact ⟨rfl, id⟩
  · split at hcall
    · cases hcall
      exact ⟨rfl, id⟩
    · split at hcall
      · cases hcall
        exact ⟨rfl, id⟩
      · split at hcall
        · cases hcall
          exact ⟨rfl, fun h => h.setTeam h.fresh⟩
        · cases hcall
          refine ⟨rfl, fun h => ?_⟩
          have hfresh := h.fresh x (List.mem_of_getElem? (getTeam_eq_ok hx))
          refine h.setTeam (fresh_set h ⟨hfresh.numRoundsCleared_eq, hfresh.isActive_eq, ?_⟩)
          intro deck hdeck
          refine hfresh.mem_decks deck ?_
          simpa using hdeck

theorem fresh_withoutPlayer {x : Team} (hx : Fresh decks x) (index : Nat) :
    Fresh decks (x.withoutPlayer index) :=
  ⟨hx.numRoundsCleared_eq, hx.isActive_eq,
    fun deck hdeck => hx.mem_decks deck (List.mem_of_mem_eraseIdx hdeck)⟩

theorem abandonedUnregister_frame (t : Tournament) (team : Nat) (accountId : UInt32) :
    (abandonedUnregister team accountId t).currentState = t.currentState ∧
      (Open t → Open (abandonedUnregister team accountId t)) := by
  unfold abandonedUnregister
  split
  · exact ⟨rfl, id⟩
  · rename_i x hx
    split
    · exact ⟨rfl, id⟩
    · refine ⟨rfl, fun h => h.setTeam (fresh_set h (fresh_withoutPlayer ?_ _))⟩
      exact h.fresh x (List.mem_of_getElem? hx)

/-- A withdrawal that returns leaves an open tournament open, and does not lead
back to the registration. -/
theorem open_or_started_unregisterPlayer {coin : Nat → Bool} {traversal : List Nat} {team : Nat}
    {accountId : UInt32} {b : Bool}
    (hrun : t.unregisterPlayer coin traversal team accountId = .ok (b, t')) :
    (Open t → Open t') ∧ (t.currentState ≠ .registration → t'.currentState ≠ .registration) := by
  unfold Tournament.unregisterPlayer at hrun
  obtain ⟨x, hx, hrun⟩ := bind_eq_ok.mp hrun
  split at hrun
  · cases hrun
    exact ⟨id, id⟩
  · dsimp only at hrun
    split at hrun
    · rename_i hstarted
      obtain ⟨s, hs, hrun⟩ := bind_eq_ok.mp hrun
      cases hrun
      exact ⟨fun h => absurd h.currentState_eq hstarted,
        fun _ => resultRelation_started.forfeit hs hstarted⟩
    · rename_i hstate
      split at hrun
      · cases hrun
        refine ⟨fun h => h.setTeam (fresh_set h (fresh_withoutPlayer ?_ _)),
          fun hstarted => absurd hstarted hstate⟩
        exact h.fresh x (List.mem_of_getElem? (getTeam_eq_ok hx))
      · cases hrun

/-- The states of a tournament that has been created. -/
def Tracked (t : Tournament) : Prop := t.currentState = .registration → Open t

theorem tracked_start (h : Tracked t) {r : Option TournamentError}
    (hcall : call (.start choices) t = .ok (r, t')) : Tracked t' := by
  simp only [call, catching] at hcall
  rcases hrun : t.start choices with e | s
  · rw [hrun] at hcall
    dsimp only at hcall
    split at hcall
    · cases hcall
    · cases hcall
      by_cases hrefused : t.currentState ≠ .registration ∨
          (t.teams.filter Team.hasAnyHumanPlayers).length < minHumanTeams t.flags
      · unfold abandonedStart
        dsimp only
        rw [if_pos hrefused]
        exact h
      · intro hstate
        rw [currentState_abandonedStart hrefused] at hstate
        cases hstate
  · rw [hrun] at hcall
    cases hcall
    by_cases hstate : t.currentState = .registration
    · have hopen := h hstate
      rcases start_cases choices hopen.pendingMatches_eq hopen.fresh with
        ⟨e, herror, -⟩ | ⟨n, t', hstart, hstarted⟩
      · cases hrun.symm.trans herror
      · obtain rfl := Except.ok.inj (hrun.symm.trans hstart)
        exact fun hback => absurd hback hstarted.running.progress.started
    · unfold Tournament.start at hrun
      cases hrun.symm.trans (if_pos hstate)

theorem Tracked.call (h : Tracked t) {op : Op} {r : Option TournamentError}
    (hcall : call op t = .ok (r, t')) : Tracked t' := by
  cases op with
  | registerPlayer team c teamName password =>
      obtain ⟨hsame, hopen⟩ := registerPlayer_frame hcall
      exact fun hstate => hopen (h (hsame ▸ hstate))
  | unregisterPlayer team accountId traversal coin =>
      simp only [TournamentRegistration.call, catching] at hcall
      rcases hrun : t.unregisterPlayer coin traversal team accountId with e | ⟨b, s⟩
      · rw [hrun] at hcall
        dsimp only [Except.map] at hcall
        split at hcall
        · cases hcall
        · cases hcall
          obtain ⟨hsame, hopen⟩ := abandonedUnregister_frame t team accountId
          exact fun hstate => hopen (h (hsame ▸ hstate))
      · rw [hrun] at hcall
        cases hcall
        obtain ⟨hopen, hstarted⟩ := open_or_started_unregisterPlayer hrun
        intro hstate
        refine hopen (h ?_)
        by_contra hnot
        exact hstarted hnot hstate
  | start choices => exact tracked_start h hcall
  | setWinnerTeam m team coin =>
      simp only [TournamentRegistration.call, catching] at hcall
      rcases hrun : t.setWinnerTeam coin m team with e | s
      · rw [hrun] at hcall
        dsimp only at hcall
        split at hcall
        · cases hcall
        · cases hcall
          exact h
      · rw [hrun] at hcall
        cases hcall
        intro hstate
        have hopen : Open t := by
          refine h ?_
          by_contra hnot
          exact resultRelation_started.setWinnerTeam hrun hnot hstate
        -- without a bracket there is no match to be won
        have hnull : t.setWinnerTeam coin m team = .error .nullMatch := by
          simp [Tournament.setWinnerTeam, Tournament.setWinnerTeamWithoutTriggers,
            Tournament.getMatch, hopen.allMatches_eq]
        cases hrun.symm.trans hnull

/-- Whatever is done with a tournament from its creation on: while it is in the
state of registration, it is open. -/
theorem open_run (comDeckIndex : COMDeckIndex) (name : String) (mapNumber : UInt32)
    (rules : BattleRules.Rules) (numTeams : Nat) (flags : UInt8) (ops : List Op) :
    ∀ c ∈ trace call (created comDeckIndex name mapNumber rules numTeams flags) ops,
      Tracked c.1 :=
  invariant_of_mem_trace Tracked (fun _ ht _ _ _ _ hcall => ht.call hcall)
    fun _ => open_registering comDeckIndex name mapNumber rules flags _

/-- Four teams of one player each, the last two of them empty, with a number of
COM decks. -/
def halfFull (decks : COMDeckIndex) : Tournament :=
  registering decks "T" 1 BattleRules.Rules.cleared 0
    [⟨1, "A", "", [registrantA]⟩, ⟨1, "B", "", [registrantB]⟩, ⟨1, "", "", []⟩,
      ⟨1, "", "", []⟩]

def oneDeck : COMDeckIndex := ⟨[⟨"d", Vector.replicate 31 1⟩], by simp⟩

def noDecks : COMDeckIndex := ⟨[], List.nodup_nil⟩

def firstChoices : Choices := ⟨fun _ => 0, fun _ _ => 0, fun _ => false⟩

theorem startsOrNot_iff_halfFull :
    StartsOrNot firstChoices (halfFull oneDeck) ↔ Startable firstChoices (halfFull oneDeck) :=
  startsOrNot_iff (halfFull oneDeck) (open_registering _ _ _ _ _ _) firstChoices

/-- Without COM decks the tournament does not start, and cannot be started any
more, although it has no COM teams. -/
theorem not_startsOrNot_halfFull :
    ¬ ∀ (t : Tournament), Open t → ∀ choices : Choices, StartsOrNot choices t := by
  intro h
  have hstarts := h (halfFull noDecks) (open_registering _ _ _ _ _ _) firstChoices
  have herror : (halfFull noDecks).start firstChoices =
      .error (.runtimeError "not enough COM decks to complete team") := by
    rfl
  have hstate := startsOrNot_of_error herror hstarts
  exact absurd hstate (by decide +kernel)

end HuntersGuild.TournamentAtomicity
