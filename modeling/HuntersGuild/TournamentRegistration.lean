import HuntersGuild.CallTrace
import HuntersGuild.TournamentOperations

/-!
The account IDs of a tournament and the players of its teams, from the first
registration to the last match.
-/

namespace HuntersGuild.TournamentRegistration

open HuntersGuild.CallTrace
open HuntersGuild.ExceptionRules
open HuntersGuild.TournamentOperations

/-- A tournament with empty teams. -/
def created (comDeckIndex : COMDeckIndex) (name : String) (mapNumber : UInt32)
    (rules : BattleRules.Rules) (numTeams : Nat) (flags : UInt8) : Tournament :=
  registering comDeckIndex name mapNumber rules flags
    (List.replicate numTeams ⟨if hasFlag flags flagIs2v2 then 2 else 1, "", "", []⟩)

/-- The exception, if there is one, and the tournament afterwards. -/
abbrev Outcome := Option TournamentError × Tournament

def registerPlayer (team : Nat) (c : Registrant) (teamName password : String)
    (self : Tournament) : Except TournamentError Outcome := do
  let t ← self.getTeam (some team)
  if t.maxPlayers ≤ t.players.length then
    return (some (.runtimeError "team is full"), self)
  else if t.name ≠ "" ∧ password ≠ t.password then
    return (some (.runtimeError "incorrect password"), self)
  else if c.accountId ∈ self.allPlayerAccountIds then
    return (some (.runtimeError "player already registered in same tournament"), self)
  else
    let self := { self with allPlayerAccountIds := self.allPlayerAccountIds ++ [c.accountId] }
    if t.players.any (PlayerEntry.hasAccountId c.accountId) then
      return (some (.logicError "player already registered in team but not in tournament"), self)
    else
      return (none, { self with
        teams := self.teams.set team { t with
          players := t.players ++ [.human c.accountId c.playerName c.valid]
          name := if t.name = "" then teamName else t.name
          password := if t.name = "" then password else t.password } })

/-- The team of a player, unless it has been eliminated. -/
def teamForAccountId (accountId : UInt32) (self : Tournament) :
    Except TournamentError (Option Team) :=
  if accountId ∉ self.allPlayerAccountIds then
    return none
  else
    match self.teams.find? (fun team => team.players.any (PlayerEntry.hasAccountId accountId)) with
    | some team => return if team.isActive then some team else none
    | none => throw (.logicError "account ID registered in tournament but not in any team")

/-! The tournament that an exception leaves behind. -/

def abandonedTeam (decks : COMDeckIndex) (hasComTeams : Bool) (random : Nat → Nat → UInt64)
    (z : Nat) (t : Team) : Team :=
  let t := { t with
    name := if t.name = "" then (if hasComTeams then "COM:" ++ toString z else "(no entrant)")
      else t.name }
  let emptySlots := (t.maxPlayers + 2 ^ 64 - t.players.length) % 2 ^ 64
  if t.players.any PlayerEntry.isCom ∨ decks.numDecks < emptySlots then
    t
  else
    match addCOMDecks decks (random z) t.maxPlayers (t.maxPlayers + 100) 0 t.players with
    | .ok players => { t with players := players }
    | .error _ => t

def abandonedTeams (decks : COMDeckIndex) (hasComTeams : Bool) (random : Nat → Nat → UInt64) :
    Nat → List Team → List Team
  | _, [] => []
  | z, t :: teams =>
      match prepareTeam decks hasComTeams random z t with
      | .ok t => t :: abandonedTeams decks hasComTeams random (z + 1) teams
      | .error _ => abandonedTeam decks hasComTeams random z t :: teams

def minHumanTeams (flags : UInt8) : Nat := if hasFlag flags flagHasComTeams then 1 else 2

/-- What is left of a tournament when `start` throws. -/
def abandonedStart (choices : Choices) (self : Tournament) : Tournament :=
  let hasComTeams := hasFlag self.flags flagHasComTeams
  let numHumanTeams := (self.teams.filter Team.hasAnyHumanPlayers).length
  if self.currentState ≠ .registration ∨ numHumanTeams < minHumanTeams self.flags then
    self
  else
    let teams := self.entries choices
    let self := { self with
      teams := teams
      numTeams := if hasFlag self.flags flagResizeOnStart then teams.length else self.numTeams
      currentState := .inProgress }
    match self.createBracketMatches with
    | .error _ => self
    | .ok self =>
        { self with
          teams := abandonedTeams self.comDeckIndex hasComTeams choices.deck 0 self.teams }

/-- What is left of a tournament when `unregister_player` throws. -/
def abandonedUnregister (team : Nat) (accountId : UInt32) (self : Tournament) : Tournament :=
  match self.teams[team]? with
  | none => self
  | some t =>
      match t.players.findIdx? (PlayerEntry.hasAccountId accountId) with
      | none => self
      | some index => { self with teams := self.teams.set team (t.withoutPlayer index) }

/-- The errors that end the program instead of an operation. -/
def IsCrash : TournamentError → Bool
  | .logicError _ => false
  | .runtimeError _ => false
  | _ => true

inductive Op where
  | registerPlayer (team : Nat) (c : Registrant) (teamName password : String)
  | unregisterPlayer (team : Nat) (accountId : UInt32) (traversal : List Nat)
      (coin : Nat → Bool)
  | start (choices : Choices)
  | setWinnerTeam (m : Nat) (team : Option Nat) (coin : Nat → Bool)

/-- An operation that may throw, with the tournament it leaves behind then. -/
def catching (result : Except TournamentError Tournament) (abandoned : Tournament) :
    Except TournamentError Outcome :=
  match result with
  | .ok self => .ok (none, self)
  | .error e => if IsCrash e then .error e else .ok (some e, abandoned)

/-- `set_winner_team` throws before it changes anything. -/
def call : Op → Tournament → Except TournamentError Outcome
  | .registerPlayer team c teamName password, self =>
      registerPlayer team c teamName password self
  | .unregisterPlayer team accountId traversal coin, self =>
      catching ((self.unregisterPlayer coin traversal team accountId).map Prod.snd)
        (abandonedUnregister team accountId self)
  | .start choices, self => catching (self.start choices) (abandonedStart choices self)
  | .setWinnerTeam m team coin, self => catching (self.setWinnerTeam coin m team) self

/-! The human players of a list of teams. -/

def accountIdOf : PlayerEntry → Option UInt32
  | .human accountId .. => some accountId
  | .com _ => none

def playerIds (players : List PlayerEntry) : List UInt32 := players.filterMap accountIdOf

def humanIds (teams : List Team) : List UInt32 := teams.flatMap fun t => playerIds t.players

theorem hasAccountId_iff {accountId : UInt32} {player : PlayerEntry} :
    player.hasAccountId accountId = true ↔ accountIdOf player = some accountId := by
  cases player <;> simp [PlayerEntry.hasAccountId, accountIdOf]

theorem any_hasAccountId_iff {accountId : UInt32} {players : List PlayerEntry} :
    players.any (PlayerEntry.hasAccountId accountId) = true ↔ accountId ∈ playerIds players := by
  simp only [List.any_eq_true, playerIds, List.mem_filterMap, hasAccountId_iff]

theorem humanIds_congr {teams teams' : List Team}
    (h : teams'.map (fun t => playerIds t.players) = teams.map fun t => playerIds t.players) :
    humanIds teams' = humanIds teams := by
  unfold humanIds
  rw [List.flatMap_def, List.flatMap_def, h]

theorem humanIds_perm {teams teams' : List Team} (h : teams'.Perm teams) :
    (humanIds teams').Perm (humanIds teams) := h.flatMap_right _

theorem humanIds_of_no_humans {teams : List Team}
    (h : teams.any Team.hasAnyHumanPlayers = false) : humanIds teams = [] := by
  simp only [humanIds, List.flatMap_eq_nil_iff, playerIds, List.filterMap_eq_nil_iff]
  intro t ht player hplayer
  have hteam := List.any_eq_false.mp h t ht
  cases player with
  | human accountId playerName valid =>
      refine absurd ?_ hteam
      simp only [Team.hasAnyHumanPlayers, List.any_eq_true]
      exact ⟨_, hplayer, rfl⟩
  | com comDeck => rfl

theorem humanIds_set {teams : List Team} {i : Nat} {x : Team} (hx : teams[i]? = some x)
    (y : Team) : ∃ rest, (humanIds teams).Perm (playerIds x.players ++ rest) ∧
      (humanIds (teams.set i y)).Perm (playerIds y.players ++ rest) := by
  obtain ⟨hlt, hget⟩ := List.getElem?_eq_some_iff.mp hx
  refine ⟨humanIds (teams.eraseIdx i), ?_, ?_⟩
  · have hperm := humanIds_perm (List.getElem_cons_eraseIdx_perm hlt).symm
    rw [hget] at hperm
    exact hperm
  · exact humanIds_perm (List.set_perm_cons_eraseIdx hlt y)

/-! What becomes of the human players at the start. -/

theorem swapTeams_perm (teams : List Team) (i j : Nat) : (swapTeams teams i j).Perm teams := by
  unfold swapTeams
  split
  · rename_i teamI teamJ hi hj
    obtain ⟨hilt, rfl⟩ := List.getElem?_eq_some_iff.mp hi
    obtain ⟨hjlt, rfl⟩ := List.getElem?_eq_some_iff.mp hj
    exact List.set_set_perm hilt hjlt
  · exact List.Perm.refl teams

theorem packTeams_perm (teams : List Team) : (packTeams teams).Perm teams := by
  unfold packTeams
  refine List.foldlRecOn (motive := fun (acc : List Team × Nat) => acc.1.Perm teams)
    (List.range teams.length) _ (List.Perm.refl teams) ?_
  rintro ⟨acc, wOffset⟩ hacc rOffset -
  dsimp only
  split
  · split
    · dsimp only
      split
      · exact (swapTeams_perm acc rOffset wOffset).trans hacc
      · exact hacc
    · exact hacc
  · exact hacc

theorem shuffleTeams_perm (random : Nat → UInt32) (teams : List Team) :
    (shuffleTeams random teams).Perm teams := by
  unfold shuffleTeams
  refine List.foldlRecOn (motive := fun (acc : List Team) => acc.Perm teams) _ _ (List.Perm.refl teams) ?_
  intro acc hacc z _
  dsimp only
  split
  · exact (swapTeams_perm acc z _).trans hacc
  · exact hacc

/-- Only teams without human players are deleted. -/
theorem humanIds_resizeTeams (fuel : Nat) (teams : List Team) :
    humanIds (resizeTeams fuel teams) = humanIds teams := by
  induction fuel generalizing teams with
  | zero => rfl
  | succ fuel ih =>
      unfold resizeTeams
      split
      · rename_i hresize
        have hsplit : humanIds teams = humanIds (teams.take (teams.length / 2)) ++
            humanIds (teams.drop (teams.length / 2)) := by
          unfold humanIds
          rw [← List.flatMap_append, List.take_append_drop]
        rw [ih, hsplit, humanIds_of_no_humans hresize.2, List.append_nil]
      · rfl

theorem humanIds_entries (choices : Choices) (self : Tournament) :
    (humanIds (self.entries choices)).Perm (humanIds self.teams) := by
  unfold Tournament.entries
  dsimp only
  have hpack : (humanIds (if hasFlag self.flags flagShuffleEntries &&
      hasFlag self.flags flagResizeOnStart then packTeams self.teams else self.teams)).Perm
        (humanIds self.teams) := by
    split
    · exact humanIds_perm (packTeams_perm self.teams)
    · exact List.Perm.refl _
  have hresize : ∀ teams : List Team, humanIds (if hasFlag self.flags flagResizeOnStart then
      resizeTeams teams.length teams else teams) = humanIds teams := by
    intro teams
    split
    · exact humanIds_resizeTeams teams.length teams
    · rfl
  split
  · refine (humanIds_perm (shuffleTeams_perm _ _)).trans ?_
    rw [hresize]
    exact hpack
  · rw [hresize]
    exact hpack

/-- COM decks are no human players. -/
theorem playerIds_addCOMDecks {decks : COMDeckIndex} {random : Nat → UInt64} {maxPlayers fuel : Nat}
    {attempts : Nat} {players players' : List PlayerEntry}
    (h : addCOMDecks decks random maxPlayers fuel attempts players = .ok players') :
    playerIds players' = playerIds players := by
  induction fuel generalizing attempts players with
  | zero =>
      cases h
      rfl
  | succ fuel ih =>
      unfold addCOMDecks at h
      split at h
      · obtain ⟨deck, -, h⟩ := bind_eq_ok.mp h
        dsimp only at h
        split at h
        · exact ih h
        · rw [ih h]
          simp [playerIds, accountIdOf]
      · cases h
        rfl

section Prepare

variable {decks : COMDeckIndex} {hasComTeams : Bool} {random : Nat → Nat → UInt64}

theorem playerIds_prepareTeam {z : Nat} {t t' : Team}
    (h : prepareTeam decks hasComTeams random z t = .ok t') :
    playerIds t'.players = playerIds t.players := by
  unfold prepareTeam at h
  dsimp only at h
  split at h
  · cases h
  · split at h
    · cases h
    · split at h
      · obtain ⟨players, hadd, h⟩ := bind_eq_ok.mp h
        split at h
        · cases h
        · cases h
          exact playerIds_addCOMDecks hadd
      · cases h
        rfl

theorem playerIds_abandonedTeam (z : Nat) (t : Team) :
    playerIds (abandonedTeam decks hasComTeams random z t).players = playerIds t.players := by
  unfold abandonedTeam
  dsimp only
  split
  · rfl
  · split
    · rename_i hadd
      exact playerIds_addCOMDecks hadd
    · rfl

theorem humanIds_prepareTeams {z : Nat} {teams teams' : List Team}
    (h : prepareTeams decks hasComTeams random z teams = .ok teams') :
    humanIds teams' = humanIds teams := by
  induction teams generalizing z teams' with
  | nil =>
      cases h
      rfl
  | cons t teams ih =>
      unfold prepareTeams at h
      obtain ⟨t', ht, h⟩ := bind_eq_ok.mp h
      obtain ⟨rest, hrest, h⟩ := bind_eq_ok.mp h
      cases h
      simp only [humanIds, List.flatMap_cons, playerIds_prepareTeam ht]
      exact congrArg _ (ih hrest)

theorem humanIds_abandonedTeams (z : Nat) (teams : List Team) :
    humanIds (abandonedTeams decks hasComTeams random z teams) = humanIds teams := by
  induction teams generalizing z with
  | nil => rfl
  | cons t teams ih =>
      unfold abandonedTeams
      split
      · rename_i ht
        simp only [humanIds, List.flatMap_cons, playerIds_prepareTeam ht]
        exact congrArg _ (ih (z + 1))
      · simp only [humanIds, List.flatMap_cons, playerIds_abandonedTeam]

end Prepare

/-! Results leave the players alone. -/

structure SamePlayers (t t' : Tournament) : Prop where
  ids_eq : t'.allPlayerAccountIds = t.allPlayerAccountIds
  players_eq : t'.teams.map (fun x => playerIds x.players) =
    t.teams.map fun x => playerIds x.players

theorem SamePlayers.refl (t : Tournament) : SamePlayers t t := ⟨rfl, rfl⟩

theorem SamePlayers.trans {t t' t'' : Tournament} (h : SamePlayers t t')
    (h' : SamePlayers t' t'') : SamePlayers t t'' :=
  ⟨h'.ids_eq.trans h.ids_eq, h'.players_eq.trans h.players_eq⟩

theorem map_set_eq {α β : Type} (f : α → β) {l : List α} {i : Nat} {x y : α}
    (hx : l[i]? = some x) (hy : f y = f x) : (l.set i y).map f = l.map f := by
  obtain ⟨hlt, rfl⟩ := List.getElem?_eq_some_iff.mp hx
  rw [List.map_set, hy]
  apply List.ext_getElem?
  intro k
  rcases eq_or_ne i k with rfl | hne
  · rw [List.getElem?_set_self (by simpa using hlt), List.getElem?_map,
      List.getElem?_eq_getElem hlt]
    rfl
  · rw [List.getElem?_set_ne hne]

theorem getTeam_eq_ok {t : Tournament} {team : Option Nat} {x : Team}
    (h : t.getTeam team = .ok x) : t.teams[team.getD 0]? = some x := by
  unfold Tournament.getTeam at h
  cases team with
  | none => cases h
  | some k =>
      simp only [Option.bind_some] at h
      split at h
      · rename_i hget
        cases h
        exact hget
      · cases h

theorem samePlayers_setWinnerTeamWithoutTriggers {m : Nat} {team : Option Nat} {t t' : Tournament}
    (h : t.setWinnerTeamWithoutTriggers m team = .ok t') : SamePlayers t t' := by
  unfold Tournament.setWinnerTeamWithoutTriggers at h
  obtain ⟨matchM, -, h⟩ := bind_eq_ok.mp h
  split at h
  · obtain ⟨a, -, h⟩ := bind_eq_ok.mp h
    obtain ⟨b, -, h⟩ := bind_eq_ok.mp h
    dsimp only at h
    split at h
    · cases h
    · obtain ⟨x, hx, h⟩ := bind_eq_ok.mp h
      obtain ⟨y, hy, h⟩ := bind_eq_ok.mp h
      cases h
      refine ⟨rfl, ?_⟩
      dsimp only
      rw [map_set_eq (y := { y with isActive := false }) _ (getTeam_eq_ok hy) rfl]
      exact map_set_eq _ (getTeam_eq_ok hx) rfl
  · cases h

/-! What holds between the tournaments before and after the result of a match. -/

/-- A relation that the steps of a result keep. -/
structure ResultRelation (R : Tournament → Tournament → Prop) : Prop where
  refl : ∀ t, R t t
  trans : ∀ t t' t'', R t t' → R t' t'' → R t t''
  setWinner : ∀ m team t t', t.setWinnerTeamWithoutTriggers m team = .ok t' → R t t'
  pending : ∀ t pendingMatches, R t { t with pendingMatches := pendingMatches }
  complete : ∀ t, R t { t with currentState := .complete }

section Results

variable {R : Tournament → Tournament → Prop} (hR : ResultRelation R) {coin : Nat → Bool}
  {t t' : Tournament}
include hR

theorem ResultRelation.resolveFollowing
    {setWinner : Nat → Option Nat → Tournament → Except TournamentError Tournament}
    (hset : ∀ f team s s', setWinner f team s = .ok s' → R s s')
    {following : Option Nat} (h : t.resolveFollowing coin setWinner following = .ok t') :
    R t t' := by
  unfold Tournament.resolveFollowing at h
  split at h
  · cases h
    exact hR.refl t
  · rename_i f
    obtain ⟨⟨resolved, mid⟩, hresolve, h⟩ := bind_eq_ok.mp h
    have hmid : R t mid := by
      unfold Tournament.resolveIfSkippable at hresolve
      obtain ⟨matchM, -, hresolve⟩ := bind_eq_ok.mp hresolve
      split at hresolve
      · cases hresolve
        exact hR.refl t
      · split at hresolve
        · obtain ⟨a, -, hresolve⟩ := bind_eq_ok.mp hresolve
          obtain ⟨b, -, hresolve⟩ := bind_eq_ok.mp hresolve
          obtain ⟨skipped, -, hresolve⟩ := bind_eq_ok.mp hresolve
          cases skipped with
          | none =>
              cases hresolve
              exact hR.refl t
          | some team =>
              obtain ⟨s', hs', hresolve⟩ := bind_eq_ok.mp hresolve
              cases hresolve
              exact hset f (some team) t _ hs'
        · cases hresolve
    dsimp only at h
    split at h
    · cases h
      exact hmid
    · cases h
      exact hR.trans _ _ _ hmid (hR.pending mid _)

theorem ResultRelation.checkComplete (t : Tournament) : R t t.checkComplete := by
  unfold Tournament.checkComplete
  split
  · exact hR.complete t
  · exact hR.refl t

theorem ResultRelation.onWinnerTeamSet {fuel m : Nat}
    (h : Tournament.onWinnerTeamSet coin fuel m t = .ok t') : R t t' := by
  induction fuel generalizing m t t' with
  | zero => cases h
  | succ fuel ih =>
      unfold Tournament.onWinnerTeamSet at h
      obtain ⟨matchM, -, h⟩ := bind_eq_ok.mp h
      obtain ⟨mid, hmid, h⟩ := bind_eq_ok.mp h
      obtain ⟨-, -, h⟩ := bind_eq_ok.mp h
      cases h
      have hfollowing : R (t.removePending m) mid := by
        refine hR.resolveFollowing ?_ hmid
        intro f team s s' hs
        obtain ⟨s1, hset, hs⟩ := bind_eq_ok.mp hs
        exact hR.trans _ _ _ (hR.setWinner _ _ _ _ hset) (ih hs)
      have hremoved : R t (t.removePending m) := hR.pending t _
      exact hR.trans _ _ _ (hR.trans _ _ _ hremoved hfollowing) (hR.checkComplete mid)

theorem ResultRelation.setWinnerTeam {m : Nat} {team : Option Nat}
    (h : t.setWinnerTeam coin m team = .ok t') : R t t' := by
  unfold Tournament.setWinnerTeam at h
  obtain ⟨s, hset, h⟩ := bind_eq_ok.mp h
  exact hR.trans _ _ _ (hR.setWinner _ _ _ _ hset) (hR.onWinnerTeamSet h)

theorem ResultRelation.foldlM {ms : List Nat}
    (h : ms.foldlM (fun self m =>
      Tournament.onWinnerTeamSet coin self.allMatches.length m self) t = .ok t') : R t t' := by
  induction ms generalizing t with
  | nil =>
      cases h
      exact hR.refl t'
  | cons m ms ih =>
      rw [List.foldlM_cons] at h
      obtain ⟨mid, hmid, h⟩ := bind_eq_ok.mp h
      exact hR.trans _ _ _ (hR.onWinnerTeamSet hmid) (ih h)

theorem ResultRelation.forfeit {team : Nat} {ms : List Nat}
    (h : t.forfeit coin team ms = .ok t') : R t t' := by
  induction ms with
  | nil =>
      cases h
      exact hR.refl t
  | cons m ms ih =>
      unfold Tournament.forfeit at h
      obtain ⟨matchM, -, h⟩ := bind_eq_ok.mp h
      split at h
      · obtain ⟨a, -, h⟩ := bind_eq_ok.mp h
        obtain ⟨b, -, h⟩ := bind_eq_ok.mp h
        dsimp only at h
        split at h
        · exact hR.setWinnerTeam h
        · split at h
          · exact hR.setWinnerTeam h
          · exact ih h
      · cases h

end Results

theorem resultRelation_samePlayers : ResultRelation SamePlayers where
  refl := SamePlayers.refl
  trans := fun _ _ _ => SamePlayers.trans
  setWinner := fun _ _ _ _ => samePlayers_setWinnerTeamWithoutTriggers
  pending := fun _ _ => ⟨rfl, rfl⟩
  complete := fun _ => ⟨rfl, rfl⟩

/-! The account IDs are those of the players. -/

/-- Every human player of a team is registered, and no player twice. -/
structure Registered (t : Tournament) : Prop where
  nodup : t.allPlayerAccountIds.Nodup
  perm : t.allPlayerAccountIds.Perm (humanIds t.teams)

theorem Registered.of_perm {t t' : Tournament} (h : Registered t)
    (hids : t'.allPlayerAccountIds = t.allPlayerAccountIds)
    (hteams : (humanIds t'.teams).Perm (humanIds t.teams)) : Registered t' :=
  ⟨hids ▸ h.nodup, hids ▸ h.perm.trans hteams.symm⟩

theorem Registered.of_samePlayers {t t' : Tournament} (h : Registered t)
    (hsame : SamePlayers t t') : Registered t' :=
  h.of_perm hsame.ids_eq (by rw [humanIds_congr hsame.players_eq])

theorem createBracketMatches_frame {t t' : Tournament} (h : t.createBracketMatches = .ok t') :
    t'.allPlayerAccountIds = t.allPlayerAccountIds ∧ t'.teams = t.teams ∧
      t'.currentState = t.currentState := by
  unfold Tournament.createBracketMatches at h
  dsimp only at h
  split at h
  · cases h
  · split at h
    · cases h
    · split at h
      · cases h
      · obtain ⟨⟨ms, last⟩, -, h⟩ := bind_eq_ok.mp h
        dsimp only at h
        split at h
        · cases h
          exact ⟨rfl, rfl, rfl⟩
        · cases h

theorem Registered.start {t t' : Tournament} (h : Registered t) {choices : Choices}
    (hstart : t.start choices = .ok t') : Registered t' := by
  unfold Tournament.start at hstart
  dsimp only at hstart
  split at hstart
  · cases hstart
  · by_cases hfew : (t.teams.filter Team.hasAnyHumanPlayers).length < minHumanTeams t.flags
    · erw [if_pos hfew] at hstart
      cases hstart
    · erw [if_neg hfew] at hstart
      obtain ⟨self, hcreate, hstart⟩ := bind_eq_ok.mp hstart
      obtain ⟨teams, hteams, hstart⟩ := bind_eq_ok.mp hstart
      obtain ⟨hids, hentries, -⟩ := createBracketMatches_frame hcreate
      have hprepared : Registered { self with teams := teams } := by
        refine h.of_perm hids ?_
        dsimp only
        rw [humanIds_prepareTeams hteams, hentries]
        exact humanIds_entries choices t
      exact hprepared.of_samePlayers (resultRelation_samePlayers.foldlM hstart)

theorem Registered.abandonedStart {t : Tournament} (h : Registered t) (choices : Choices) :
    Registered (abandonedStart choices t) := by
  unfold TournamentRegistration.abandonedStart
  dsimp only
  split
  · exact h
  · split
    · exact h.of_perm rfl (humanIds_entries choices t)
    · rename_i self hcreate
      obtain ⟨hids, hentries, -⟩ := createBracketMatches_frame hcreate
      refine h.of_perm hids ?_
      dsimp only
      rw [humanIds_abandonedTeams, hentries]
      exact humanIds_entries choices t

theorem Registered.registerPlayer {t : Tournament} (h : Registered t) {team : Nat}
    {c : Registrant} {teamName password : String} {r : Option TournamentError} {t' : Tournament}
    (hrun : registerPlayer team c teamName password t = .ok (r, t')) : Registered t' := by
  unfold TournamentRegistration.registerPlayer at hrun
  obtain ⟨x, hx, hrun⟩ := bind_eq_ok.mp hrun
  split at hrun
  · cases hrun
    exact h
  · split at hrun
    · cases hrun
      exact h
    · split at hrun
      · cases hrun
        exact h
      · rename_i hnew
        obtain ⟨rest, hperm, hset⟩ := humanIds_set (getTeam_eq_ok hx) { x with
          players := x.players ++ [.human c.accountId c.playerName c.valid]
          name := if x.name = "" then teamName else x.name
          password := if x.name = "" then password else x.password }
        have habsent : c.accountId ∉ playerIds x.players := fun hin =>
          hnew ((h.perm.trans hperm).mem_iff.mpr (List.mem_append_left rest hin))
        dsimp only at hrun
        split at hrun
        · rename_i hany
          exact absurd (any_hasAccountId_iff.mp hany) habsent
        · cases hrun
          refine ⟨?_, ?_⟩
          · simp only [List.nodup_append, h.nodup, List.nodup_singleton, List.mem_singleton]
            refine ⟨trivial, trivial, ?_⟩
            rintro a ha _ rfl rfl
            exact hnew ha
          · refine List.Perm.trans ?_ hset.symm
            have hplayers : playerIds (x.players ++ [.human c.accountId c.playerName c.valid]) =
                playerIds x.players ++ [c.accountId] := by simp [playerIds, accountIdOf]
            dsimp only
            rw [hplayers]
            refine ((h.perm.trans hperm).append_right [c.accountId]).trans ?_
            rw [List.append_assoc, List.append_assoc]
            exact List.perm_append_comm.append_left (playerIds x.players)

/-- A player is removed from a team of a tournament that has started. -/
def Withdraws (t : Tournament) : Op → Prop
  | .unregisterPlayer team accountId _ _ => t.currentState ≠ .registration ∧
      t.teams[team]?.any (fun x => x.players.any (PlayerEntry.hasAccountId accountId)) = true
  | _ => False

instance (t : Tournament) : DecidablePred (Withdraws t) := fun op =>
  match op with
  | .unregisterPlayer .. => inferInstanceAs (Decidable (_ ∧ _))
  | .registerPlayer .. => inferInstanceAs (Decidable False)
  | .start _ => inferInstanceAs (Decidable False)
  | .setWinnerTeam .. => inferInstanceAs (Decidable False)

theorem findIdx?_hasAccountId {accountId : UInt32} {players : List PlayerEntry} {index : Nat}
    (h : players.findIdx? (PlayerEntry.hasAccountId accountId) = some index) :
    (playerIds players).Perm (accountId :: playerIds (players.eraseIdx index)) := by
  obtain ⟨hlt, hfound, -⟩ := List.findIdx?_eq_some_iff_getElem.mp h
  have hperm := (List.getElem_cons_eraseIdx_perm hlt).filterMap accountIdOf
  rw [List.filterMap_cons_some (hasAccountId_iff.mp hfound)] at hperm
  exact hperm.symm

/-- Before the start a player who leaves a team leaves the tournament. -/
theorem Registered.unregisterPlayer {t : Tournament} (h : Registered t) (coin : Nat → Bool)
    (traversal : List Nat) (team : Nat) (accountId : UInt32)
    (hstate : ∀ x, t.teams[team]? = some x →
      x.players.any (PlayerEntry.hasAccountId accountId) = true → t.currentState = .registration) :
    (∀ b t', t.unregisterPlayer coin traversal team accountId = .ok (b, t') → Registered t') ∧
      ∀ e, t.unregisterPlayer coin traversal team accountId = .error e → IsCrash e = true := by
  unfold Tournament.unregisterPlayer
  rcases hx : t.getTeam (some team) with e | x
  · refine ⟨fun b t' hrun => (nomatch hrun), fun e' herror => ?_⟩
    cases herror
    unfold Tournament.getTeam at hx
    split at hx
    · cases hx
    · cases hx
      rfl
  · have hget := getTeam_eq_ok hx
    simp only [ok_bind]
    rcases hfind : x.players.findIdx? (PlayerEntry.hasAccountId accountId) with _ | index
    · refine ⟨?_, fun e herror => (nomatch herror)⟩
      rintro b t' hrun
      cases hrun
      exact h
    · obtain ⟨hlt, hfound, -⟩ := List.findIdx?_eq_some_iff_getElem.mp hfind
      have hany : x.players.any (PlayerEntry.hasAccountId accountId) = true :=
        List.any_eq_true.mpr ⟨_, List.getElem_mem hlt, hfound⟩
      have hplayers := findIdx?_hasAccountId hfind
      obtain ⟨rest, hperm, hset⟩ := humanIds_set hget (x.withoutPlayer index)
      have hids : t.allPlayerAccountIds.Perm
          (accountId :: (playerIds (x.withoutPlayer index).players ++ rest)) :=
        (h.perm.trans hperm).trans (hplayers.append_right rest)
      have hmem : accountId ∈ t.allPlayerAccountIds := hids.mem_iff.mpr List.mem_cons_self
      simp only [hstate x hget hany, ne_eq, not_true_eq_false, if_false, hmem, if_true]
      refine ⟨?_, fun e herror => (nomatch herror)⟩
      rintro b t' hrun
      cases hrun
      refine ⟨h.nodup.erase accountId, ?_⟩
      have herase := hids.erase accountId
      rw [List.erase_cons_head] at herase
      exact herase.trans hset.symm

theorem Registered.call {t : Tournament} (h : Registered t) {op : Op} (hop : ¬ Withdraws t op)
    {r : Option TournamentError} {t' : Tournament} (hcall : call op t = .ok (r, t')) :
    Registered t' := by
  cases op with
  | registerPlayer team c teamName password => exact h.registerPlayer hcall
  | unregisterPlayer team accountId traversal coin =>
      obtain ⟨hok, hcrash⟩ := h.unregisterPlayer coin traversal team accountId
        fun x hx hany => by
          by_contra hstate
          exact hop ⟨hstate, by rw [hx]; exact hany⟩
      simp only [TournamentRegistration.call, catching] at hcall
      rcases hrun : t.unregisterPlayer coin traversal team accountId with e | ⟨b, s⟩
      · rw [hrun] at hcall
        simp [Except.map, hcrash e hrun] at hcall
      · rw [hrun] at hcall
        cases hcall
        exact hok b s hrun
  | start choices =>
      simp only [TournamentRegistration.call, catching] at hcall
      rcases hrun : t.start choices with e | s
      · rw [hrun] at hcall
        dsimp only at hcall
        split at hcall
        · cases hcall
        · cases hcall
          exact h.abandonedStart choices
      · rw [hrun] at hcall
        cases hcall
        exact h.start hrun
  | setWinnerTeam m team coin =>
      simp only [TournamentRegistration.call, catching] at hcall
      rcases hrun : t.setWinnerTeam coin m team with e | s
      · rw [hrun] at hcall
        dsimp only at hcall
        split at hcall
        · cases hcall
        · cases hcall
          exact h
      · rw [hrun] at hcall
        cases hcall
        exact h.of_samePlayers (resultRelation_samePlayers.setWinnerTeam hrun)

/-- An account ID is registered exactly if it is that of a player of one team,
and its team can be looked up. -/
structure Indexed (t : Tournament) : Prop where
  mem_iff : ∀ accountId, accountId ∈ t.allPlayerAccountIds ↔
    ∃! z : Nat, ∃ x : Team, t.teams[z]? = some x ∧
      x.players.any (PlayerEntry.hasAccountId accountId) = true
  teamForAccountId_ok : ∀ accountId, ∃ team, teamForAccountId accountId t = .ok team

theorem Registered.indexed {t : Tournament} (h : Registered t) : Indexed t := by
  have hnodup : (humanIds t.teams).Nodup := h.perm.nodup_iff.mp h.nodup
  rw [humanIds, List.nodup_flatMap] at hnodup
  have hmem : ∀ accountId, accountId ∈ t.allPlayerAccountIds ↔
      ∃ x ∈ t.teams, x.players.any (PlayerEntry.hasAccountId accountId) = true := by
    intro accountId
    simp only [any_hasAccountId_iff]
    rw [h.perm.mem_iff, humanIds, List.mem_flatMap]
  refine ⟨fun accountId => ?_, fun accountId => ?_⟩
  · rw [hmem]
    constructor
    · rintro ⟨x, hx, hany⟩
      obtain ⟨z, hz⟩ := List.mem_iff_getElem?.mp hx
      refine ⟨z, ⟨x, hz, hany⟩, ?_⟩
      rintro z' ⟨x', hz', hany'⟩
      rw [any_hasAccountId_iff] at hany hany'
      obtain ⟨hlt, rfl⟩ := List.getElem?_eq_some_iff.mp hz
      obtain ⟨hlt', rfl⟩ := List.getElem?_eq_some_iff.mp hz'
      have hdisjoint := List.pairwise_iff_getElem.mp hnodup.2
      rcases Nat.lt_trichotomy z' z with hless | heq | hless
      · exact (hdisjoint z' z hlt' hlt hless hany' hany).elim
      · exact heq
      · exact (hdisjoint z z' hlt hlt' hless hany hany').elim
    · rintro ⟨z, ⟨x, hz, hany⟩, -⟩
      exact ⟨x, List.mem_of_getElem? hz, hany⟩
  · unfold teamForAccountId
    split
    · exact ⟨none, rfl⟩
    · rename_i hin
      obtain ⟨x, hx, hany⟩ := (hmem accountId).mp (not_not.mp hin)
      have hsome : (t.teams.find? fun team =>
          team.players.any (PlayerEntry.hasAccountId accountId)).isSome :=
        List.find?_isSome.mpr ⟨x, hx, hany⟩
      obtain ⟨y, hy⟩ := Option.isSome_iff_exists.mp hsome
      rw [hy]
      exact ⟨if y.isActive then some y else none, rfl⟩

theorem registered_created (comDeckIndex : COMDeckIndex) (name : String) (mapNumber : UInt32)
    (rules : BattleRules.Rules) (numTeams : Nat) (flags : UInt8) :
    Registered (created comDeckIndex name mapNumber rules numTeams flags) := by
  have hids : (created comDeckIndex name mapNumber rules numTeams flags).allPlayerAccountIds = [] := by
    simp [created, registering]
  have hteams : humanIds (created comDeckIndex name mapNumber rules numTeams flags).teams = [] := by
    simp only [humanIds, List.flatMap_eq_nil_iff]
    intro x hx
    simp only [created, registering, List.mem_mapIdx] at hx
    obtain ⟨index, hindex, rfl⟩ := hx
    simp [Registration.team, playerIds]
  exact ⟨by rw [hids]; exact List.nodup_nil, by rw [hids, hteams]⟩

/-- In every run in which nobody withdraws after the start, the account IDs are
those of the players before and after every operation. -/
theorem indexed_run (comDeckIndex : COMDeckIndex) (name : String) (mapNumber : UInt32)
    (rules : BattleRules.Rules) (numTeams : Nat) (flags : UInt8) (ops : List Op)
    (hstays : ∀ c ∈ trace call (created comDeckIndex name mapNumber rules numTeams flags) ops,
      ¬ Withdraws c.1 c.2) :
    Indexed (created comDeckIndex name mapNumber rules numTeams flags) ∧
      ∀ c ∈ trace call (created comDeckIndex name mapNumber rules numTeams flags) ops,
        Indexed c.1 ∧ ∀ r t', call c.2 c.1 = .ok (r, t') → Indexed t' := by
  have hcreated := registered_created comDeckIndex name mapNumber rules numTeams flags
  refine ⟨hcreated.indexed, ?_⟩
  have hgood : ∀ t, Registered t → ∀ op ∈ ops, ¬ Withdraws t op →
      Indexed t ∧ ∀ r t', call op t = .ok (r, t') → Indexed t' :=
    fun t ht op _ hop => ⟨ht.indexed, fun r t' hcall => (ht.call hop hcall).indexed⟩
  have hstep : ∀ t, Registered t → ∀ op ∈ ops, ¬ Withdraws t op →
      ∀ r t', call op t = .ok (r, t') → Registered t' :=
    fun t ht op _ hop r t' hcall => ht.call hop hcall
  exact forall_trace Registered hgood hstep hcreated hstays

/-- Four players register, one of them twice, and a match is played. -/
def playedOps : List Op :=
  [.registerPlayer 0 registrantA "A" "", .registerPlayer 1 registrantB "B" "",
    .unregisterPlayer 1 2 [] fun _ => false, .registerPlayer 1 registrantB "B" "",
    .registerPlayer 2 registrantC "C" "", .registerPlayer 3 registrantD "D" "",
    .start ⟨fun _ => 0, fun _ _ => 0, fun _ => false⟩, .setWinnerTeam 4 (some 0) fun _ => false]

def fourEmptyTeams : Tournament :=
  created ⟨[], List.nodup_nil⟩ "T" 1 BattleRules.Rules.cleared 4 0

theorem indexed_run_playedOps :
    (trace call fourEmptyTeams playedOps).length = 8 ∧
      ∀ c ∈ trace call fourEmptyTeams playedOps,
        Indexed c.1 ∧ ∀ r t', call c.2 c.1 = .ok (r, t') → Indexed t' :=
  ⟨by decide +kernel, (indexed_run ⟨[], List.nodup_nil⟩ "T" 1 BattleRules.Rules.cleared 4 0 playedOps
    (by decide +kernel)).2⟩

/-- The winner of the match withdraws after it. -/
def withdrawnOps : List Op :=
  playedOps ++ [.setWinnerTeam 5 (some 2) fun _ => false, .unregisterPlayer 0 1 [6] fun _ => false]

/-- The account ID of a player who has withdrawn stays registered, and looking
its team up throws. -/
theorem withdrawnOps_not_indexed :
    ∃ t, run call fourEmptyTeams withdrawnOps = some t ∧ 1 ∈ t.allPlayerAccountIds ∧
      (∀ x ∈ t.teams, x.players.any (PlayerEntry.hasAccountId 1) = false) ∧
      teamForAccountId 1 t =
        .error (.logicError "account ID registered in tournament but not in any team") ∧
      ¬ Indexed t := by
  have hrun : (run call fourEmptyTeams withdrawnOps).map (fun t =>
      decide (1 ∈ t.allPlayerAccountIds ∧
        ∀ x ∈ t.teams, x.players.any (PlayerEntry.hasAccountId 1) = false)) = some true := by
    decide +kernel
  obtain ⟨t, ht, hdecided⟩ := Option.map_eq_some_iff.mp hrun
  obtain ⟨hmem, hnone⟩ := of_decide_eq_true hdecided
  have hlookup : teamForAccountId 1 t =
      .error (.logicError "account ID registered in tournament but not in any team") := by
    have hfind : t.teams.find? (fun team => team.players.any (PlayerEntry.hasAccountId 1)) = none := by
      rw [List.find?_eq_none]
      intro x hx
      simp [hnone x hx]
    unfold teamForAccountId
    rw [if_neg (not_not.mpr hmem), hfind]
    rfl
  refine ⟨t, ht, hmem, hnone, hlookup, ?_⟩
  intro hindexed
  obtain ⟨team, hteam⟩ := hindexed.teamForAccountId_ok 1
  rw [hlookup] at hteam
  cases hteam

end HuntersGuild.TournamentRegistration
