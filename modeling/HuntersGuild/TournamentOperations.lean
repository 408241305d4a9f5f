import Mathlib.Data.UInt
import HuntersGuild.BattleRules

/-!
`Tournament`: teams, matches and the bracket, from the start of a tournament
to the result of its final match. Teams are named by their position in the
bracket and matches by their position in the order of creation.
-/

namespace HuntersGuild.TournamentOperations

open HuntersGuild.BattleRules

/-- The exceptions of the source, and the uses of null pointers. -/
inductive TournamentError where
  | nullTeam
  | nullMatch
  | moduloZero
  | logicError (message : String)
  | runtimeError (message : String)
  | outOfFuel
  deriving DecidableEq

structure COMDeckDefinition where
  deckName : String
  cardIds : Vector UInt16 31
  deriving DecidableEq

def COMDeckDefinition.firstCardId (self : COMDeckDefinition) : UInt16 := self.cardIds[0]

/-- The loader rejects a second deck of the same name. -/
structure COMDeckIndex where
  decks : List COMDeckDefinition
  names_nodup : (decks.map COMDeckDefinition.deckName).Nodup

namespace COMDeckIndex

def numDecks (self : COMDeckIndex) : Nat := self.decks.length

def deckForName (self : COMDeckIndex) (name : String) : Option COMDeckDefinition :=
  self.decks.find? fun deck => deck.deckName = name

def randomDeck (self : COMDeckIndex) (random : UInt64) :
    Except TournamentError COMDeckDefinition :=
  match self.decks[random.toNat % self.decks.length]? with
  | some deck => .ok deck
  | none => .error .moduloZero

end COMDeckIndex

/-- Maps by their number, as far as tournaments use them. -/
structure MapIndex where
  mapNumbers : List UInt32

/-- Exactly one of account ID and COM deck is valid. -/
inductive PlayerEntry where
  | human (accountId : UInt32) (playerName : String) (valid : accountId ≠ 0)
  | com (comDeck : COMDeckDefinition)
  deriving DecidableEq

namespace PlayerEntry

def isHuman : PlayerEntry → Bool
  | human .. => true
  | com _ => false

def isCom : PlayerEntry → Bool
  | human .. => false
  | com _ => true

def hasAccountId (accountId : UInt32) : PlayerEntry → Bool
  | human id .. => id = accountId
  | com _ => false

end PlayerEntry

structure Team where
  index : Nat
  maxPlayers : Nat
  players : List PlayerEntry
  name : String
  password : String
  numRoundsCleared : Nat
  isActive : Bool
  deriving DecidableEq

def Team.hasAnyHumanPlayers (self : Team) : Bool :=
  self.players.any PlayerEntry.isHuman

/-- An empty team loses its name and password. -/
def Team.withoutPlayer (index : Nat) (self : Team) : Team :=
  let players := self.players.eraseIdx index
  { self with
    players := players
    name := if players.isEmpty then "" else self.name
    password := if players.isEmpty then "" else self.password }

structure Match where
  precedingA : Option Nat
  precedingB : Option Nat
  following : Option Nat
  winnerTeam : Option Nat
  roundNum : Nat
  deriving DecidableEq

inductive State where
  | registration
  | inProgress
  | complete
  deriving DecidableEq

structure Tournament where
  comDeckIndex : COMDeckIndex
  name : String
  mapNumber : UInt32
  rules : Rules
  numTeams : Nat
  flags : UInt8
  currentState : State
  allPlayerAccountIds : List UInt32
  pendingMatches : List Nat
  teams : List Team
  allMatches : List Match
  zeroRoundMatches : List Nat
  finalMatch : Option Nat

/-- The random choices of one operation. Each match is skipped at most once,
so the coin tossed for it is given by the match; the decks of a team are given
by the team and the attempt. -/
structure Choices where
  entry : Nat → UInt32
  deck : Nat → Nat → UInt64
  coin : Nat → Bool

/-! Creating the bracket. -/

/-- A new match between the winners of two matches. -/
def newMatch (ms : List Match) (a b : Nat) : Except TournamentError (List Match) :=
  match ms[a]?, ms[b]? with
  | some matchA, some matchB =>
      if matchA.roundNum ≠ matchB.roundNum then
        .error (.logicError "preceding matches have different round numbers")
      else
        .ok ((ms.set a { matchA with following := some ms.length }).set b
            { matchB with following := some ms.length } ++
          [{ precedingA := some a, precedingB := some b, following := none, winnerTeam := none,
             roundNum := matchA.roundNum + 1 }])
  | _, _ => .error .nullMatch

/-- The matches of the next round, from the matches of this one. -/
def nextRound (ms : List Match) : List Nat → Except TournamentError (List Match × List Nat)
  | a :: b :: rest => do
      let m := ms.length
      let ms ← newMatch ms a b
      let (ms, nextRoundMatches) ← nextRound ms rest
      return (ms, m :: nextRoundMatches)
  | [] => return (ms, [])
  | [_] => throw .nullMatch

def bracketRounds : Nat → List Match → List Nat → Except TournamentError (List Match × List Nat)
  | 0, _, _ => throw .outOfFuel
  | fuel + 1, ms, currentRoundMatches =>
      if 1 < currentRoundMatches.length then do
        let (ms, nextRoundMatches) ← nextRound ms currentRoundMatches
        bracketRounds fuel ms nextRoundMatches
      else
        return (ms, currentRoundMatches)

/-- In the zero round each team wins a match of its own. -/
def zeroRoundMatch (team : Nat) : Match where
  precedingA := none
  precedingB := none
  following := none
  winnerTeam := some team
  roundNum := 0

namespace Tournament

def createBracketMatches (self : Tournament) : Except TournamentError Tournament :=
  let n := self.teams.length
  if n < 4 then
    throw (.logicError "tournaments must have at least 4 teams")
  else if 32 < n then
    throw (.logicError "tournaments must have at most 32 teams")
  else if n &&& (n - 1) ≠ 0 then
    throw (.logicError "tournaments team count is not a power of 2")
  else do
    let zeroRoundMatches := List.range n
    let pendingMatches :=
      if self.currentState = .registration then zeroRoundMatches else self.pendingMatches
    let (ms, lastRoundMatches) ←
      bracketRounds n (zeroRoundMatches.map zeroRoundMatch) zeroRoundMatches
    match lastRoundMatches with
    | finalMatch :: _ =>
        return { self with
          allMatches := ms, pendingMatches := pendingMatches, zeroRoundMatches := zeroRoundMatches
          finalMatch := some finalMatch }
    | [] => throw .nullMatch

/-! Match results. -/

def getMatch (self : Tournament) (m : Nat) : Except TournamentError Match :=
  match self.allMatches[m]? with
  | some matchM => .ok matchM
  | none => .error .nullMatch

/-- A team behind a pointer that may be null. -/
def getTeam (self : Tournament) (team : Option Nat) : Except TournamentError Team :=
  match team.bind (self.teams[·]?) with
  | some t => .ok t
  | none => .error .nullTeam

/-- Sets a winner, counts the round for it and eliminates the other team. -/
def setWinnerTeamWithoutTriggers (m : Nat) (team : Option Nat) (self : Tournament) :
    Except TournamentError Tournament := do
  let matchM ← self.getMatch m
  match matchM.precedingA, matchM.precedingB with
  | some a, some b =>
      let winnerA := (← self.getMatch a).winnerTeam
      let winnerB := (← self.getMatch b).winnerTeam
      if team ≠ winnerA ∧ team ≠ winnerB then
        throw (.logicError "winner team did not participate in match")
      else
        let self := { self with allMatches := self.allMatches.set m { matchM with winnerTeam := team } }
        let winner ← self.getTeam team
        let self := { self with
          teams := self.teams.set (team.getD 0)
            { winner with numRoundsCleared := winner.numRoundsCleared + 1 } }
        let losingTeam := if team = winnerA then winnerB else winnerA
        let loser ← self.getTeam losingTeam
        return { self with
          teams := self.teams.set (losingTeam.getD 0) { loser with isActive := false } }
  | _, _ => throw (.logicError "set_winner_team called on zero-round match")

/-- The team that wins a match without playing it, if both preceding matches
are decided and the match can be skipped. -/
def skipWinner (coin : Nat → Bool) (m : Nat) (winnerA winnerB : Option Nat) (self : Tournament) :
    Except TournamentError (Option Nat) :=
  if winnerA = none ∨ winnerB = none then
    return none
  else do
    let teamA ← self.getTeam winnerA
    let teamB ← self.getTeam winnerB
    if teamA.players.isEmpty ≠ teamB.players.isEmpty then
      return if teamA.players.isEmpty then winnerB else winnerA
    else if !teamA.hasAnyHumanPlayers && !teamB.hasAnyHumanPlayers then
      return if coin m then winnerB else winnerA
    else
      return none

/-- The losing team's players are unlinked from their clients, which needs
the losing team to be there. -/
def unlinkLosingTeam (matchM : Match) (self : Tournament) : Except TournamentError Unit :=
  match matchM.precedingA, matchM.precedingB with
  | some a, some b => do
      let winnerA := (← self.getMatch a).winnerTeam
      let winnerB := (← self.getMatch b).winnerTeam
      let _ ← self.getTeam (if matchM.winnerTeam = winnerA then winnerB else winnerA)
      return ()
  | _, _ => return ()

/-- Whether the match is decided now. A match that can be skipped is decided
by `setWinner`. -/
def resolveIfSkippable (coin : Nat → Bool)
    (setWinner : Nat → Option Nat → Tournament → Except TournamentError Tournament)
    (m : Nat) (self : Tournament) : Except TournamentError (Bool × Tournament) := do
  let matchM ← self.getMatch m
  if matchM.winnerTeam ≠ none then
    return (true, self)
  else
    match matchM.precedingA, matchM.precedingB with
    | some a, some b =>
        let winnerA := (← self.getMatch a).winnerTeam
        let winnerB := (← self.getMatch b).winnerTeam
        match ← self.skipWinner coin m winnerA winnerB with
        | some team => return (true, ← setWinner m (some team) self)
        | none => return (false, self)
    | _, _ => throw .nullMatch

def addPending (m : Nat) (self : Tournament) : Tournament :=
  { self with
    pendingMatches :=
      if m ∈ self.pendingMatches then self.pendingMatches else self.pendingMatches ++ [m] }

def removePending (m : Nat) (self : Tournament) : Tournament :=
  { self with pendingMatches := self.pendingMatches.filter (· ≠ m) }

/-- A tournament without pending matches is complete. -/
def checkComplete (self : Tournament) : Tournament :=
  if self.pendingMatches.isEmpty then { self with currentState := .complete } else self

/-- The following match is resolved if possible; if it cannot be resolved it
is marked as pending. -/
def resolveFollowing (coin : Nat → Bool)
    (setWinner : Nat → Option Nat → Tournament → Except TournamentError Tournament)
    (following : Option Nat) (self : Tournament) : Except TournamentError Tournament :=
  match following with
  | none => return self
  | some f => do
      let (resolved, self) ← self.resolveIfSkippable coin setWinner f
      return if resolved then self else self.addPending f

/-- Skipping the following match calls this function again; the fuel bounds
the number of rounds. -/
def onWinnerTeamSet (coin : Nat → Bool) :
    Nat → Nat → Tournament → Except TournamentError Tournament
  | 0, _, _ => throw .outOfFuel
  | fuel + 1, m, self => do
      let self := self.removePending m
      let matchM ← self.getMatch m
      let setWinner := fun f team self => do
        let self ← setWinnerTeamWithoutTriggers f team self
        onWinnerTeamSet coin fuel f self
      let self ← self.resolveFollowing coin setWinner matchM.following
      let self := self.checkComplete
      self.unlinkLosingTeam matchM
      return self

def setWinnerTeam (coin : Nat → Bool) (m : Nat) (team : Option Nat) (self : Tournament) :
    Except TournamentError Tournament := do
  let self ← self.setWinnerTeamWithoutTriggers m team
  onWinnerTeamSet coin self.allMatches.length m self

/-! Withdrawals. -/

/-- The loop of `unregister_player` over the pending matches, in the order in
which the set is traversed. -/
def forfeit (coin : Nat → Bool) (team : Nat) (self : Tournament) :
    List Nat → Except TournamentError Tournament
  | [] => return self
  | m :: rest => do
      let matchM ← self.getMatch m
      match matchM.precedingA, matchM.precedingB with
      | some a, some b =>
          let winnerA := (← self.getMatch a).winnerTeam
          let winnerB := (← self.getMatch b).winnerTeam
          if winnerA = some team then
            self.setWinnerTeam coin m winnerB
          else if winnerB = some team then
            self.setWinnerTeam coin m winnerA
          else
            self.forfeit coin team rest
      | _, _ => throw (.logicError "zero-round match is pending after tournament registration phase")

def unregisterPlayer (coin : Nat → Bool) (traversal : List Nat) (team : Nat) (accountId : UInt32)
    (self : Tournament) : Except TournamentError (Bool × Tournament) := do
  let t ← self.getTeam (some team)
  match t.players.findIdx? (PlayerEntry.hasAccountId accountId) with
  | none => return (false, self)
  | some index =>
      let self := { self with teams := self.teams.set team (t.withoutPlayer index) }
      if self.currentState ≠ .registration then
        return (true, ← self.forfeit coin team traversal)
      else if accountId ∈ self.allPlayerAccountIds then
        return (true, { self with
          allPlayerAccountIds := self.allPlayerAccountIds.erase accountId })
      else
        throw (.logicError "player removed from team but not from tournament")

end Tournament

/-! Starting a tournament. -/

def flagIs2v2 : UInt8 := 0x01

def flagHasComTeams : UInt8 := 0x02

def flagShuffleEntries : UInt8 := 0x04

def flagResizeOnStart : UInt8 := 0x08

def hasFlag (flags flag : UInt8) : Bool := flags &&& flag ≠ 0

def swapTeams (teams : List Team) (i j : Nat) : List Team :=
  match teams[i]?, teams[j]? with
  | some teamI, some teamJ => (teams.set i teamJ).set j teamI
  | _, _ => teams

/-- Human teams are packed into the lowest part of the list. -/
def packTeams (teams : List Team) : List Team :=
  ((List.range teams.length).foldl (fun (teams, wOffset) rOffset =>
    match teams[rOffset]? with
    | some team =>
        if team.hasAnyHumanPlayers then
          (if rOffset ≠ wOffset then swapTeams teams rOffset wOffset else teams, wOffset + 1)
        else
          (teams, wOffset)
    | none => (teams, wOffset)) (teams, 0)).1

/-- The second half of the list is deleted as long as it has no human players
and there are more than four teams. -/
def resizeTeams : Nat → List Team → List Team
  | 0, teams => teams
  | fuel + 1, teams =>
      if 4 < teams.length ∧
          (teams.drop (teams.length / 2)).any Team.hasAnyHumanPlayers = false then
        resizeTeams fuel (teams.take (teams.length / 2))
      else
        teams

def shuffleTeams (random : Nat → UInt32) (teams : List Team) : List Team :=
  (List.range teams.length).reverse.foldl (fun teams z =>
    let index := (random (z + 1)).toNat % (z + 1)
    if index ≠ z then swapTeams teams z index else teams) teams

/-- One attempt after another to add a COM deck that is not on the team yet. -/
def addCOMDecks (decks : COMDeckIndex) (random : Nat → UInt64) (maxPlayers : Nat) :
    Nat → Nat → List PlayerEntry → Except TournamentError (List PlayerEntry)
  | 0, _, players => return players
  | fuel + 1, attempts, players =>
      if players.length < maxPlayers ∧ attempts < 100 then do
        let deck ← decks.randomDeck (random fuel)
        let duplicate := players.any fun
          | .human .. => false
          | .com comDeck => comDeck = deck ∨ comDeck.firstCardId = deck.firstCardId
        if duplicate then
          addCOMDecks decks random maxPlayers fuel (attempts + 1) players
        else
          addCOMDecks decks random maxPlayers fuel attempts (players ++ [.com deck])
      else
        return players

/-- A team gets a name and COM decks for its empty slots. -/
def prepareTeam (decks : COMDeckIndex) (hasComTeams : Bool) (random : Nat → Nat → UInt64)
    (z : Nat) (t : Team) : Except TournamentError Team :=
  let t := { t with
    name := if t.name = "" then (if hasComTeams then "COM:" ++ toString z else "(no entrant)")
      else t.name }
  -- the number of empty slots is unsigned
  let emptySlots := (t.maxPlayers + 2 ^ 64 - t.players.length) % 2 ^ 64
  if t.players.any PlayerEntry.isCom then
    throw (.logicError "non-human player on team before tournament start")
  else if decks.numDecks < emptySlots then
    throw (.runtimeError "not enough COM decks to complete team")
  else if hasComTeams || !t.players.isEmpty then do
    let players ← addCOMDecks decks (random z) t.maxPlayers (t.maxPlayers + 100) 0 t.players
    if players.length < t.maxPlayers then
      throw (.runtimeError "could not find enough unique COM decks to complete team")
    else
      return { t with players := players }
  else
    return t

def prepareTeams (decks : COMDeckIndex) (hasComTeams : Bool) (random : Nat → Nat → UInt64) :
    Nat → List Team → Except TournamentError (List Team)
  | _, [] => return []
  | z, t :: teams => do
      let t ← prepareTeam decks hasComTeams random z t
      let teams ← prepareTeams decks hasComTeams random (z + 1) teams
      return t :: teams

namespace Tournament

/-- The order of the teams in the bracket. -/
def entries (choices : Choices) (self : Tournament) : List Team :=
  let teams := self.teams
  let teams :=
    if hasFlag self.flags flagShuffleEntries && hasFlag self.flags flagResizeOnStart then
      packTeams teams
    else teams
  let teams :=
    if hasFlag self.flags flagResizeOnStart then resizeTeams teams.length teams else teams
  if hasFlag self.flags flagShuffleEntries then shuffleTeams choices.entry teams else teams

def start (choices : Choices) (self : Tournament) : Except TournamentError Tournament :=
  let hasComTeams := hasFlag self.flags flagHasComTeams
  let numHumanTeams := (self.teams.filter Team.hasAnyHumanPlayers).length
  if self.currentState ≠ .registration then
    throw (.runtimeError "tournament has already started")
  else if numHumanTeams < (if hasComTeams then 1 else 2) then
    throw (.runtimeError "not enough registrants to start tournament")
  else do
    let teams := self.entries choices
    let self := { self with
      teams := teams
      numTeams := if hasFlag self.flags flagResizeOnStart then teams.length else self.numTeams
      currentState := .inProgress }
    let self ← self.createBracketMatches
    let teams ← prepareTeams self.comDeckIndex hasComTeams choices.deck 0 self.teams
    let self := { self with teams := teams }
    self.zeroRoundMatches.foldlM
      (fun self m => onWinnerTeamSet choices.coin self.allMatches.length m self) self

end Tournament

/-- A player that has registered. -/
structure Registrant where
  accountId : UInt32
  playerName : String
  valid : accountId ≠ 0

def registrantA : Registrant := ⟨1, "a", by decide⟩

def registrantB : Registrant := ⟨2, "b", by decide⟩

def registrantC : Registrant := ⟨3, "c", by decide⟩

def registrantD : Registrant := ⟨4, "d", by decide⟩

/-- A team as far as registration has filled it in. -/
structure Registration where
  maxPlayers : Nat
  name : String
  password : String
  registrants : List Registrant

def Registration.team (self : Registration) (index : Nat) : Team where
  index := index
  maxPlayers := self.maxPlayers
  players := self.registrants.map fun r => .human r.accountId r.playerName r.valid
  name := self.name
  password := self.password
  numRoundsCleared := 0
  isActive := true

/-- A tournament before it is started. -/
def registering (comDeckIndex : COMDeckIndex) (name : String) (mapNumber : UInt32) (rules : Rules)
    (flags : UInt8) (registrations : List Registration) : Tournament where
  comDeckIndex := comDeckIndex
  name := name
  mapNumber := mapNumber
  rules := rules
  numTeams := registrations.length
  flags := flags
  currentState := .registration
  allPlayerAccountIds :=
    registrations.flatMap fun registration => registration.registrants.map Registrant.accountId
  pendingMatches := []
  teams := registrations.mapIdx fun index registration => registration.team index
  allMatches := []
  zeroRoundMatches := []
  finalMatch := none

end HuntersGuild.TournamentOperations
