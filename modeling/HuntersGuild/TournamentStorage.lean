import HuntersGuild.FuelLoop
import HuntersGuild.TournamentOperations

/-!
`Tournament::json` and `Tournament::init`: only the number of rounds that each
team has cleared is saved, and loading spends these numbers match by match.
-/

namespace HuntersGuild.TournamentStorage

open HuntersGuild.FuelLoop
open HuntersGuild.JsonValues
open HuntersGuild.BattleRules
open HuntersGuild.TournamentOperations

inductive LoadError where
  | json (e : JsonError)
  | tournament (e : TournamentError)
  | invalidEntry

/-! Saving. -/

def playerSpec : PlayerEntry → Json
  | .human accountId playerName _ =>
      if playerName ≠ "" then .list [.int accountId.toNat, .str playerName]
      else .int accountId.toNat
  | .com comDeck => .str comDeck.deckName

def teamJson (team : Team) : Json :=
  .dict [
    ("max_players", .int team.maxPlayers),
    ("player_specs", .list (team.players.map playerSpec)),
    ("name", .str team.name),
    ("password", .str team.password),
    ("num_rounds_cleared", .int team.numRoundsCleared)]

def json (self : Tournament) : Json :=
  .dict [
    ("name", .str self.name),
    ("map_number", .int self.mapNumber.toNat),
    ("rules", self.rules.toJson),
    ("flags", .int self.flags.toNat),
    ("is_registration_complete", .bool (self.currentState ≠ .registration)),
    ("teams", .list (self.teams.map teamJson))]

/-! Reading the teams. -/

def liftJson {α : Type} (x : Except JsonError α) : Except LoadError α :=
  x.mapError .json

def liftTournament {α : Type} (x : Except TournamentError α) : Except LoadError α :=
  x.mapError .tournament

def toSize (value : Int) : Nat := (value % 2 ^ 64).toNat

def toUInt32 (value : Int) : UInt32 := UInt32.ofNat (value % 2 ^ 32).toNat

/-- An account ID of zero would make an entry that is neither a human player
nor a COM deck. -/
def humanEntry (accountId : UInt32) (playerName : String) : Except LoadError PlayerEntry :=
  if h : accountId ≠ 0 then .ok (.human accountId playerName h) else .error .invalidEntry

def playerFromSpec (comDeckIndex : COMDeckIndex) (playerJson : Json) :
    Except LoadError PlayerEntry :=
  match playerJson with
  | .list _ => do
      let accountId ← liftJson (playerJson.item 0 >>= Json.asInt)
      let playerName ← liftJson (playerJson.item 1 >>= Json.asString)
      humanEntry (toUInt32 accountId) playerName
  | .int accountId => humanEntry (toUInt32 accountId) ""
  | .str deckName =>
      match comDeckIndex.deckForName deckName with
      | some deck => .ok (.com deck)
      | none => .error (.json .outOfRange)
  | _ => .error (.tournament (.runtimeError "invalid player spec"))

/-- A team, without the rounds it has cleared, and their number. -/
def teamFromJson (comDeckIndex : COMDeckIndex) (index : Nat) (teamJson : Json) :
    Except LoadError (Team × Nat) := do
  let maxPlayers ← liftJson (teamJson.getInt "max_players")
  let name ← liftJson (teamJson.getString "name")
  let password ← liftJson (teamJson.getString "password")
  let roundsCleared ← liftJson (teamJson.getInt "num_rounds_cleared")
  let playerSpecs ← liftJson (teamJson.getList "player_specs")
  let players ← playerSpecs.mapM (playerFromSpec comDeckIndex)
  return ({
    index := index
    maxPlayers := toSize maxPlayers
    players := players
    name := name
    password := password
    numRoundsCleared := 0
    isActive := true }, toSize roundsCleared)

def teamsFromJson (comDeckIndex : COMDeckIndex) :
    Nat → List Json → Except LoadError (List (Team × Nat))
  | _, [] => return []
  | index, teamJson :: rest => do
      let team ← teamFromJson comDeckIndex index teamJson
      let teams ← teamsFromJson comDeckIndex (index + 1) rest
      return team :: teams

/-- The account IDs are kept as a set. -/
def accountIds (teams : List Team) : List UInt32 :=
  (teams.flatMap fun team => team.players.filterMap fun
    | .human accountId .. => some accountId
    | .com _ => none).dedup

/-! Computing the match state from the teams' counts. -/

structure Loading where
  self : Tournament
  roundsCleared : List Nat
  matchQueue : List Nat

/-- The winner of the match behind a pointer. -/
def winnerBefore (self : Tournament) (preceding : Option Nat) :
    Except TournamentError (Option Nat) :=
  match preceding with
  | some m => do
      let matchM ← self.getMatch m
      return matchM.winnerTeam
  | none => .error .nullMatch

/-- The following match goes on the queue if both its preceding matches are
resolved. -/
def enqueueFollowing (self : Tournament) (following : Option Nat) (matchQueue : List Nat) :
    Except TournamentError (List Nat) :=
  match following with
  | some f => do
      let matchF ← self.getMatch f
      let winnerA ← winnerBefore self matchF.precedingA
      let winnerB ← winnerBefore self matchF.precedingB
      return if winnerA ≠ none ∧ winnerB ≠ none then matchQueue.insert f else matchQueue
  | none => return matchQueue

/-- A match that one of its teams has won takes a round from that team's
count. -/
def spendRound (m : Nat) (matchM : Match) (team : Nat) (loading : Loading) :
    Except TournamentError Loading := do
  let self ← loading.self.setWinnerTeamWithoutTriggers m (some team)
  let matchQueue ← enqueueFollowing self matchM.following loading.matchQueue
  return {
    self := self
    roundsCleared := loading.roundsCleared.modify team (· - 1)
    matchQueue := matchQueue }

def resolveFromCounts (m : Nat) (loading : Loading) : Except TournamentError Loading := do
  let matchM ← loading.self.getMatch m
  let winnerA ← winnerBefore loading.self matchM.precedingA
  let winnerB ← winnerBefore loading.self matchM.precedingB
  match winnerA, winnerB with
  | some a, some b =>
      match loading.roundsCleared[a]?, loading.roundsCleared[b]? with
      | some aRoundsCleared, some bRoundsCleared =>
          if aRoundsCleared ≠ 0 ∧ bRoundsCleared ≠ 0 then
            throw (.runtimeError "both teams won the same match")
          else if aRoundsCleared = 0 ∧ bRoundsCleared = 0 then
            return { loading with self := loading.self.addPending m }
          else
            spendRound m matchM (if aRoundsCleared ≠ 0 then a else b) loading
      | _, _ => throw .nullTeam
  | _, _ => throw (.logicError "preceding matches are not resolved")

/-- One pass over the queue. The queue is a hash set, so any of its matches
may come first. -/
def queueBody (order : Nat → Nat) :
    Nat × Loading → Step (Nat × Loading) (Except TournamentError Loading)
  | (pass, loading) =>
      match loading.matchQueue[order pass % loading.matchQueue.length]? with
      | none => .done (.ok loading)
      | some m =>
          match resolveFromCounts m
              { loading with matchQueue := loading.matchQueue.filter (· ≠ m) } with
          | .ok loading => .next (pass + 1, loading)
          | .error e => .done (.error e)

/-- Each pass takes a match from the queue for good or spends a round. -/
def processQueue (order : Nat → Nat) (loading : Loading) : Except TournamentError Loading :=
  let fuel := loading.roundsCleared.sum + loading.matchQueue.length + 1
  (run (queueBody order) fuel (0, loading)).getD (.error .outOfFuel)

/-- The queue starts with the matches that follow the zero-round matches. -/
def initialQueue (self : Tournament) : Except TournamentError (List Nat) := do
  let following ← self.zeroRoundMatches.mapM fun m => do
    let matchM ← self.getMatch m
    return matchM.following
  if none ∈ following then
    throw (.logicError "null match in match queue")
  else
    return (following.filterMap id).dedup

/-- The end of loading: the tournament is complete when its final match is
resolved. -/
def finishLoading (self : Tournament) : Except TournamentError Tournament := do
  let finalWinner ← winnerBefore self self.finalMatch
  if finalWinner = none ↔ self.pendingMatches = [] then
    throw (.logicError
      "there must be pending matches if and only if the final match is not resolved")
  else if finalWinner ≠ none then
    return { self with currentState := .complete }
  else
    return self

def computeMatchState (order : Nat → Nat) (roundsCleared : List Nat) (self : Tournament) :
    Except TournamentError Tournament := do
  let self ← { self with currentState := .inProgress }.createBracketMatches
  let matchQueue ← initialQueue self
  let loading ← processQueue order ⟨self, roundsCleared, matchQueue⟩
  finishLoading loading.self

/-- `init` for a tournament that is constructed from JSON. -/
def init (mapIndex : MapIndex) (comDeckIndex : COMDeckIndex) (order : Nat → Nat)
    (sourceJson : Json) : Except LoadError Tournament := do
  let name ← liftJson (sourceJson.getString "name")
  let mapNumber := toUInt32 (← liftJson (sourceJson.getInt "map_number"))
  if mapNumber ∉ mapIndex.mapNumbers then
    throw (.json .outOfRange)
  else do
    let rules ← liftJson (sourceJson.lookup "rules" >>= Rules.fromJson)
    let flags := toUInt8 (← liftJson (Json.orDefault (sourceJson.getInt "flags") 0x02))
    let is2v2 ← liftJson (Json.orDefault (sourceJson.getBool "is_2v2") false)
    let isRegistrationComplete ← liftJson (sourceJson.getBool "is_registration_complete")
    let teamJsons ← liftJson (sourceJson.getList "teams")
    let teams ← teamsFromJson comDeckIndex 0 teamJsons
    let self : Tournament := {
      comDeckIndex := comDeckIndex
      name := name
      mapNumber := mapNumber
      rules := rules
      numTeams := teams.length
      flags := if is2v2 then flags ||| flagIs2v2 else flags
      currentState := .registration
      allPlayerAccountIds := accountIds (teams.map Prod.fst)
      pendingMatches := []
      teams := teams.map Prod.fst
      allMatches := []
      zeroRoundMatches := []
      finalMatch := none }
    if isRegistrationComplete then
      liftTournament (computeMatchState order (teams.map Prod.snd) self)
    else
      return self

end HuntersGuild.TournamentStorage
