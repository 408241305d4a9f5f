import HuntersGuild.JsonValues
import HuntersGuild.OrderedMaps
import HuntersGuild.StatefulPrograms

/-!
Teams of players, the index that finds them by ID, by name and by account, and
the files they are saved to.
-/

namespace HuntersGuild.Teams

open HuntersGuild.ExceptionRules
open HuntersGuild.JsonValues
open HuntersGuild.StatefulPrograms

inductive MemberFlag where
  | isMaster
  | isLeader
deriving DecidableEq

def MemberFlag.value : MemberFlag → UInt8
  | .isMaster => 0x01
  | .isLeader => 0x02

structure Member where
  accountId : UInt32
  flags : UInt8
  points : UInt64
  name : String
deriving DecidableEq

namespace Member

def checkFlag (flag : MemberFlag) (self : Member) : Bool := flag.value &&& self.flags ≠ 0

def setFlag (flag : MemberFlag) (self : Member) : Member :=
  { self with flags := self.flags ||| flag.value }

def clearFlag (flag : MemberFlag) (self : Member) : Member :=
  { self with flags := self.flags &&& ~~~flag.value }

end Member

/-- The flags are read from configuration files, so that any value may come. -/
abbrev RewardFlag := UInt32

namespace RewardFlag

def none : RewardFlag := 0x00000000
def members20Leaders3 : RewardFlag := 0x00000004
def members40Leaders5 : RewardFlag := 0x00000008
def members70Leaders8 : RewardFlag := 0x00000010
def members100Leaders10 : RewardFlag := 0x00000020

end RewardFlag

/-- A team, without the picture on its flag. -/
structure Team where
  teamId : UInt32
  points : UInt32
  spentPoints : UInt32
  name : String
  masterAccountId : UInt32
  members : Std.ExtTreeMap UInt32 Member
  rewardFlags : UInt32
  rewardKeys : Std.ExtTreeSet String

namespace Team

def new (teamId : UInt32) : Team where
  teamId := teamId
  points := 0
  spentPoints := 0
  name := ""
  masterAccountId := 0
  members := ∅
  rewardFlags := 0
  rewardKeys := ∅

/-- Only the low byte of a flag counts. -/
def checkRewardFlag (flag : RewardFlag) (self : Team) : Bool :=
  flag.toUInt8.toUInt32 &&& self.rewardFlags ≠ 0

def setRewardFlag (flag : RewardFlag) (self : Team) : Team :=
  { self with rewardFlags := self.rewardFlags ||| flag.toUInt8.toUInt32 }

def numMembers (self : Team) : Nat := self.members.size

def numLeaders (self : Team) : Nat :=
  self.members.toList.countP fun it => it.2.checkFlag .isLeader

def maxMembers (self : Team) : Nat :=
  if self.checkRewardFlag .members100Leaders10 then
    100
  else if self.checkRewardFlag .members70Leaders8 then
    70
  else if self.checkRewardFlag .members40Leaders5 then
    40
  else if self.checkRewardFlag .members20Leaders3 then
    20
  else
    10

def maxLeaders (self : Team) : Nat :=
  if self.checkRewardFlag .members100Leaders10 then
    10
  else if self.checkRewardFlag .members70Leaders8 then
    8
  else if self.checkRewardFlag .members40Leaders5 then
    5
  else if self.checkRewardFlag .members20Leaders3 then
    3
  else
    2

def canAddMember (self : Team) : Bool := self.numMembers < self.maxMembers

def canPromoteLeader (self : Team) : Bool := self.numLeaders < self.maxLeaders

/-! What the operations of the index do to a team. -/

def withMember (member : Member) (self : Team) : Team :=
  { self with members := self.members.insertIfNew member.accountId member }

/-- A team as it is created. -/
def created (teamId : UInt32) (name : String) (masterAccountId : UInt32) (masterName : String) : Team :=
  { (Team.new teamId).withMember
      (Member.setFlag .isMaster ⟨masterAccountId, 0, 0, masterName⟩) with name := name }

def withName (name : String) (self : Team) : Team := { self with name := name }

def withoutMember (accountId : UInt32) (self : Team) : Team :=
  { self with members := self.members.erase accountId }

/-- Changes a member in its place. -/
def modifyMember (accountId : UInt32) (change : Member → Member) (self : Team) : Team :=
  { self with members := self.members.modify accountId change }

def withPoints (accountId points : UInt32) (self : Team) : Team :=
  { self.modifyMember accountId fun m => { m with points := m.points + points.toUInt64 } with
    points := self.points + points }

/-- The two accounts may be the same one. -/
def withMaster (masterAccountId newMasterAccountId : UInt32) (self : Team) : Team :=
  { (self.modifyMember masterAccountId fun m =>
        (m.clearFlag .isMaster).setFlag .isLeader).modifyMember newMasterAccountId fun m =>
      (m.clearFlag .isLeader).setFlag .isMaster with
    masterAccountId := newMasterAccountId }

def withReward (key : String) (points : UInt32) (rewardFlag : RewardFlag) (self : Team) : Team :=
  let bought := { self with
    rewardKeys := self.rewardKeys.insert key
    spentPoints := self.spentPoints + points }
  if rewardFlag ≠ .none then bought.setRewardFlag rewardFlag else bought

end Team

/-! Files. -/

namespace Member

/-- The points of a member are written as a signed number. -/
def json (self : Member) : Json :=
  .dict [("AccountID", .int self.accountId.toNat), ("Flags", .int self.flags.toNat),
    ("Points", .int self.points.toInt64.toInt), ("Name", .str self.name)]

def ofJson (json : Json) : Except JsonError Member := do
  let flags ← Json.orDefault (json.getInt "Flags") 0
  let points ← Json.orDefault (json.getInt "Points") 0
  let name ← Json.orDefault (json.getString "Name") ""
  -- the old format has another key for the account
  let accountId ← match json.getInt "AccountID" with
    | .error .outOfRange => json.getInt "SerialNumber"
    | other => other
  return ⟨UInt32.ofInt accountId, UInt8.ofInt flags, UInt64.ofInt points, name⟩

end Member

/-- The orders in which the hash tables of a team are iterated. -/
structure IterationOrder where
  members : List (UInt32 × Member) → List (UInt32 × Member)
  rewardKeys : List String → List String
  members_perm : ∀ entries, (members entries).Perm entries
  rewardKeys_perm : ∀ keys, (rewardKeys keys).Perm keys

namespace Team

def json (order : IterationOrder) (self : Team) : Json :=
  .dict [("Name", .str self.name), ("SpentPoints", .int self.spentPoints.toNat),
    ("Members", .list ((order.members self.members.toList).map fun it => it.2.json)),
    ("RewardKeys", .list ((order.rewardKeys self.rewardKeys.toList).map .str)),
    ("RewardFlags", .int self.rewardFlags.toNat)]

/-- One round of the loop over the members in a file. -/
def loadMember (self : Team) (memberJson : Json) : Except JsonError Team := do
  let m ← Member.ofJson memberJson
  return { self.withMember m with
    points := self.points + m.points.toUInt32
    masterAccountId := if m.checkFlag .isMaster then m.accountId else self.masterAccountId }

def loadRewardKey (self : Team) (key : Json) : Except JsonError Team := do
  return { self with rewardKeys := self.rewardKeys.insert (← key.asString) }

def loadConfig (json : Json) (self : Team) : Except JsonError Team := do
  let name ← json.getString "Name"
  let spentPoints ← json.getInt "SpentPoints"
  let members ← json.getList "Members"
  let self ← members.foldlM loadMember
    { self with name := name, spentPoints := UInt32.ofInt spentPoints, points := 0 }
  let self ← match json.getList "RewardKeys" with
    | .error .outOfRange => .ok self
    | .error e => .error e
    | .ok keys => keys.foldlM loadRewardKey self
  let rewardFlags ← json.getInt "RewardFlags"
  return { self with rewardFlags := UInt32.ofInt rewardFlags }

end Team

/-! The index. -/

inductive Exception where
  | outOfRange
  | runtimeError (what : String)
deriving DecidableEq

/-- Team objects are shared: the three maps hold pointers to them. -/
abbrev Pointer := Nat

/-- The index, with the team objects that were made so far and what was last
saved of each. -/
structure TeamIndex where
  teams : Pointer → Team
  allocated : Nat
  saved : Pointer → Option Team
  nextTeamId : UInt32
  idToTeam : Std.ExtTreeMap UInt32 Pointer
  nameToTeam : Std.ExtTreeMap String Pointer
  accountIdToTeam : Std.ExtTreeMap UInt32 Pointer

abbrev Program := EStateM Exception TeamIndex

namespace TeamIndex

def empty : TeamIndex where
  teams := fun _ => .new 0
  allocated := 0
  saved := fun _ => none
  nextTeamId := 1
  idToTeam := ∅
  nameToTeam := ∅
  accountIdToTeam := ∅

def change (team : Pointer) (f : Team → Team) (self : TeamIndex) : TeamIndex :=
  { self with teams := Function.update self.teams team (f (self.teams team)) }

def save (team : Pointer) (self : TeamIndex) : TeamIndex :=
  { self with saved := Function.update self.saved team (some (self.teams team)) }

/-- `delete_files`. -/
def unsave (team : Pointer) (self : TeamIndex) : TeamIndex :=
  { self with saved := Function.update self.saved team none }

/-- `make_shared` with the next ID. -/
def allocate (team : Team) (self : TeamIndex) : TeamIndex :=
  { self with
    teams := Function.update self.teams self.allocated team
    allocated := self.allocated + 1
    nextTeamId := self.nextTeamId + 1 }

/-- An account that is in another team already stays with that team. -/
def withAccounts (team : Pointer) (accountIds : List UInt32) (self : TeamIndex) : TeamIndex :=
  { self with
    accountIdToTeam := accountIds.foldl (fun m accountId => m.insertIfNew accountId team)
      self.accountIdToTeam }

def withId (team : Pointer) (self : TeamIndex) : TeamIndex :=
  { self with idToTeam := self.idToTeam.insertIfNew (self.teams team).teamId team }

def withoutId (team : Pointer) (self : TeamIndex) : TeamIndex :=
  { self with idToTeam := self.idToTeam.erase (self.teams team).teamId }

def withName (name : String) (team : Pointer) (self : TeamIndex) : TeamIndex :=
  { self with nameToTeam := self.nameToTeam.insertIfNew name team }

def withoutName (name : String) (self : TeamIndex) : TeamIndex :=
  { self with nameToTeam := self.nameToTeam.erase name }

def withoutAccounts (accountIds : List UInt32) (self : TeamIndex) : TeamIndex :=
  { self with
    accountIdToTeam := accountIds.foldl (fun m accountId => m.erase accountId) self.accountIdToTeam }

/-- The accounts of the members, as the members themselves have them. -/
def memberIds (team : Pointer) (self : TeamIndex) : List UInt32 :=
  (self.teams team).members.toList.map fun it => it.2.accountId

end TeamIndex

open TeamIndex

def teamById (teamId : UInt32) : Program Pointer := do
  let s ← get
  match s.idToTeam[teamId]? with
  | some team => return team
  | none => throw .outOfRange

def teamByAccountId (accountId : UInt32) : Program Pointer := do
  let s ← get
  match s.accountIdToTeam[accountId]? with
  | some team => return team
  | none => throw .outOfRange

def memberOf (team : Pointer) (accountId : UInt32) : Program Member := do
  let s ← get
  match (s.teams team).members[accountId]? with
  | some m => return m
  | none => throw .outOfRange

/-- A change of a team that is saved. -/
def changeTeam (team : Pointer) (f : Team → Team) : Program Unit := do
  modify (change team f)
  modify (save team)

def addToIndexes (team : Pointer) : Program Unit := do
  let s ← get
  if s.idToTeam.contains (s.teams team).teamId then
    throw (.runtimeError "team ID is already in use")
  else if s.nameToTeam.contains (s.teams team).name then
    modify (withId team)
    modify (withoutId team)
    throw (.runtimeError "team name is already in use")
  else
    modify (withId team)
    modify (TeamIndex.withName (s.teams team).name team)
    modify (withAccounts team (s.memberIds team))

def removeFromIndexes (team : Pointer) : Program Unit := do
  let s ← get
  modify (withoutId team)
  modify (withoutName (s.teams team).name)
  modify (withoutAccounts (s.memberIds team))

/-- The new team takes the next ID even if it is not entered. -/
def create (name : String) (masterAccountId : UInt32) (masterName : String) : Program Pointer := do
  let s ← get
  let team := s.allocated
  set (s.allocate (.created s.nextTeamId name masterAccountId masterName))
  modify (save team)
  addToIndexes team
  return team

def disband (teamId : UInt32) : Program Unit := do
  let team ← teamById teamId
  removeFromIndexes team
  modify (unsave team)

def rename (teamId : UInt32) (newTeamName : String) : Program Unit := do
  let team ← teamById teamId
  let s ← get
  if s.nameToTeam.contains newTeamName then
    throw (.runtimeError "team name is already in use")
  else
    modify (TeamIndex.withName newTeamName team)
    modify (withoutName (s.teams team).name)
    changeTeam team (.withName newTeamName)

def addMember (teamId accountId : UInt32) (name : String) : Program Unit := do
  let team ← teamById teamId
  let s ← get
  if s.accountIdToTeam.contains accountId then
    throw (.runtimeError "user is already in a different team")
  else
    modify (withAccounts team [accountId])
    changeTeam team (.withMember ⟨accountId, 0, 0, name⟩)

def removeMember (accountId : UInt32) : Program Unit := do
  let s ← get
  match s.accountIdToTeam[accountId]? with
  | none => throw (.runtimeError "client is not in any team")
  | some team =>
    modify (withoutAccounts [accountId])
    modify (change team (.withoutMember accountId))
    let s ← get
    if (s.teams team).members.isEmpty then
      disband (s.teams team).teamId
    else
      modify (save team)

def addMemberPoints (accountId points : UInt32) : Program Unit := do
  let team ← teamByAccountId accountId
  let _ ← memberOf team accountId
  changeTeam team (.withPoints accountId points)

/-- The account of the master is checked first in three of the operations. -/
def masterOf (masterAccountId otherAccountId : UInt32) : Program (Pointer × Member) := do
  let team ← teamByAccountId masterAccountId
  let master ← memberOf team masterAccountId
  if ¬ master.checkFlag .isMaster then
    throw (.runtimeError "incorrect master account ID")
  else
    let other ← memberOf team otherAccountId
    return (team, other)

def promoteLeader (masterAccountId leaderAccountId : UInt32) : Program Bool := do
  let (team, other) ← masterOf masterAccountId leaderAccountId
  let s ← get
  if other.checkFlag .isLeader || !(s.teams team).canPromoteLeader then
    return false
  else
    changeTeam team (.modifyMember leaderAccountId (.setFlag .isLeader))
    return true

def demoteLeader (masterAccountId leaderAccountId : UInt32) : Program Bool := do
  let (team, other) ← masterOf masterAccountId leaderAccountId
  if ¬ other.checkFlag .isLeader then
    return false
  else
    changeTeam team (.modifyMember leaderAccountId (.clearFlag .isLeader))
    return true

def changeMaster (masterAccountId newMasterAccountId : UInt32) : Program Unit := do
  let (team, _) ← masterOf masterAccountId newMasterAccountId
  changeTeam team (.withMaster masterAccountId newMasterAccountId)

def buyReward (teamId : UInt32) (key : String) (points : UInt32) (rewardFlag : RewardFlag) :
    Program Unit := do
  let team ← teamById teamId
  let s ← get
  if (s.teams team).spentPoints + points > (s.teams team).points then
    throw (.runtimeError "not enough points available")
  else
    changeTeam team (.withReward key points rewardFlag)

end HuntersGuild.Teams
