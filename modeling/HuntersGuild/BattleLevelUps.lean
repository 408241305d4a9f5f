import HuntersGuild.ExperienceGains
import HuntersGuild.Lobbies

/-!
The command 6xD0, with which the server raises the level of a player in battle
mode.
-/

namespace HuntersGuild.BattleLevelUps

open HuntersGuild.ExperienceGains
open HuntersGuild.Items (Version)
open HuntersGuild.LevelTables
open HuntersGuild.Lobbies (GameMode)

/-- A lobby with the clients in it. -/
structure Lobby where
  isGame : Bool
  mode : GameMode
  questInProgress : Bool
  clients : Vector (Option Client) 12

/-- What the handler does to the client that is addressed. -/
def levelUp (s : ServerState) (lc : Client) (numLevels : UInt32) : Except Exception Unit × Client :=
  let targetLevel := min (lc.stats.level + numLevels) 199
  let beforeExp := lc.stats.experience
  let expDelta := (lc.stats.experience - beforeExp).toInt32
  if expDelta > 0 then
    match s.levelTable lc.version with
    | .error e => (.error e, lc)
    | .ok table =>
      let r := table.advanceToLevel lc.stats targetLevel lc.charClass
      let lc := { lc with stats := r.2 }
      match r.1 with
      | .error e => (.error e, lc)
      | .ok _ =>
        let lc := lc.sendIfBb (.giveExperience expDelta.toUInt32 0xFFFF)
        (.ok (), lc.sendIfBb (.levelUp lc.stats))
  else (.ok (), lc)

def onBattleLevelUpBb (s : ServerState) (version : Version) (clientId : UInt16) (numLevels : UInt32)
    (l : Lobby) : Except Exception Unit × Lobby :=
  if version ≠ .bbV4 then (.error (.runtimeError "6xD0 command sent by non-BB client"), l)
  else if ¬ l.isGame then (.error (.runtimeError "6xD0 command sent in non-game lobby"), l)
  else if l.mode ≠ .battle then (.error (.runtimeError "6xD0 command sent during free play"), l)
  else if ¬ l.questInProgress then
    (.error (.runtimeError "6xD0 command sent during free play"), l)
  else if h : clientId.toNat < 12 then
    match l.clients[clientId.toNat] with
    | none => (.ok (), l)
    | some lc =>
      let r := levelUp s lc numLevels
      (r.1, { l with clients := l.clients.set clientId.toNat (some r.2) })
  else (.error (.outOfRange "array::at"), l)

/-- The command passes the checks. -/
structure Accepted (version : Version) (l : Lobby) : Prop where
  version_eq : version = .bbV4
  isGame : l.isGame
  mode_eq : l.mode = .battle
  questInProgress : l.questInProgress

/-- The experience that a message gives. -/
def Message.amount : Message → UInt32
  | .giveExperience amount _ => amount
  | .levelUp _ => 0
  | .maxLevelNotification _ => 0

/-- What raising the level is to do; luck stays as it is. -/
structure LeveledUp (deltas : Deltas) (old new : Client) (numLevels : UInt32) : Prop where
  level : new.stats.level.toNat = min (old.stats.level.toNat + numLevels.toNat) 199
  experience : old.stats.level.toNat < new.stats.level.toNat →
    new.stats.experience.toNat = deltas.threshold new.stats.level.toNat
  unchanged : old.stats.level = new.stats.level → new.stats.experience = old.stats.experience
  charStats : new.stats.charStats =
    old.stats.charStats.plusExceptLck (deltas.gained old.stats.level.toNat new.stats.level.toNat)
  announced : ∃ messages, new.sent = old.sent ++ messages ∧
    (messages.map Message.amount).sum = new.stats.experience - old.stats.experience

section

variable {s : ServerState} {lc : Client} {numLevels : UInt32}

/-- The difference is taken before the experience changes, so nothing is done. -/
theorem levelUp_eq (s : ServerState) (lc : Client) (numLevels : UInt32) :
    levelUp s lc numLevels = (.ok (), lc) := by
  unfold levelUp
  dsimp only
  rw [UInt32.sub_self]
  exact if_neg (by decide)

theorem leveledUp_self_iff (deltas : Deltas) (hlevel : lc.stats.level.toNat ≤ 199) :
    LeveledUp deltas lc lc numLevels ↔ numLevels = 0 ∨ lc.stats.level.toNat = 199 := by
  constructor
  · intro h
    have hmin := h.level
    rw [← UInt32.toNat_inj, UInt32.toNat_zero]
    omega
  · intro h
    constructor
    · rw [← UInt32.toNat_inj, UInt32.toNat_zero] at h
      omega
    · exact fun hlt => absurd hlt (Nat.lt_irrefl _)
    · exact fun _ => rfl
    · exact (advanced_self deltas lc.stats).charStats
    · refine ⟨[], (List.append_nil _).symm, ?_⟩
      rw [UInt32.sub_self]
      rfl

/-- `advance_to_level` would do what the command is for, if it was called. -/
theorem leveledUp_advanceToLevel {table : LevelTable} {deltas : Deltas}
    (hclass : table.levelDeltas[lc.charClass.toNat]? = some deltas)
    (hlevel : lc.stats.level.toNat ≤ 199) {target : UInt32}
    (htarget : target.toNat = min (lc.stats.level.toNat + numLevels.toNat) 199) :
    ∃ new, table.advanceToLevel lc.stats target lc.charClass = (.ok (), new) ∧
      LeveledUp deltas lc
        { lc with
          stats := new
          sent := lc.sent ++ [.giveExperience (new.experience - lc.stats.experience) 0xFFFF,
            .levelUp new] } numLevels := by
  have hmax : target.toNat ≤ 199 := by omega
  have hle : lc.stats.level.toNat ≤ target.toNat := by omega
  rcases LevelTable.advanced hclass hmax hle with ⟨new, hrun, hnew⟩
  refine ⟨new, hrun, ?_, ?_, ?_, ?_, ?_⟩
  · dsimp only
    rw [hnew.level, htarget]
  · dsimp only
    rw [hnew.level]
    exact hnew.experience
  · dsimp only
    rw [hnew.level]
    exact hnew.unchanged
  · dsimp only
    rw [hnew.level]
    exact hnew.charStats
  · refine ⟨_, rfl, ?_⟩
    simp only [List.map_cons, List.map_nil, List.sum_cons, List.sum_nil, Message.amount,
      UInt32.add_zero]

theorem run_onBattleLevelUpBb {version : Version} {l : Lobby} (haccepted : Accepted version l)
    {clientId : UInt16} (hlt : clientId.toNat < 12)
    (htarget : l.clients[clientId.toNat] = some lc) (numLevels : UInt32) :
    onBattleLevelUpBb s version clientId numLevels l = (.ok (), l) := by
  unfold onBattleLevelUpBb
  rw [if_neg (not_not.mpr haccepted.version_eq), if_neg (not_not.mpr haccepted.isGame),
    if_neg (not_not.mpr haccepted.mode_eq), if_neg (not_not.mpr haccepted.questInProgress),
    dif_pos hlt, htarget]
  dsimp only
  rw [levelUp_eq, ← htarget, Vector.set_getElem_self]

/-- The command does what it is to do only where nothing is to be done. -/
theorem onBattleLevelUpBb_iff {version : Version} {l : Lobby} (haccepted : Accepted version l)
    {clientId : UInt16} (hlt : clientId.toNat < 12)
    (htarget : l.clients[clientId.toNat] = some lc) (hlevel : lc.stats.level.toNat ≤ 199)
    (deltas : Deltas) (numLevels : UInt32) :
    (∃ l' lc', onBattleLevelUpBb s version clientId numLevels l = (.ok (), l') ∧
        l'.clients[clientId.toNat] = some lc' ∧ LeveledUp deltas lc lc' numLevels) ↔
      numLevels = 0 ∨ lc.stats.level.toNat = 199 := by
  rw [← leveledUp_self_iff deltas hlevel, run_onBattleLevelUpBb haccepted hlt htarget]
  constructor
  · rintro ⟨l', lc', hrun, hclient, h⟩
    have hsame : l = l' := congrArg Prod.snd hrun
    rw [← hsame, htarget] at hclient
    rwa [← Option.some.inj hclient] at h
  · intro h
    exact ⟨l, lc, rfl, htarget, h⟩

theorem onBattleLevelUpBb_iff_zero :
    let lc : Client := ⟨.bbV4, 0, ⟨⟨1, 2, 3, 4, 5, 6, 7⟩, 4, 45⟩, []⟩
    let l : Lobby := ⟨true, .battle, true, Vector.replicate 12 (some lc)⟩
    (∃ l' lc', onBattleLevelUpBb ⟨⟨[]⟩, ⟨[]⟩, ⟨[linearDeltas]⟩, true⟩ .bbV4 3 0 l = (.ok (), l') ∧
        l'.clients[(3 : UInt16).toNat] = some lc' ∧ LeveledUp linearDeltas lc lc' 0) ↔
      (0 : UInt32) = 0 ∨ lc.stats.level.toNat = 199 :=
  onBattleLevelUpBb_iff ⟨rfl, rfl, rfl, rfl⟩ (by decide) rfl (by decide) linearDeltas 0

/-- A player of level index 4 that is to gain a level stays where it is. -/
theorem not_onBattleLevelUpBb :
    let lc : Client := ⟨.bbV4, 0, ⟨⟨1, 2, 3, 4, 5, 6, 7⟩, 4, 45⟩, []⟩
    let l : Lobby := ⟨true, .battle, true, Vector.replicate 12 (some lc)⟩
    ¬ ∃ l' lc', onBattleLevelUpBb ⟨⟨[]⟩, ⟨[]⟩, ⟨[linearDeltas]⟩, true⟩ .bbV4 3 1 l = (.ok (), l') ∧
      l'.clients[(3 : UInt16).toNat] = some lc' ∧ LeveledUp linearDeltas lc lc' 1 := by
  intro lc l
  rintro ⟨l', lc', hrun, hclient, h⟩
  have haccepted : Accepted .bbV4 l := ⟨rfl, rfl, rfl, rfl⟩
  have htarget : l.clients[(3 : UInt16).toNat] = some lc := rfl
  rw [run_onBattleLevelUpBb haccepted (by decide) htarget] at hrun
  have hsame : l = l' := congrArg Prod.snd hrun
  rw [← hsame, htarget] at hclient
  have hlevel := h.level
  rw [← Option.some.inj hclient] at hlevel
  exact absurd hlevel (by decide)

end

end HuntersGuild.BattleLevelUps
