import HuntersGuild.Items
import Mathlib.Data.Nat.Basic
import Mathlib.Algebra.GroupWithZero.Nat
import Mathlib.Data.UInt

/-!
`LevelTable`: what characters of each class gain at each level.
-/

namespace HuntersGuild.LevelTables

open HuntersGuild.Items (Version)

inductive Exception where
  | outOfRange (what : String)
  | logicError (what : String)
  | runtimeError (what : String)
  deriving DecidableEq

structure CharacterStats where
  atp : UInt16
  mst : UInt16
  evp : UInt16
  hp : UInt16
  dfp : UInt16
  ata : UInt16
  lck : UInt16
  deriving DecidableEq

/-- The fields that levels are about. -/
structure PlayerStats where
  charStats : CharacterStats
  level : UInt32
  experience : UInt32
  deriving DecidableEq

structure LevelStatsDelta where
  atp : UInt8
  mst : UInt8
  evp : UInt8
  hp : UInt8
  dfp : UInt8
  ata : UInt8
  lck : UInt8
  tp : UInt8
  experience : UInt32
  deriving DecidableEq

def LevelStatsDelta.apply (self : LevelStatsDelta) (ps : CharacterStats) : CharacterStats where
  ata := ps.ata + self.ata.toUInt16
  atp := ps.atp + self.atp.toUInt16
  dfp := ps.dfp + self.dfp.toUInt16
  evp := ps.evp + self.evp.toUInt16
  hp := ps.hp + self.hp.toUInt16
  mst := ps.mst + self.mst.toUInt16
  lck := ps.lck + self.lck.toUInt16

/-- The levels of a class. -/
abbrev Deltas : Type :=
  Vector LevelStatsDelta 200

/-- The classes of a table; there are 9 of them in the tables of the first
versions, and 12 in the others. -/
structure LevelTable where
  levelDeltas : List Deltas

namespace LevelTable

def statsDeltaForLevel (self : LevelTable) (charClass level : UInt8) :
    Except Exception LevelStatsDelta :=
  match self.levelDeltas[charClass.toNat]? with
  | none => .error (.outOfRange "array::at")
  | some deltas =>
    match deltas[level.toNat]? with
    | none => .error (.outOfRange "array::at")
    | some delta => .ok delta

/-- A round of the loop in `advance_to_level`, which ignores luck. -/
def advanceOnce (stats : PlayerStats) (levelStats : LevelStatsDelta) : PlayerStats where
  charStats :=
    { stats.charStats with
      atp := stats.charStats.atp + levelStats.atp.toUInt16
      mst := stats.charStats.mst + levelStats.mst.toUInt16
      evp := stats.charStats.evp + levelStats.evp.toUInt16
      hp := stats.charStats.hp + levelStats.hp.toUInt16
      dfp := stats.charStats.dfp + levelStats.dfp.toUInt16
      ata := stats.charStats.ata + levelStats.ata.toUInt16 }
  level := stats.level + 1
  experience := levelStats.experience

/-- The stats stay as they are when a level is not in the table. -/
def advanceToLevel (self : LevelTable) (stats : PlayerStats) (level : UInt32) (charClass : UInt8) :
    Except Exception Unit × PlayerStats :=
  if stats.level < level then
    match self.statsDeltaForLevel charClass (stats.level + 1).toUInt8 with
    | .error e => (.error e, stats)
    | .ok levelStats => self.advanceToLevel (advanceOnce stats levelStats) level charClass
  else (.ok (), stats)
termination_by level.toNat - stats.level.toNat
decreasing_by
  have hlt : stats.level < level := ‹_›
  rw [UInt32.lt_iff_toNat_lt] at hlt
  have hlevel := level.toNat_lt
  dsimp only [advanceOnce]
  rw [UInt32.toNat_add, UInt32.toNat_one]
  omega

end LevelTable

/-! What levels add up to. -/

/-- What a list of levels adds to the stats, modulo `2 ^ 16`. -/
def CharacterStats.plus (ps : CharacterStats) (deltas : List LevelStatsDelta) : CharacterStats where
  atp := ps.atp + (deltas.map fun delta => delta.atp.toUInt16).sum
  mst := ps.mst + (deltas.map fun delta => delta.mst.toUInt16).sum
  evp := ps.evp + (deltas.map fun delta => delta.evp.toUInt16).sum
  hp := ps.hp + (deltas.map fun delta => delta.hp.toUInt16).sum
  dfp := ps.dfp + (deltas.map fun delta => delta.dfp.toUInt16).sum
  ata := ps.ata + (deltas.map fun delta => delta.ata.toUInt16).sum
  lck := ps.lck + (deltas.map fun delta => delta.lck.toUInt16).sum

namespace CharacterStats

variable (ps : CharacterStats)

theorem plus_nil : ps.plus [] = ps := by
  unfold plus
  simp only [List.map_nil, List.sum_nil, UInt16.add_zero]

theorem plus_append (deltas deltas' : List LevelStatsDelta) :
    ps.plus (deltas ++ deltas') = (ps.plus deltas).plus deltas' := by
  unfold plus
  simp only [List.map_append, List.sum_append, UInt16.add_assoc]

theorem apply_eq_plus (delta : LevelStatsDelta) : delta.apply ps = ps.plus [delta] := by
  unfold LevelStatsDelta.apply plus
  simp only [List.map_cons, List.map_nil, List.sum_cons, List.sum_nil, UInt16.add_zero]

end CharacterStats

/-- The entry of a level; a level is below 200. -/
def Deltas.entry (deltas : Deltas) (level : Nat) : LevelStatsDelta :=
  deltas[level]?.getD deltas[0]

/-- The experience that a level takes. -/
def Deltas.threshold (deltas : Deltas) (level : Nat) : Nat :=
  (deltas.entry level).experience.toNat

/-- The levels that are gained from level `a` up to level `b`. -/
def Deltas.gained (deltas : Deltas) (a b : Nat) : List LevelStatsDelta :=
  (List.range' (a + 1) (b - a)).map deltas.entry

namespace Deltas

variable (deltas : Deltas)

theorem gained_self (a : Nat) : deltas.gained a a = [] := by
  rw [gained, Nat.sub_self]
  rfl

theorem gained_append {a b c : Nat} (hab : a ≤ b) (hbc : b ≤ c) :
    deltas.gained a b ++ deltas.gained b c = deltas.gained a c := by
  unfold gained
  have hsplit : c - a = (b - a) + (c - b) := by omega
  have hstart : b + 1 = a + 1 + (b - a) := by omega
  rw [← List.map_append, hsplit, hstart, ← List.range'_append_1]

theorem gained_succ (a : Nat) : deltas.gained a (a + 1) = [deltas.entry (a + 1)] := by
  rw [gained, Nat.add_sub_cancel_left]
  rfl

end Deltas

theorem LevelTable.statsDeltaForLevel_of_lt {table : LevelTable} {charClass : UInt8} {deltas : Deltas}
    (hclass : table.levelDeltas[charClass.toNat]? = some deltas) {level : UInt32}
    (hlt : level.toNat < 199) :
    table.statsDeltaForLevel charClass (level + 1).toUInt8 = .ok (deltas.entry (level.toNat + 1)) := by
  have hindex : (level + 1).toUInt8.toNat = level.toNat + 1 := by
    rw [UInt32.toNat_toUInt8, UInt32.toNat_add, UInt32.toNat_one]
    omega
  have hentry : deltas[level.toNat + 1]? = some (deltas.entry (level.toNat + 1)) := by
    rw [Deltas.entry, Vector.getElem?_eq_getElem (Nat.succ_lt_succ hlt), Option.getD_some]
  unfold statsDeltaForLevel
  rw [hclass, hindex]
  dsimp only
  rw [hentry]

/-- Levels that leave the luck as it is. -/
def CharacterStats.plusExceptLck (ps : CharacterStats) (deltas : List LevelStatsDelta) :
    CharacterStats :=
  { ps.plus deltas with lck := ps.lck }

theorem CharacterStats.plusExceptLck_append (ps : CharacterStats)
    (deltas deltas' : List LevelStatsDelta) :
    ps.plusExceptLck (deltas ++ deltas') = (ps.plusExceptLck deltas).plusExceptLck deltas' := by
  unfold plusExceptLck
  rw [plus_append]
  rfl

/-- What `advance_to_level` makes of the stats. -/
structure Advanced (deltas : Deltas) (old new : PlayerStats) (target : UInt32) : Prop where
  level : new.level = target
  experience : old.level.toNat < target.toNat → new.experience.toNat = deltas.threshold target.toNat
  unchanged : old.level = target → new.experience = old.experience
  charStats : new.charStats =
    old.charStats.plusExceptLck (deltas.gained old.level.toNat target.toNat)

theorem advanced_self (deltas : Deltas) (stats : PlayerStats) :
    Advanced deltas stats stats stats.level := by
  refine ⟨rfl, fun hlt => absurd hlt (Nat.lt_irrefl _), fun _ => rfl, ?_⟩
  rw [deltas.gained_self, CharacterStats.plusExceptLck, CharacterStats.plus_nil]

theorem charStats_advanceOnce (stats : PlayerStats) (levelStats : LevelStatsDelta) :
    (LevelTable.advanceOnce stats levelStats).charStats =
      stats.charStats.plusExceptLck [levelStats] := by
  unfold LevelTable.advanceOnce CharacterStats.plusExceptLck
  rw [← CharacterStats.apply_eq_plus]
  rfl

theorem LevelTable.advanced {table : LevelTable} {charClass : UInt8} {deltas : Deltas}
    (hclass : table.levelDeltas[charClass.toNat]? = some deltas) {stats : PlayerStats}
    {level : UInt32} (hlevel : level.toNat ≤ 199) (hle : stats.level.toNat ≤ level.toNat) :
    ∃ new, table.advanceToLevel stats level charClass = (.ok (), new) ∧
      Advanced deltas stats new level := by
  induction hrest : level.toNat - stats.level.toNat using Nat.strongRecOn generalizing stats with
  | _ rest ih =>
      rw [advanceToLevel]
      split_ifs with hlt
      · rw [UInt32.lt_iff_toNat_lt] at hlt
        have hbelow : stats.level.toNat < 199 := hlt.trans_le hlevel
        have hsucc : (stats.level + 1).toNat = stats.level.toNat + 1 := by
          rw [UInt32.toNat_add, UInt32.toNat_one]
          omega
        rw [statsDeltaForLevel_of_lt hclass hbelow]
        dsimp only
        have hstats := charStats_advanceOnce stats (deltas.entry (stats.level.toNat + 1))
        have honce : (advanceOnce stats (deltas.entry (stats.level.toNat + 1))).level.toNat =
            stats.level.toNat + 1 := hsucc
        have hexp : (advanceOnce stats (deltas.entry (stats.level.toNat + 1))).experience.toNat =
            deltas.threshold (stats.level.toNat + 1) := rfl
        generalize advanceOnce stats (deltas.entry (stats.level.toNat + 1)) = next at hstats honce hexp
        have hnext : next.level.toNat ≤ level.toNat := by omega
        rcases ih _ (by omega) hnext rfl with ⟨new, hrun, hnew⟩
        refine ⟨new, hrun, hnew.level, fun _ => ?_, ?_, ?_⟩
        · rcases Nat.eq_or_lt_of_le hnext with heq | hless
          · rw [hnew.unchanged (UInt32.toNat_inj.mp heq), hexp, ← honce, heq]
          · exact hnew.experience hless
        · intro heq
          rw [heq] at hlt
          exact absurd hlt (Nat.lt_irrefl _)
        · rw [hnew.charStats, hstats, honce, ← CharacterStats.plusExceptLck_append,
            ← deltas.gained_succ, deltas.gained_append (Nat.le_succ _) hlt]
      · rw [UInt32.lt_iff_toNat_lt] at hlt
        have hsame : stats.level = level := UInt32.toNat_inj.mp (by omega)
        rw [← hsame]
        exact ⟨stats, rfl, advanced_self deltas stats⟩

end HuntersGuild.LevelTables
