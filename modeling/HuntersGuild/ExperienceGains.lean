import HuntersGuild.LevelTables
import HuntersGuild.MapStates
import HuntersGuild.StatefulPrograms
import HuntersGuild.ThresholdClimbs

/-!
`add_player_exp`: the experience that a character gains, and its levels.
-/

namespace HuntersGuild.ExperienceGains

open HuntersGuild.Items (Version)
open HuntersGuild.LevelTables
open HuntersGuild.MapStates (isV1)
open HuntersGuild.StatefulPrograms
open HuntersGuild.ThresholdClimbs

def isEp3 (version : Version) : Bool :=
  version = .gcEp3Nte || version = .gcEp3

/-- What is sent: to the players of the game, and for the highest level to all players. -/
inductive Message where
  | giveExperience (amount : UInt32) (fromEnemyId : UInt16)
  | levelUp (stats : PlayerStats)
  | maxLevelNotification (level : UInt32)
  deriving DecidableEq

/-- A client with its character. -/
structure Client where
  version : Version
  charClass : UInt8
  stats : PlayerStats
  sent : List Message

def Client.send (message : Message) (self : Client) : Client :=
  { self with sent := self.sent ++ [message] }

def Client.sendIfBb (message : Message) (self : Client) : Client :=
  if self.version = .bbV4 then self.send message else self

structure ServerState where
  levelTableV1V2 : LevelTable
  levelTableV3 : LevelTable
  levelTableV4 : LevelTable
  notifyServerForMaxLevelAchieved : Bool

def ServerState.levelTable (self : ServerState) : Version → Except Exception LevelTable
  | .dcNte | .dc112000 | .dcV1 | .dcV2 | .pcNte | .pcV2 | .gcNte => .ok self.levelTableV1V2
  | .gcV3 | .gcEp3Nte | .gcEp3 | .xbV3 => .ok self.levelTableV3
  | .bbV4 => .ok self.levelTableV4
  | _ => .error (.logicError "level table not available for version")

def sendMaxLevelNotificationIfNeeded (s : ServerState) (c : Client) : Client :=
  if s.notifyServerForMaxLevelAchieved then
    let maxLevel := if isV1 c.version then 99 else if ¬ isEp3 c.version then 199 else 998
    if c.stats.level = maxLevel then c.send (.maxLevelNotification (maxLevel + 1)) else c
  else c

/-- What a gained level changes. -/
def gainLevel (stats : PlayerStats) (level : LevelStatsDelta) : PlayerStats :=
  { stats with charStats := level.apply stats.charStats, level := stats.level + 1 }

/-- The loop of `add_player_exp`. -/
def levelUpLoop (table : Except Exception LevelTable) (charClass : UInt8) (stats : PlayerStats)
    (leveledUp : Bool) : Except Exception Bool × PlayerStats :=
  match table.bind (·.statsDeltaForLevel charClass (stats.level + 1).toUInt8) with
  | .error e => (.error e, stats)
  | .ok level =>
    if stats.experience ≥ level.experience then
      if (gainLevel stats level).level < 199 then
        levelUpLoop table charClass (gainLevel stats level) true
      else (.ok true, gainLevel stats level)
    else (.ok leveledUp, stats)
termination_by if stats.level < 199 then 199 - stats.level.toNat else 200
decreasing_by
  have h : (gainLevel stats level).level < 199 := ‹_›
  rw [if_pos h]
  rw [UInt32.lt_iff_toNat_lt] at h
  dsimp only [gainLevel] at h ⊢
  split_ifs with hlt
  · rw [UInt32.lt_iff_toNat_lt] at hlt
    rw [UInt32.toNat_add, UInt32.toNat_one] at h ⊢
    change stats.level.toNat < 199 at hlt
    omega
  · exact Nat.lt_succ_of_le (Nat.sub_le _ _)

def addPlayerExp (s : ServerState) (exp : UInt32) (fromEnemyId : UInt16) :
    EStateM Exception Client PUnit := do
  modify fun c => { c with stats.experience := c.stats.experience + exp }
  modify fun c => c.sendIfBb (.giveExperience exp fromEnemyId)
  let c ← get
  let r := levelUpLoop (s.levelTable c.version) c.charClass c.stats false
  modify fun c => { c with stats := r.2 }
  let leveledUp ← fromExcept r.1
  modify fun c =>
    if leveledUp then
      let c := sendMaxLevelNotificationIfNeeded s c
      c.sendIfBb (.levelUp c.stats)
    else c

section

variable {table : LevelTable} {charClass : UInt8} {deltas : Deltas} {stats : PlayerStats}

/-- The levels that the experience is enough for have been gained. -/
structure Climbed (deltas : Deltas) (old new : PlayerStats) : Prop where
  climbs : Climbs deltas.threshold 199 new.experience.toNat old.level.toNat new.level.toNat
  charStats : new.charStats = old.charStats.plus (deltas.gained old.level.toNat new.level.toNat)

theorem toNat_succ {level : UInt32} (hlt : level.toNat < 199) : (level + 1).toNat = level.toNat + 1 := by
  rw [UInt32.toNat_add, UInt32.toNat_one]
  omega

/-- One round of the loop in which a level is gained. -/
theorem climbed_succ {new : PlayerStats} (hlt : stats.level.toNat < 199)
    (hmet : deltas.threshold (stats.level.toNat + 1) ≤ new.experience.toNat)
    (h : Climbed deltas (gainLevel stats (deltas.entry (stats.level.toNat + 1))) new) :
    Climbed deltas stats new := by
  rcases h with ⟨hclimbs, hstats⟩
  dsimp only [gainLevel] at hclimbs hstats
  rw [toNat_succ hlt] at hclimbs hstats
  refine ⟨⟨(Nat.le_succ _).trans hclimbs.le, hclimbs.le_cap, ?_, hclimbs.stops⟩, ?_⟩
  · intro k hk hkle
    rcases Nat.eq_or_lt_of_le hk with rfl | hk
    · exact hmet
    · exact hclimbs.met k hk hkle
  · rw [hstats, CharacterStats.apply_eq_plus, ← CharacterStats.plus_append, ← deltas.gained_succ,
      deltas.gained_append (Nat.le_succ _) hclimbs.le]

theorem climbed_self (hle : stats.level.toNat ≤ 199)
    (hstop : stats.level.toNat = 199 ∨
      stats.experience.toNat < deltas.threshold (stats.level.toNat + 1)) :
    Climbed deltas stats stats := by
  refine ⟨⟨Nat.le_refl _, hle, ?_, hstop⟩, ?_⟩
  · intro k hk hkle
    exact absurd hk (Nat.not_lt.mpr hkle)
  · rw [deltas.gained_self, CharacterStats.plus_nil]

theorem levelUpLoop_climbed (hclass : table.levelDeltas[charClass.toNat]? = some deltas)
    (hlt : stats.level.toNat < 199) (leveledUp : Bool) :
    ∃ r new, levelUpLoop (.ok table) charClass stats leveledUp = (.ok r, new) ∧
      new.experience = stats.experience ∧ Climbed deltas stats new := by
  induction hrest : 199 - stats.level.toNat using Nat.strongRecOn generalizing stats leveledUp with
  | _ rest ih =>
      have hentry : (Except.ok table : Except Exception LevelTable).bind
          (·.statsDeltaForLevel charClass (stats.level + 1).toUInt8) =
            .ok (deltas.entry (stats.level.toNat + 1)) :=
        LevelTable.statsDeltaForLevel_of_lt hclass hlt
      have hsucc : (gainLevel stats (deltas.entry (stats.level.toNat + 1))).level.toNat =
          stats.level.toNat + 1 := toNat_succ hlt
      rw [levelUpLoop, hentry]
      dsimp only
      split_ifs with hmet hmore
      · rw [UInt32.lt_iff_toNat_lt] at hmore
        rcases ih _ (by omega) hmore true rfl with ⟨r, new, hrun, hexp, hclimbed⟩
        refine ⟨r, new, hrun, hexp, climbed_succ hlt ?_ hclimbed⟩
        rw [hexp]
        exact UInt32.le_iff_toNat_le.mp hmet
      · rw [UInt32.lt_iff_toNat_lt] at hmore
        change ¬ _ < 199 at hmore
        refine ⟨true, _, rfl, rfl,
          climbed_succ hlt (UInt32.le_iff_toNat_le.mp hmet) (climbed_self ?_ (.inl ?_))⟩
        · omega
        · omega
      · rw [ge_iff_le, UInt32.le_iff_toNat_le] at hmet
        exact ⟨leveledUp, stats, rfl, rfl, climbed_self hlt.le (.inr (Nat.not_le.mp hmet))⟩

theorem Climbed.trans {old mid new : PlayerStats} (h : Climbed deltas old mid)
    (hexp : mid.experience.toNat ≤ new.experience.toNat) (h' : Climbed deltas mid new) :
    Climbed deltas old new := by
  refine ⟨h.climbs.trans hexp h'.climbs, ?_⟩
  rw [h'.charStats, h.charStats, ← CharacterStats.plus_append,
    deltas.gained_append h.climbs.le h'.climbs.le]

/-- The experience determines the level and the stats. -/
theorem Climbed.unique {old new new' : PlayerStats} (h : Climbed deltas old new)
    (h' : Climbed deltas old new') (hexp : new.experience = new'.experience) : new = new' := by
  have hclimbs := h'.climbs
  rw [← hexp] at hclimbs
  have hlevel := h.climbs.unique hclimbs
  have hstats : new.charStats = new'.charStats := by
    rw [h.charStats, h'.charStats, hlevel]
  rcases new with ⟨charStats, level, experience⟩
  rcases new' with ⟨charStats', level', experience'⟩
  dsimp only at hexp hlevel hstats
  rw [hexp, hstats, UInt32.toNat_inj.mp hlevel]

end

section

variable {s : ServerState} {c : Client} {deltas : Deltas}

/-- The server has the levels of the character's class. -/
def HasClass (s : ServerState) (c : Client) (deltas : Deltas) : Prop :=
  ∃ table, s.levelTable c.version = .ok table ∧ table.levelDeltas[c.charClass.toNat]? = some deltas

/-- The same client, with the same character. -/
structure SameClient (c c' : Client) : Prop where
  version : c'.version = c.version
  charClass : c'.charClass = c.charClass

theorem HasClass.same {c' : Client} (h : HasClass s c deltas) (hsame : SameClient c c') :
    HasClass s c' deltas := by
  unfold HasClass
  rw [hsame.version, hsame.charClass]
  exact h

theorem SameClient.trans {c' c'' : Client} (h : SameClient c c') (h' : SameClient c' c'') :
    SameClient c c'' :=
  ⟨h'.version.trans h.version, h'.charClass.trans h.charClass⟩

theorem sendIfBb_spec (message : Message) (c : Client) :
    (c.sendIfBb message).stats = c.stats ∧ SameClient c (c.sendIfBb message) := by
  unfold Client.sendIfBb
  split_ifs <;> exact ⟨rfl, rfl, rfl⟩

theorem sendMaxLevelNotificationIfNeeded_spec (s : ServerState) (c : Client) :
    (sendMaxLevelNotificationIfNeeded s c).stats = c.stats ∧
      SameClient c (sendMaxLevelNotificationIfNeeded s c) := by
  unfold sendMaxLevelNotificationIfNeeded
  dsimp only
  split_ifs <;> exact ⟨rfl, rfl, rfl⟩

theorem run_addPlayerExp (hclass : HasClass s c deltas) (hlt : c.stats.level.toNat < 199)
    {exp : UInt32} (hsum : c.stats.experience.toNat + exp.toNat < 2 ^ 32) (fromEnemyId : UInt16) :
    ∃ c', (addPlayerExp s exp fromEnemyId).run c = .ok ⟨⟩ c' ∧ SameClient c c' ∧
      c'.stats.experience.toNat = c.stats.experience.toNat + exp.toNat ∧
      Climbed deltas c.stats c'.stats := by
  let received : Client := { c with stats.experience := c.stats.experience + exp }
  rcases sendIfBb_spec (.giveExperience exp fromEnemyId) received with ⟨hstats, hversion, hcharClass⟩
  unfold addPlayerExp
  rw [run_modify_bind, run_modify_bind, run_get_bind]
  generalize received.sendIfBb (.giveExperience exp fromEnemyId) = told at hstats hversion hcharClass
  have hsame : SameClient c told := ⟨hversion, hcharClass⟩
  rcases hclass.same hsame with ⟨table, htable, hdeltas⟩
  have hlevel : told.stats.level.toNat < 199 := by rwa [hstats]
  rcases levelUpLoop_climbed hdeltas hlevel false with ⟨leveledUp, new, hrun, hexp, hclimbed⟩
  rw [htable, hrun]
  dsimp only
  rw [run_modify_bind, run_ok_bind]
  refine ⟨_, rfl, ?_⟩
  have hnew : new.experience.toNat = c.stats.experience.toNat + exp.toNat := by
    rw [hexp, hstats]
    exact (UInt32.toNat_add _ _).trans (Nat.mod_eq_of_lt hsum)
  rw [hstats] at hclimbed
  split_ifs
  · rcases sendMaxLevelNotificationIfNeeded_spec s { told with stats := new } with ⟨hstats', hsame'⟩
    rcases sendIfBb_spec
      (.levelUp (sendMaxLevelNotificationIfNeeded s { told with stats := new }).stats)
      (sendMaxLevelNotificationIfNeeded s { told with stats := new }) with ⟨hstats'', hsame''⟩
    refine ⟨hsame.trans (SameClient.trans ?_ hsame''), ?_⟩
    · exact ⟨hsame'.version, hsame'.charClass⟩
    · rw [hstats'', hstats']
      exact ⟨hnew, hclimbed.climbs, hclimbed.charStats⟩
  · exact ⟨⟨hsame.version, hsame.charClass⟩, hnew, hclimbed.climbs, hclimbed.charStats⟩

/-- What a list of gains does. -/
theorem run_gains (hclass : HasClass s c deltas) (hlt : c.stats.level.toNat < 199)
    (hnext : c.stats.experience.toNat < deltas.threshold (c.stats.level.toNat + 1))
    (gains : List (UInt32 × UInt16))
    (htotal : c.stats.experience.toNat + (gains.map (·.1.toNat)).sum < 2 ^ 32)
    (hproper : ∀ first rest, gains = first ++ rest → rest ≠ [] →
      c.stats.experience.toNat + (first.map (·.1.toNat)).sum < deltas.threshold 199) :
    ∃ c', (forM gains fun gain => addPlayerExp s gain.1 gain.2).run c = .ok ⟨⟩ c' ∧
      c'.stats.experience.toNat = c.stats.experience.toNat + (gains.map (·.1.toNat)).sum ∧
      Climbed deltas c.stats c'.stats := by
  induction gains generalizing c with
  | nil => exact ⟨c, rfl, rfl, climbed_self hlt.le (.inr hnext)⟩
  | cons gain gains ih =>
      rw [List.map_cons, List.sum_cons, ← Nat.add_assoc] at htotal ⊢
      rcases run_addPlayerExp hclass hlt (lt_of_le_of_lt (Nat.le_add_right _ _) htotal) gain.2 with
        ⟨mid, hrun, hsame, hexp, hclimbed⟩
      rw [← hexp] at htotal ⊢
      rw [List.forM_cons, run_bind_of_ok hrun]
      cases gains with
      | nil => exact ⟨mid, rfl, rfl, hclimbed⟩
      | cons gain' gains =>
          have hbelow := hproper [gain] (gain' :: gains) rfl (List.cons_ne_nil _ _)
          have hmid : mid.stats.level.toNat ≠ 199 := by
            intro hmax
            have hmet := hclimbed.climbs.met 199 hlt hmax.ge
            rw [List.map_cons, List.map_nil, List.sum_cons, List.sum_nil, Nat.add_zero, ← hexp]
              at hbelow
            exact absurd hmet (Nat.not_le.mpr hbelow)
          have hmidlt : mid.stats.level.toNat < 199 := lt_of_le_of_ne hclimbed.climbs.le_cap hmid
          rcases ih (hclass.same hsame) hmidlt (hclimbed.climbs.stops.resolve_left hmid) htotal
            (fun first rest hgains hrest => by
              have hlonger := hproper (gain :: first) rest (congrArg _ hgains) hrest
              rwa [List.map_cons, List.sum_cons, ← Nat.add_assoc, ← hexp] at hlonger) with
            ⟨c', hrun', hexp', hclimbed'⟩
          exact ⟨c', hrun', hexp', hclimbed.trans (hexp' ▸ Nat.le_add_right _ _) hclimbed'⟩

/-- What the experience and the levels are to be after a total gain. -/
structure Gained (deltas : Deltas) (old new : PlayerStats) (amount : Nat) : Prop where
  experience : new.experience.toNat = old.experience.toNat + amount
  level_le : new.level.toNat ≤ 199
  reached : new.level = old.level ∨ deltas.threshold new.level.toNat ≤ new.experience.toNat
  greatest : ∀ level ≤ 199, deltas.threshold level ≤ new.experience.toNat → level ≤ new.level.toNat
  charStats : new.charStats = old.charStats.plus (deltas.gained old.level.toNat new.level.toNat)

theorem Climbed.gained {old new : PlayerStats} {amount : Nat}
    (hmono : ∀ i j, i ≤ j → j ≤ 199 → deltas.threshold i ≤ deltas.threshold j)
    (hexp : new.experience.toNat = old.experience.toNat + amount) (h : Climbed deltas old new) :
    Gained deltas old new amount := by
  refine ⟨hexp, h.climbs.le_cap, ?_, fun level hle => h.climbs.greatest hmono hle, h.charStats⟩
  rcases Nat.eq_or_lt_of_le h.climbs.le with heq | hlt
  · exact .inl (UInt32.toNat_inj.mp heq.symm)
  · exact .inr (h.climbs.met _ hlt (Nat.le_refl _))

theorem toNat_sum {amounts : List UInt32} (h : (amounts.map UInt32.toNat).sum < 2 ^ 32) :
    amounts.sum.toNat = (amounts.map UInt32.toNat).sum := by
  induction amounts with
  | nil => rfl
  | cons amount amounts ih =>
      rw [List.map_cons, List.sum_cons] at h
      rw [List.map_cons, List.sum_cons, List.sum_cons, UInt32.toNat_add,
        ih (lt_of_le_of_lt (Nat.le_add_left _ _) h), Nat.mod_eq_of_lt h]

/-- Gains one after another are worth as much as one gain of their sum. -/
theorem addPlayerExp_path_independent (hclass : HasClass s c deltas)
    (hmono : ∀ i j, i ≤ j → j ≤ 199 → deltas.threshold i ≤ deltas.threshold j)
    (hlt : c.stats.level.toNat < 199)
    (hnext : c.stats.experience.toNat < deltas.threshold (c.stats.level.toNat + 1))
    (gains : List (UInt32 × UInt16)) (fromEnemyId : UInt16)
    (htotal : c.stats.experience.toNat + (gains.map (·.1.toNat)).sum < 2 ^ 32)
    (hproper : ∀ first rest, gains = first ++ rest → rest ≠ [] →
      c.stats.experience.toNat + (first.map (·.1.toNat)).sum < deltas.threshold 199) :
    ∃ c' c'', (forM gains fun gain => addPlayerExp s gain.1 gain.2).run c = .ok ⟨⟩ c' ∧
      (addPlayerExp s (gains.map Prod.fst).sum fromEnemyId).run c = .ok ⟨⟩ c'' ∧
      c'.stats = c''.stats ∧
      Gained deltas c.stats c'.stats (gains.map (·.1.toNat)).sum := by
  have hsum : (gains.map Prod.fst).sum.toNat = (gains.map (·.1.toNat)).sum := by
    rw [toNat_sum, List.map_map]
    · rfl
    · rw [List.map_map]
      exact lt_of_le_of_lt (Nat.le_add_left _ _) htotal
  rcases run_gains hclass hlt hnext gains htotal hproper with ⟨c', hrun, hexp, hclimbed⟩
  rcases run_addPlayerExp hclass hlt (hsum.symm ▸ htotal) fromEnemyId with
    ⟨c'', hrun', -, hexp', hclimbed'⟩
  have hsame : c'.stats.experience = c''.stats.experience := by
    apply UInt32.toNat_inj.mp
    rw [hexp, hexp', hsum]
  exact ⟨c', c'', hrun, hrun', hclimbed.unique hclimbed' hsame, hclimbed.gained hmono hexp⟩

/-- A table with 10 times the level for each threshold. -/
def linearDeltas : Deltas :=
  Vector.ofFn fun level => ⟨1, 1, 1, 1, 1, 1, 1, 1, UInt32.ofNat (10 * level)⟩

theorem threshold_linearDeltas {level : Nat} (hle : level ≤ 199) :
    linearDeltas.threshold level = 10 * level := by
  have hlt : level < 200 := Nat.lt_succ_of_le hle
  rw [Deltas.threshold, Deltas.entry, Vector.getElem?_eq_getElem hlt, Option.getD_some, linearDeltas,
    Vector.getElem_ofFn]
  exact UInt32.toNat_ofNat_of_lt' (by unfold UInt32.size; omega)

theorem addPlayerExp_path_independent_linear :
    let s : ServerState := ⟨⟨[]⟩, ⟨[]⟩, ⟨[linearDeltas]⟩, true⟩
    let c : Client := ⟨.bbV4, 0, ⟨⟨1, 2, 3, 4, 5, 6, 7⟩, 0, 5⟩, []⟩
    ∃ c' c'', (forM [((10 : UInt32), (1 : UInt16)), (20, 2)]
        fun gain => addPlayerExp s gain.1 gain.2).run c = .ok ⟨⟩ c' ∧
      (addPlayerExp s ([((10 : UInt32), (1 : UInt16)), (20, 2)].map Prod.fst).sum 3).run c =
        .ok ⟨⟩ c'' ∧
      c'.stats = c''.stats ∧ Gained linearDeltas c.stats c'.stats 30 := by
  intro s c
  refine addPlayerExp_path_independent ⟨_, rfl, rfl⟩ ?_ (by decide) ?_ [(10, 1), (20, 2)] 3
    (by decide) ?_
  · intro i j hij hj
    rw [threshold_linearDeltas hj, threshold_linearDeltas (hij.trans hj)]
    omega
  · rw [threshold_linearDeltas (by decide)]
    decide
  · intro first rest hgains _
    have htotal := congrArg (fun gains : List (UInt32 × UInt16) =>
      (gains.map fun gain => gain.1.toNat).sum) hgains
    rw [List.map_append, List.sum_append] at htotal
    change 30 = _ at htotal
    rw [threshold_linearDeltas (Nat.le_refl 199)]
    change 5 + _ < 1990
    omega

end

end HuntersGuild.ExperienceGains
