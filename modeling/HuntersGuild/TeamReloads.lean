import HuntersGuild.TeamConsistency
import HuntersGuild.TeamFiles

/-!
The teams and their files over whole runs of the operations, with any arguments.
-/

namespace HuntersGuild.TeamReloads

open HuntersGuild.CallTrace
open HuntersGuild.OrderedMaps
open HuntersGuild.StatefulPrograms
open HuntersGuild.TeamConsistency
open HuntersGuild.TeamFiles
open HuntersGuild.TeamMembers
open HuntersGuild.Teams
open HuntersGuild.Teams.TeamIndex

/-! What holds after every operation. -/

def IsLive (s : TeamIndex) (p : Pointer) : Prop := s.idToTeam[(s.teams p).teamId]? = some p

/-- The indexes hold live teams only. An account may be in several teams, of which
one is in the index. -/
structure Linked (s : TeamIndex) : Prop where
  ids : ∀ (id : UInt32) (p : Pointer), s.idToTeam[id]? = some p →
    (s.teams p).teamId = id ∧ p < s.allocated
  accounts : ∀ (a : UInt32) (p : Pointer), s.accountIdToTeam[a]? = some p →
    IsLive s p ∧ a ∈ (s.teams p).members
  wellFormed : ∀ p, WellFormed (s.teams p)

/-- Every change of a live team is saved. -/
structure Kept (s : TeamIndex) : Prop extends Linked s where
  saved : ∀ p, IsLive s p → s.saved p = some (s.teams p)

def AllDerivable (s : TeamIndex) : Prop := ∀ p, IsLive s p → Derivable (s.teams p)

/-- The file of each live team gives the team back. -/
def AllReload (s : TeamIndex) : Prop :=
  ∀ (id : UInt32) (p : Pointer), s.idToTeam[id]? = some p → ∃ snapshot, s.saved p = some snapshot ∧
    ∀ order, Team.loadConfig (snapshot.json order) (.new (s.teams p).teamId) = .ok (s.teams p)

/-- The state that an operation leaves behind, also when it throws. -/
def next (op : Op) (s : TeamIndex) : TeamIndex := finalState ((program op).run s)

/-- When an operation keeps to what the loader derives: a new team is the team of
account 0, and who leaves others behind has no points and is not the master. -/
def Recoverable (s : TeamIndex) : Op → Prop
  | .create name masterAccountId _ =>
    masterAccountId = 0 ∨ s.nextTeamId ∈ s.idToTeam ∨ name ∈ s.nameToTeam
  | .removeMember accountId => ∀ (p : Pointer) (m : Member), s.accountIdToTeam[accountId]? = some p →
    (s.teams p).members[accountId]? = some m → (s.teams p).numMembers ≠ 1 →
      m.points.toUInt32 = 0 ∧ (m.checkFlag .isMaster → accountId = 0)
  | _ => True

structure Saves (s : TeamIndex) (op : Op) : Prop where
  kept : Kept (next op s)
  derivable : AllDerivable s → (AllDerivable (next op s) ↔ Recoverable s op)

variable {s s' : TeamIndex} {p q : Pointer} {t : Team} {op : Op}

theorem Linked.isLive {id : UInt32} (h : Linked s) (hp : s.idToTeam[id]? = some p) : IsLive s p := by
  rw [IsLive, (h.ids id p hp).1]
  exact hp

theorem allReload_iff (h : Kept s) : AllReload s ↔ AllDerivable s := by
  constructor
  · intro hall p hp
    obtain ⟨snapshot, hsaved, hloads⟩ := hall _ p hp
    obtain rfl : s.teams p = snapshot := Option.some.inj ((h.saved p hp).symm.trans hsaved)
    exact (reloads_iff (h.wellFormed p)).mp hloads
  · intro hall id p hp
    have hlive := h.isLive hp
    exact ⟨s.teams p, h.saved p hlive, (reloads_iff (h.wellFormed p)).mpr (hall p hlive)⟩

theorem next_of_ok (h : (program op).run s = .ok ⟨⟩ s') : next op s = s' := by
  rw [next, h, finalState_ok]

theorem next_of_error {e : Exception} (h : (program op).run s = .error e s') : next op s = s' := by
  rw [next, h, finalState_error]

theorem saves_idle (h : Kept s) (hnext : next op s = s) (hrecoverable : Recoverable s op) :
    Saves s op := by
  constructor
  · rwa [hnext]
  · intro hall
    rw [hnext]
    exact iff_of_true hall hrecoverable

/-! One team in the place of another. -/

/-- A live team is replaced and saved. Accounts may join or leave the team. -/
structure Replaced (s s' : TeamIndex) (p : Pointer) (t : Team) : Prop where
  teamId : t.teamId = (s.teams p).teamId
  teams : s'.teams = Function.update s.teams p t
  saved : s'.saved = Function.update s.saved p (some t)
  ids : s'.idToTeam = s.idToTeam
  allocated : s'.allocated = s.allocated
  accounts : ∀ (a : UInt32) (q : Pointer), s'.accountIdToTeam[a]? = some q →
    q = p ∧ a ∈ t.members ∨ q ≠ p ∧ s.accountIdToTeam[a]? = some q

theorem Replaced.teamId_eq (r : Replaced s s' p t) (q : Pointer) :
    (s'.teams q).teamId = (s.teams q).teamId := by
  rw [r.teams, Function.update_apply]
  split_ifs with heq
  · rw [r.teamId, heq]
  · rfl

theorem Replaced.isLive_iff (r : Replaced s s' p t) (q : Pointer) : IsLive s' q ↔ IsLive s q := by
  rw [IsLive, IsLive, r.ids, r.teamId_eq]

theorem Replaced.linked (r : Replaced s s' p t) (h : Linked s) (hp : IsLive s p) (ht : WellFormed t) :
    Linked s' := by
  constructor
  · intro id q hq
    rw [r.teamId_eq, r.allocated]
    rw [r.ids] at hq
    exact h.ids id q hq
  · intro a q hq
    rw [r.isLive_iff, r.teams]
    rcases r.accounts a q hq with ⟨rfl, hmem⟩ | ⟨hne, hold⟩
    · rw [Function.update_self]
      exact ⟨hp, hmem⟩
    · rw [Function.update_of_ne hne]
      exact h.accounts a q hold
  · intro q
    rw [r.teams, Function.update_apply]
    split_ifs
    · exact ht
    · exact h.wellFormed q

theorem Replaced.kept (r : Replaced s s' p t) (h : Kept s) (hp : IsLive s p) (ht : WellFormed t) :
    Kept s' := by
  refine ⟨r.linked h.toLinked hp ht, fun q hq => ?_⟩
  rw [r.saved, r.teams, Function.update_apply, Function.update_apply]
  split_ifs
  · rfl
  · exact h.saved q ((r.isLive_iff q).mp hq)

theorem Replaced.allDerivable_iff (r : Replaced s s' p t) (hp : IsLive s p) (hall : AllDerivable s) :
    AllDerivable s' ↔ Derivable t := by
  constructor
  · intro hall'
    have hself := hall' p ((r.isLive_iff p).mpr hp)
    rwa [r.teams, Function.update_self] at hself
  · intro ht q hq
    rw [r.teams, Function.update_apply]
    split_ifs
    · exact ht
    · exact hall q ((r.isLive_iff q).mp hq)

theorem saves_replaced (h : Kept s) (hp : IsLive s p) (r : Replaced s (next op s) p t)
    (ht : WellFormed t) (hderivable : Derivable (s.teams p) → (Derivable t ↔ Recoverable s op)) :
    Saves s op :=
  ⟨r.kept h hp ht, fun hall => (r.allDerivable_iff hp hall).trans (hderivable (hall p hp))⟩

theorem replaced_changed (h : Linked s) {f : Team → Team}
    (hid : (f (s.teams p)).teamId = (s.teams p).teamId)
    (hmembers : ∀ a ∈ (s.teams p).members, a ∈ (f (s.teams p)).members) :
    Replaced s (changed p f s) p (f (s.teams p)) := by
  refine ⟨hid, rfl, ?_, rfl, rfl, ?_⟩
  · change Function.update s.saved p (some (Function.update s.teams p (f (s.teams p)) p)) = _
    rw [Function.update_self]
  · intro a q hq
    by_cases heq : q = p
    · subst heq
      exact .inl ⟨rfl, hmembers a (h.accounts a q hq).2⟩
    · exact .inr ⟨heq, hq⟩

/-- A change that is saved and that keeps to what the loader derives. -/
theorem saves_changed (h : Kept s) (hp : IsLive s p) {f : Team → Team}
    (hrun : (program op).run s = .ok ⟨⟩ (changed p f s))
    (hid : (f (s.teams p)).teamId = (s.teams p).teamId)
    (hmembers : ∀ a ∈ (s.teams p).members, a ∈ (f (s.teams p)).members)
    (ht : WellFormed (f (s.teams p))) (hderivable : Derivable (s.teams p) → Derivable (f (s.teams p)))
    (hrecoverable : Recoverable s op) : Saves s op := by
  have r := replaced_changed h.toLinked hid hmembers
  rw [← next_of_ok hrun] at r
  exact saves_replaced h hp r ht fun hbefore => iff_of_true (hderivable hbefore) hrecoverable

/-! Lookups. -/

theorem lookup_team (h : Linked s) (id : UInt32) :
    (∃ p, IsLive s p ∧ (teamById id).run s = .ok p s) ∨ ∃ e, (teamById id).run s = .error e s := by
  rw [run_teamById]
  cases hlookup : s.idToTeam[id]? with
  | none => exact .inr ⟨_, rfl⟩
  | some p => exact .inl ⟨p, h.isLive hlookup, rfl⟩

theorem lookup_account (h : Linked s) (a : UInt32) :
    (∃ p m, IsLive s p ∧ (s.teams p).members[a]? = some m ∧ (teamByAccountId a).run s = .ok p s) ∨
      ∃ e, (teamByAccountId a).run s = .error e s := by
  rw [run_teamByAccountId]
  cases hlookup : s.accountIdToTeam[a]? with
  | none => exact .inr ⟨_, rfl⟩
  | some p =>
      obtain ⟨hlive, hmem⟩ := h.accounts a p hlookup
      obtain ⟨m, hm⟩ := mem_iff_exists.mp hmem
      exact .inl ⟨p, m, hlive, hm, rfl⟩

theorem lookup_master (h : Linked s) (a b : UInt32) :
    (∃ p n, IsLive s p ∧ HasMaster (s.teams p) a ∧ (s.teams p).members[b]? = some n ∧
        (masterOf a b).run s = .ok (p, n) s) ∨ ∃ e, (masterOf a b).run s = .error e s := by
  rw [masterOf]
  rcases lookup_account h a with ⟨p, m, hlive, hm, hrun⟩ | ⟨e, hrun⟩
  · have hmember : (memberOf p a).run s = .ok m s := by rw [run_memberOf, hm]
    rw [run_bind_of_ok hrun, run_bind_of_ok hmember]
    by_cases hflag : m.checkFlag .isMaster = true
    · obtain ⟨master, hmaster⟩ := (h.wellFormed p).master
      rw [if_neg (not_not_intro hflag)]
      cases hn : (s.teams p).members[b]? with
      | none =>
          have hother : (memberOf p b).run s = .error .outOfRange s := by rw [run_memberOf, hn]
          exact .inr ⟨_, run_bind_of_error hother⟩
      | some n =>
          have hother : (memberOf p b).run s = .ok n s := by rw [run_memberOf, hn]
          exact .inl ⟨p, n, hlive, hasMaster_of_flag hm hflag hmaster, hn, run_bind_of_ok hother⟩
    · rw [if_pos hflag]
      exact .inr ⟨_, rfl⟩
  · exact .inr ⟨e, run_bind_of_error hrun⟩

/-! Operations on one team. -/

theorem saves_addMemberPoints (h : Kept s) (a points : UInt32) : Saves s (.addMemberPoints a points) := by
  rcases lookup_account h.toLinked a with ⟨p, m, hp, hm, hfound⟩ | ⟨e, hfound⟩
  · have hmember : (memberOf p a).run s = .ok m s := by rw [run_memberOf, hm]
    have hrun : (program (.addMemberPoints a points)).run s =
        .ok ⟨⟩ (changed p (.withPoints a points) s) := by
      change (addMemberPoints a points).run s = _
      rw [addMemberPoints, run_bind_of_ok hfound, run_bind_of_ok hmember]
      rfl
    refine saves_changed h hp hrun rfl (fun _ => mem_modifyMember.mpr) ?_ ?_ trivial
    · exact (h.wellFormed p).withPoints a points
    · exact fun hderivable => hderivable.withPoints hm points
  · exact saves_idle h (next_of_error (run_bind_of_error hfound)) trivial

theorem saves_promoteLeader (h : Kept s) (a b : UInt32) : Saves s (.promoteLeader a b) := by
  rcases lookup_master h.toLinked a b with ⟨p, n, hp, -, -, hfound⟩ | ⟨e, hfound⟩
  · have hpromote : (promoteLeader a b).run s = EStateM.run (do
        if n.checkFlag .isLeader || !(s.teams p).canPromoteLeader then
          return false
        else
          changeTeam p (.modifyMember b (.setFlag .isLeader))
          return true) s := by
      rw [promoteLeader, run_bind_of_ok hfound]
      rfl
    by_cases hrefused : (n.checkFlag .isLeader || !(s.teams p).canPromoteLeader) = true
    · rw [if_pos hrefused] at hpromote
      exact saves_idle h (next_of_ok (run_bind_of_ok hpromote)) trivial
    · rw [if_neg hrefused] at hpromote
      refine saves_changed h hp (run_bind_of_ok hpromote) rfl (fun _ => mem_modifyMember.mpr) ?_ ?_ trivial
      · exact (h.wellFormed p).modifyMember (fun _ => rfl) fun m => by simp
      · exact fun hderivable => hderivable.modifyMember (fun _ => rfl) fun m => by simp
  · have hpromote : (promoteLeader a b).run s = .error e s := run_bind_of_error hfound
    exact saves_idle h (next_of_error (run_bind_of_error hpromote)) trivial

theorem saves_demoteLeader (h : Kept s) (a b : UInt32) : Saves s (.demoteLeader a b) := by
  rcases lookup_master h.toLinked a b with ⟨p, n, hp, -, -, hfound⟩ | ⟨e, hfound⟩
  · have hdemote : (demoteLeader a b).run s = EStateM.run (do
        if ¬ n.checkFlag .isLeader then
          return false
        else
          changeTeam p (.modifyMember b (.clearFlag .isLeader))
          return true) s := by
      rw [demoteLeader, run_bind_of_ok hfound]
    by_cases hrefused : ¬ n.checkFlag .isLeader = true
    · rw [if_pos hrefused] at hdemote
      exact saves_idle h (next_of_ok (run_bind_of_ok hdemote)) trivial
    · rw [if_neg hrefused] at hdemote
      refine saves_changed h hp (run_bind_of_ok hdemote) rfl (fun _ => mem_modifyMember.mpr) ?_ ?_ trivial
      · exact (h.wellFormed p).modifyMember (fun _ => rfl) fun m => by simp
      · exact fun hderivable => hderivable.modifyMember (fun _ => rfl) fun m => by simp
  · have hdemote : (demoteLeader a b).run s = .error e s := run_bind_of_error hfound
    exact saves_idle h (next_of_error (run_bind_of_error hdemote)) trivial

theorem saves_changeMaster (h : Kept s) (a b : UInt32) : Saves s (.changeMaster a b) := by
  rcases lookup_master h.toLinked a b with ⟨p, n, hp, hmaster, hn, hfound⟩ | ⟨e, hfound⟩
  · have hrun : (program (.changeMaster a b)).run s = .ok ⟨⟩ (changed p (.withMaster a b) s) :=
      run_bind_of_ok hfound
    have hb : b ∈ (s.teams p).members := mem_iff_exists.mpr ⟨n, hn⟩
    refine saves_changed h hp hrun rfl ?_ (wellFormed_withMaster (h.wellFormed p) hmaster hb) ?_ trivial
    · exact fun c hc => mem_modifyMember.mpr (mem_modifyMember.mpr hc)
    · exact fun hderivable => hderivable.withMaster hmaster hb
  · exact saves_idle h (next_of_error (run_bind_of_error hfound)) trivial

theorem saves_buyReward (h : Kept s) (id : UInt32) (key : String) (points : UInt32)
    (rewardFlag : RewardFlag) : Saves s (.buyReward id key points rewardFlag) := by
  rcases lookup_team h.toLinked id with ⟨p, hp, hfound⟩ | ⟨e, hfound⟩
  · have hbuy : (program (.buyReward id key points rewardFlag)).run s = EStateM.run (
        if (s.teams p).spentPoints + points > (s.teams p).points then
          throw (.runtimeError "not enough points available")
        else
          changeTeam p (.withReward key points rewardFlag)) s := by
      change (buyReward id key points rewardFlag).run s = _
      rw [buyReward, run_bind_of_ok hfound, run_get_bind]
    by_cases hpaid : (s.teams p).spentPoints + points > (s.teams p).points
    · rw [if_pos hpaid] at hbuy
      exact saves_idle h (next_of_error hbuy) trivial
    · rw [if_neg hpaid] at hbuy
      obtain ⟨hid, -, hmembers⟩ := teamId_withReward (s.teams p) key points rewardFlag
      have hpoints : ((s.teams p).withReward key points rewardFlag).points = (s.teams p).points ∧
          ((s.teams p).withReward key points rewardFlag).masterAccountId =
            (s.teams p).masterAccountId := by
        unfold Team.withReward
        split_ifs <;> exact ⟨rfl, rfl⟩
      refine saves_changed h hp hbuy hid ?_ ((h.wellFormed p).congr hmembers) ?_ trivial
      · intro a ha
        rwa [hmembers]
      · exact (derivable_congr hmembers hpoints.1 hpoints.2).mpr
  · exact saves_idle h (next_of_error (run_bind_of_error hfound)) trivial

theorem saves_rename (h : Kept s) (id : UInt32) (name : String) : Saves s (.rename id name) := by
  rcases lookup_team h.toLinked id with ⟨p, hp, hfound⟩ | ⟨e, hfound⟩
  · have hrename : (program (.rename id name)).run s =
        if s.nameToTeam.contains name then .error (.runtimeError "team name is already in use") s
        else .ok ⟨⟩ (renamed p name s) := by
      change (rename id name).run s = _
      rw [rename, run_bind_of_ok hfound, run_get_bind]
      split_ifs <;> rfl
    by_cases hused : s.nameToTeam.contains name = true
    · rw [if_pos hused] at hrename
      exact saves_idle h (next_of_error hrename) trivial
    · rw [if_neg hused] at hrename
      -- the index by name is not looked at when a team is loaded
      have hlinked : Linked ((s.withName name p).withoutName (s.teams p).name) :=
        ⟨h.ids, h.accounts, h.wellFormed⟩
      have r := @replaced_changed _ p hlinked (.withName name) rfl fun _ ha => ha
      have r : Replaced s (renamed p name s) p ((s.teams p).withName name) :=
        ⟨r.teamId, r.teams, r.saved, r.ids, r.allocated, r.accounts⟩
      rw [← next_of_ok hrename] at r
      refine saves_replaced h hp r ((h.wellFormed p).congr rfl) fun hderivable => ?_
      have hsame : Derivable ((s.teams p).withName name) ↔ Derivable (s.teams p) :=
        derivable_congr rfl rfl rfl
      exact iff_of_true (hsame.mpr hderivable) trivial
  · exact saves_idle h (next_of_error (run_bind_of_error hfound)) trivial

theorem replaced_joined (h : Linked s) (p : Pointer) (a : UInt32) (name : String) :
    Replaced s (joined p a name s) p ((s.teams p).withMember ⟨a, 0, 0, name⟩) := by
  refine ⟨rfl, rfl, ?_, rfl, rfl, ?_⟩
  · change Function.update s.saved p (some (Function.update s.teams p _ p)) = _
    rw [Function.update_self]
    rfl
  · intro b q hq
    change (s.withAccounts p [a]).accountIdToTeam[b]? = some q at hq
    rw [lookup_withAccounts] at hq
    by_cases heq : q = p
    · subst heq
      refine .inl ⟨rfl, mem_withMember.mpr ?_⟩
      rcases Option.or_eq_some_iff.mp hq with hold | ⟨-, hnew⟩
      · exact .inr (h.accounts b q hold).2
      · split_ifs at hnew with hb
        exact .inl (List.mem_singleton.mp hb).symm
    · rcases Option.or_eq_some_iff.mp hq with hold | ⟨-, hnew⟩
      · exact .inr ⟨heq, hold⟩
      · split_ifs at hnew
        exact absurd (Option.some.inj hnew).symm heq

theorem saves_addMember (h : Kept s) (id a : UInt32) (name : String) :
    Saves s (.addMember id a name) := by
  rcases lookup_team h.toLinked id with ⟨p, hp, hfound⟩ | ⟨e, hfound⟩
  · have hadd : (program (.addMember id a name)).run s =
        if s.accountIdToTeam.contains a then
          .error (.runtimeError "user is already in a different team") s
        else .ok ⟨⟩ (joined p a name s) := by
      change (addMember id a name).run s = _
      rw [addMember, run_bind_of_ok hfound, run_get_bind]
      split_ifs <;> rfl
    by_cases hused : s.accountIdToTeam.contains a = true
    · rw [if_pos hused] at hadd
      exact saves_idle h (next_of_error hadd) trivial
    · rw [if_neg hused] at hadd
      have r := replaced_joined h.toLinked p a name
      rw [← next_of_ok hadd] at r
      have hflag := checkFlag_new .isMaster a 0 name
      refine saves_replaced h hp r ((h.wellFormed p).withMember hflag) fun hderivable => ?_
      exact iff_of_true (hderivable.withMember hflag rfl) trivial
  · exact saves_idle h (next_of_error (run_bind_of_error hfound)) trivial

/-! Teams that end. -/

theorem isLive_of_dropped (hq : IsLive (dropped p s) q) : q ≠ p ∧ IsLive s q := by
  obtain ⟨hne, hq⟩ := lookup_erase_eq_some.mp hq
  refine ⟨?_, hq⟩
  rintro rfl
  exact hne rfl

/-- The team itself need not be saved before. -/
theorem kept_dropped (h : Linked s) (hp : IsLive s p)
    (hsaved : ∀ q, q ≠ p → IsLive s q → s.saved q = some (s.teams q)) :
    Kept (dropped p s) := by
  refine ⟨⟨?_, ?_, h.wellFormed⟩, ?_⟩
  · intro id q hq
    exact h.ids id q (lookup_erase_eq_some.mp hq).2
  · intro a q hq
    change ((s.memberIds p).foldl (fun m id => m.erase id) s.accountIdToTeam)[a]? = some q at hq
    obtain ⟨hnot, hold⟩ := (lookup_foldl_erase _ _ _ _).mp hq
    rw [mem_memberIds (h.wellFormed p).keys] at hnot
    obtain ⟨hlive, hmem⟩ := h.accounts a q hold
    refine ⟨lookup_erase_eq_some.mpr ⟨fun heq => hnot ?_, hlive⟩, hmem⟩
    have hself : s.idToTeam[(s.teams p).teamId]? = some q := by
      rw [heq]
      exact hlive
    obtain rfl : p = q := Option.some.inj (hp.symm.trans hself)
    exact hmem
  · intro q hq
    obtain ⟨hne, hlive⟩ := isLive_of_dropped hq
    change Function.update s.saved p none q = _
    rw [Function.update_of_ne hne]
    exact hsaved q hne hlive

theorem saves_disband (h : Kept s) (id : UInt32) : Saves s (.disband id) := by
  rcases lookup_team h.toLinked id with ⟨p, hp, hfound⟩ | ⟨e, hfound⟩
  · have hnext : next (.disband id) s = dropped p s := next_of_ok (run_disband_of_ok hfound)
    constructor
    · rw [hnext]
      exact kept_dropped h.toLinked hp fun q _ hq => h.saved q hq
    · intro hall
      rw [hnext]
      exact iff_of_true (fun q hq => hall q (isLive_of_dropped hq).2) trivial
  · exact saves_idle h (next_of_error (run_bind_of_error hfound)) trivial

theorem replaced_parted (h : Linked s) (p : Pointer) (a : UInt32) :
    Replaced s ((parted p a s).save p) p ((s.teams p).withoutMember a) := by
  refine ⟨rfl, rfl, ?_, rfl, rfl, ?_⟩
  · change Function.update s.saved p (some (Function.update s.teams p _ p)) = _
    rw [Function.update_self]
    rfl
  · intro b q hq
    obtain ⟨hne, hold⟩ := lookup_erase_eq_some.mp hq
    by_cases heq : q = p
    · subst heq
      refine .inl ⟨rfl, ?_⟩
      obtain ⟨m, hm⟩ := mem_iff_exists.mp (h.accounts b q hold).2
      exact mem_iff_exists.mpr ⟨m, lookup_erase_eq_some.mpr ⟨hne, hm⟩⟩
    · exact .inr ⟨heq, hold⟩

theorem run_removeMember {a : UInt32} (hlookup : s.accountIdToTeam[a]? = some p) :
    (program (.removeMember a)).run s =
      if ((s.teams p).withoutMember a).members.isEmpty then
        (disband (s.teams p).teamId).run (parted p a s)
      else
        .ok ⟨⟩ ((parted p a s).save p) := by
  have hself : (parted p a s).teams p = (s.teams p).withoutMember a := by
    rw [teams_parted, if_pos rfl]
  have hid : ((parted p a s).teams p).teamId = (s.teams p).teamId := by
    rw [hself]
    rfl
  change (removeMember a).run s = _
  rw [removeMember, run_get_bind]
  simp only [hlookup]
  rw [run_modify_bind, run_modify_bind, run_get_bind, ← hself, ← hid]
  change EStateM.run (if ((parted p a s).teams p).members.isEmpty = true then _ else _)
    (parted p a s) = _
  split_ifs <;> rfl

theorem saves_removeMember (h : Kept s) (a : UInt32) : Saves s (.removeMember a) := by
  cases hlookup : s.accountIdToTeam[a]? with
  | none =>
      have hrun : (program (.removeMember a)).run s =
          .error (.runtimeError "client is not in any team") s := by
        change (removeMember a).run s = _
        rw [removeMember, run_get_bind]
        simp only [hlookup]
        rfl
      refine saves_idle h (next_of_error hrun) fun p m hp => ?_
      rw [hlookup] at hp
      cases hp
  | some p =>
      obtain ⟨hp, hmem⟩ := h.accounts a p hlookup
      obtain ⟨m, hm⟩ := mem_iff_exists.mp hmem
      have hrun := run_removeMember hlookup
      rw [if_congr (isEmpty_withoutMember_iff hmem) rfl rfl] at hrun
      have r := replaced_parted h.toLinked p a
      have ht : WellFormed ((s.teams p).withoutMember a) := (h.wellFormed p).withoutMember hm
      by_cases hlast : IsLast (s.teams p) a
      · have hfound : (teamById (s.teams p).teamId).run (parted p a s) = .ok p (parted p a s) := by
          have hfound : (parted p a s).idToTeam[(s.teams p).teamId]? = some p := hp
          rw [run_teamById, hfound]
        rw [if_pos hlast, run_disband_of_ok hfound] at hrun
        have hnext := next_of_ok hrun
        -- the team is dropped before its last member's leaving is saved
        have hlinked : Linked (parted p a s) := by
          obtain ⟨hids, haccounts, hwell⟩ := r.linked h.toLinked hp ht
          exact ⟨hids, haccounts, hwell⟩
        have hlive (q : Pointer) : IsLive (parted p a s) q ↔ IsLive s q := r.isLive_iff q
        have hother {q : Pointer} (hne : q ≠ p) : (parted p a s).teams q = s.teams q := by
          rw [teams_parted, if_neg hne]
        constructor
        · rw [hnext]
          refine kept_dropped hlinked ((hlive p).mpr hp) fun q hne hq => ?_
          rw [hother hne]
          exact h.saved q ((hlive q).mp hq)
        · intro hall
          rw [hnext]
          refine iff_of_true (fun q hq => ?_) fun p' m' hp' _ hmany => ?_
          · obtain ⟨hne, hq⟩ := isLive_of_dropped hq
            change Derivable ((parted p a s).teams q)
            rw [hother hne]
            exact hall q ((hlive q).mp hq)
          · obtain rfl : p = p' := Option.some.inj (hlookup.symm.trans hp')
            exact absurd hlast.2 hmany
      · rw [if_neg hlast] at hrun
        have hnext := next_of_ok hrun
        rw [← hnext] at r
        refine saves_replaced h hp r ht fun hderivable => ?_
        rw [derivable_withoutMember_iff hderivable hm]
        have hmany : (s.teams p).numMembers ≠ 1 := fun hone => hlast ⟨hmem, hone⟩
        constructor
        · intro hkept p' m' hp' hm' _
          obtain rfl : p = p' := Option.some.inj (hlookup.symm.trans hp')
          obtain rfl : m = m' := Option.some.inj (hm.symm.trans hm')
          exact hkept
        · exact fun hrecoverable => hrecoverable p m hlookup hm hmany

/-! New teams. -/

theorem erase_insertIfNew {m : Std.ExtTreeMap UInt32 Pointer} {id : UInt32} (hfree : id ∉ m) :
    (m.insertIfNew id p).erase id = m := by
  refine Std.ExtTreeMap.ext_getElem? fun a => Option.ext fun q => ?_
  rw [lookup_erase_eq_some, lookup_insertIfNew hfree]
  constructor
  · rintro ⟨hne, hq⟩
    rwa [if_neg hne] at hq
  · intro hq
    have hne : id ≠ a := by
      rintro rfl
      exact hfree (mem_iff_exists.mpr ⟨q, hq⟩)
    exact ⟨hne, by rwa [if_neg hne]⟩

theorem allocated_ne (h : Linked s) (hq : IsLive s q) : q ≠ s.allocated :=
  Nat.ne_of_lt (h.ids _ q hq).2

theorem teams_createdTeam_of_ne (hne : q ≠ s.allocated) (name : String) (a : UInt32)
    (masterName : String) : (createdTeam name a masterName s).teams q = s.teams q := by
  rw [teams_createdTeam, if_neg hne]

theorem teams_createdTeam_self (name : String) (a : UInt32) (masterName : String) :
    (createdTeam name a masterName s).teams s.allocated =
      .created s.nextTeamId name a masterName := by
  rw [teams_createdTeam, if_pos rfl]

theorem isLive_createdTeam_iff (h : Linked s) (name : String) (a : UInt32) (masterName : String) :
    IsLive (createdTeam name a masterName s) q ↔ IsLive s q := by
  by_cases hq : q = s.allocated
  · subst hq
    refine iff_of_false (fun hlive => ?_) fun hlive => allocated_ne h hlive rfl
    exact Nat.lt_irrefl _ (h.ids _ _ hlive).2
  · rw [IsLive, teams_createdTeam_of_ne hq]
    exact Iff.rfl

theorem kept_createdTeam (h : Kept s) (name : String) (a : UInt32) (masterName : String) :
    Kept (createdTeam name a masterName s) := by
  have hlive {q : Pointer} := @isLive_createdTeam_iff s q h.toLinked name a masterName
  have hteam {q : Pointer} (hq : IsLive s q) :
      (createdTeam name a masterName s).teams q = s.teams q :=
    teams_createdTeam_of_ne (allocated_ne h.toLinked hq) name a masterName
  refine ⟨⟨?_, ?_, ?_⟩, ?_⟩
  · intro id q hq
    obtain ⟨hid, hlt⟩ := h.ids id q hq
    rw [hteam (h.isLive hq)]
    exact ⟨hid, Nat.lt_succ_of_lt hlt⟩
  · intro b q hq
    obtain ⟨hq, hb⟩ := h.accounts b q hq
    rw [hlive, hteam hq]
    exact ⟨hq, hb⟩
  · intro q
    rw [teams_createdTeam]
    split_ifs
    · exact wellFormed_created s.nextTeamId name a masterName
    · exact h.wellFormed q
  · intro q hq
    have hq := hlive.mp hq
    rw [hteam hq, ← h.saved q hq]
    exact Function.update_of_ne (allocated_ne h.toLinked hq) _ _

theorem isLive_entered_iff (hid : (s.teams p).teamId ∉ s.idToTeam) :
    IsLive (entered p s) q ↔ q = p ∨ IsLive s q := by
  change (s.idToTeam.insertIfNew (s.teams p).teamId p)[(s.teams q).teamId]? = some q ↔ _
  rw [lookup_insertIfNew hid]
  split_ifs with heq
  · refine ⟨fun hsame => .inl (Option.some.inj hsame).symm, ?_⟩
    rintro (rfl | hq)
    · rfl
    · exact absurd (mem_iff_exists.mpr ⟨q, heq ▸ hq⟩) hid
  · refine (or_iff_right ?_).symm
    rintro rfl
    exact heq rfl

theorem kept_entered (h : Kept s) (hp : p < s.allocated) (hsaved : s.saved p = some (s.teams p))
    (hid : (s.teams p).teamId ∉ s.idToTeam) : Kept (entered p s) := by
  have hlive {q : Pointer} := @isLive_entered_iff s p q hid
  refine ⟨⟨?_, ?_, h.wellFormed⟩, ?_⟩
  · intro id q hq
    change (s.idToTeam.insertIfNew (s.teams p).teamId p)[id]? = some q at hq
    rw [lookup_insertIfNew hid] at hq
    split_ifs at hq with heq
    · obtain rfl := Option.some.inj hq
      exact ⟨heq, hp⟩
    · exact h.ids id q hq
  · intro a q hq
    change (s.withAccounts p (s.memberIds p)).accountIdToTeam[a]? = some q at hq
    rw [lookup_withAccounts] at hq
    rw [hlive]
    rcases Option.or_eq_some_iff.mp hq with hold | ⟨-, hnew⟩
    · exact (h.accounts a q hold).imp .inr id
    · split_ifs at hnew with ha
      obtain rfl := Option.some.inj hnew
      exact ⟨.inl rfl, (mem_memberIds (h.wellFormed p).keys a).mp ha⟩
  · intro q hq
    rcases hlive.mp hq with rfl | hq
    · exact hsaved
    · exact h.saved q hq

theorem run_addToIndexes_of_name (hid : (s.teams p).teamId ∉ s.idToTeam)
    (hname : s.nameToTeam.contains (s.teams p).name = true) :
    (addToIndexes p).run s = .error (.runtimeError "team name is already in use") s := by
  have hback : (s.withId p).withoutId p = s := by
    change { s with idToTeam := (s.idToTeam.insertIfNew (s.teams p).teamId p).erase (s.teams p).teamId } = s
    rw [erase_insertIfNew hid]
  have hunused : ¬ s.idToTeam.contains (s.teams p).teamId = true :=
    fun hused => hid (Std.ExtTreeMap.contains_iff_mem.mp hused)
  rw [addToIndexes, run_get_bind, if_neg hunused, if_pos hname, run_modify_bind, run_modify_bind, hback]
  rfl

theorem saves_create (h : Kept s) (name : String) (a : UInt32) (masterName : String) :
    Saves s (.create name a masterName) := by
  have hkept := kept_createdTeam h name a masterName
  have hself := @teams_createdTeam_self s name a masterName
  have hid : ((createdTeam name a masterName s).teams s.allocated).teamId = s.nextTeamId := by
    rw [hself]
    rfl
  have hname : ((createdTeam name a masterName s).teams s.allocated).name = name := by
    rw [hself]
    rfl
  have hcall : (create name a masterName).run s =
      (addToIndexes s.allocated >>= fun _ => pure s.allocated).run
        (createdTeam name a masterName s) := rfl
  have hteam {q : Pointer} (hq : IsLive s q) :
      (createdTeam name a masterName s).teams q = s.teams q :=
    teams_createdTeam_of_ne (allocated_ne h.toLinked hq) name a masterName
  have hthrown (hall : AllDerivable s) : AllDerivable (createdTeam name a masterName s) := by
    intro q hq
    have hq := (isLive_createdTeam_iff h.toLinked name a masterName).mp hq
    rw [hteam hq]
    exact hall q hq
  by_cases hused : s.nextTeamId ∈ s.idToTeam
  · have hadd : (addToIndexes s.allocated).run (createdTeam name a masterName s) =
        .error (.runtimeError "team ID is already in use") (createdTeam name a masterName s) := by
      refine run_addToIndexes_of_id ?_
      rw [hid]
      exact Std.ExtTreeMap.contains_iff_mem.mpr hused
    have hnext : next (.create name a masterName) s = createdTeam name a masterName s :=
      next_of_error (run_bind_of_error (hcall.trans (run_bind_of_error hadd)))
    rw [← hnext] at hkept hthrown
    exact ⟨hkept, fun hall => iff_of_true (hthrown hall) (.inr (.inl hused))⟩
  · have hfree : ((createdTeam name a masterName s).teams s.allocated).teamId ∉
        (createdTeam name a masterName s).idToTeam := by
      rw [hid]
      exact hused
    by_cases hnamed : name ∈ s.nameToTeam
    · have hadd : (addToIndexes s.allocated).run (createdTeam name a masterName s) =
          .error (.runtimeError "team name is already in use") (createdTeam name a masterName s) := by
        refine run_addToIndexes_of_name hfree ?_
        rw [hname]
        exact Std.ExtTreeMap.contains_iff_mem.mpr hnamed
      have hnext : next (.create name a masterName) s = createdTeam name a masterName s :=
        next_of_error (run_bind_of_error (hcall.trans (run_bind_of_error hadd)))
      rw [← hnext] at hkept hthrown
      exact ⟨hkept, fun hall => iff_of_true (hthrown hall) (.inr (.inr hnamed))⟩
    · have hadd : (addToIndexes s.allocated).run (createdTeam name a masterName s) =
          .ok ⟨⟩ (entered s.allocated (createdTeam name a masterName s)) := by
        refine run_addToIndexes_of_free ?_ ?_
        · exact fun hmem => hfree (Std.ExtTreeMap.contains_iff_mem.mp hmem)
        · rw [hname]
          exact fun hmem => hnamed (Std.ExtTreeMap.contains_iff_mem.mp hmem)
      have hnext : next (.create name a masterName) s =
          entered s.allocated (createdTeam name a masterName s) :=
        next_of_ok (run_bind_of_ok (hcall.trans (run_bind_of_ok hadd)))
      have hsaved : (createdTeam name a masterName s).saved s.allocated =
          some ((createdTeam name a masterName s).teams s.allocated) := Function.update_self _ _ _
      constructor
      · rw [hnext]
        exact kept_entered hkept (Nat.lt_succ_self _) hsaved hfree
      · intro hall
        have hrecoverable : Recoverable s (.create name a masterName) ↔ a = 0 :=
          or_iff_left (not_or.mpr ⟨hused, hnamed⟩)
        rw [hnext, hrecoverable, ← derivable_created_iff s.nextTeamId name a masterName, ← hself]
        constructor
        · intro hall'
          exact hall' s.allocated ((isLive_entered_iff hfree).mpr (.inl rfl))
        · intro hnew q hq
          rcases (isLive_entered_iff hfree).mp hq with rfl | hq
          · exact hnew
          · exact hthrown hall q hq

/-! Whole runs. -/

theorem saves (h : Kept s) (op : Op) : Saves s op := by
  cases op with
  | create name a masterName => exact saves_create h name a masterName
  | disband id => exact saves_disband h id
  | rename id name => exact saves_rename h id name
  | addMember id a name => exact saves_addMember h id a name
  | removeMember a => exact saves_removeMember h a
  | addMemberPoints a points => exact saves_addMemberPoints h a points
  | promoteLeader a b => exact saves_promoteLeader h a b
  | demoteLeader a b => exact saves_demoteLeader h a b
  | changeMaster a b => exact saves_changeMaster h a b
  | buyReward id key points rewardFlag => exact saves_buyReward h id key points rewardFlag

theorem kept_empty : Kept .empty := by
  have hempty (id : UInt32) (p : Pointer) : TeamIndex.empty.idToTeam[id]? ≠ some p := by
    change (∅ : Std.ExtTreeMap UInt32 Pointer)[id]? ≠ some p
    rw [Std.ExtTreeMap.getElem?_empty]
    exact nofun
  have hmembers (a : UInt32) (m : Member) : (Team.new 0).members[a]? ≠ some m := by
    change (∅ : Std.ExtTreeMap UInt32 Member)[a]? ≠ some m
    rw [Std.ExtTreeMap.getElem?_empty]
    exact nofun
  refine ⟨⟨?_, ?_, ?_⟩, ?_⟩
  · exact fun id p hp => absurd hp (hempty id p)
  · exact fun a p hp => absurd hp (hempty a p)
  · intro p
    exact ⟨fun a m hm => absurd hm (hmembers a m), 0, .inr ⟨fun a m hm => absurd hm (hmembers a m), rfl⟩⟩
  · exact fun p hp => absurd hp (hempty _ p)

theorem allDerivable_empty : AllDerivable .empty := by
  intro p hp
  exact absurd (kept_empty.ids _ p hp).2 (Nat.not_lt_zero p)

def perform (op : Op) (s : TeamIndex) : Except Exception (Except Exception Unit × TeamIndex) :=
  attempt (program op) s

/-- Every file of a live team gives the team back, in every state of a run, exactly
when every operation keeps to what the loader derives. -/
theorem reload_run_iff (ops : List Op) :
    (∀ c ∈ trace perform .empty ops, AllReload (next c.2 c.1)) ↔
      ∀ c ∈ trace perform .empty ops, Recoverable c.1 c.2 := by
  have hiff : ∀ s, Kept s ∧ AllDerivable s → ∀ op ∈ ops,
      (AllReload (next op s) ↔ Recoverable s op) := by
    rintro s ⟨hkept, hall⟩ op -
    have hsaves := saves hkept op
    rw [allReload_iff hsaves.kept]
    exact hsaves.derivable hall
  have hkeeps : ∀ s, Kept s ∧ AllDerivable s → ∀ op ∈ ops, AllReload (next op s) →
      ∀ r s', perform op s = .ok (r, s') → Kept s' ∧ AllDerivable s' := by
    rintro s ⟨hkept, -⟩ op - hreload r s' hcall
    have hsaves := saves hkept op
    obtain ⟨-, rfl⟩ := attempt_eq_ok.mp hcall
    exact ⟨hsaves.kept, (allReload_iff hsaves.kept).mp hreload⟩
  exact forall_trace_iff (fun s => Kept s ∧ AllDerivable s) hiff hkeeps ⟨kept_empty, allDerivable_empty⟩

/-- The account of the master is not on record in a new team, but in the team that
is loaded from its file. -/
theorem created_not_reloaded : ¬ AllReload (next (.create "Rangers" 1 "Ash") .empty) := by
  have hsaves := saves kept_empty (.create "Rangers" 1 "Ash")
  rw [allReload_iff hsaves.kept, hsaves.derivable allDerivable_empty]
  rintro (hzero | hid | hname)
  · exact absurd hzero (by decide)
  · exact Std.ExtTreeMap.not_mem_empty hid
  · exact Std.ExtTreeMap.not_mem_empty hname

end HuntersGuild.TeamReloads
