import HuntersGuild.CallTrace
import HuntersGuild.TeamMembers

/-!
The teams and their indexes over whole runs of the operations.
-/

namespace HuntersGuild.TeamConsistency

open HuntersGuild.CallTrace
open HuntersGuild.OrderedMaps
open HuntersGuild.StatefulPrograms
open HuntersGuild.Teams
open HuntersGuild.Teams.TeamIndex
open HuntersGuild.TeamMembers

/-! What is to hold. -/

/-- The indexes hold the live teams, their names and their members. -/
structure Indexed (s : TeamIndex) (live : List Pointer) : Prop where
  ids : ∀ id p, s.idToTeam[id]? = some p ↔ p ∈ live ∧ (s.teams p).teamId = id
  names : ∀ name p, s.nameToTeam[name]? = some p ↔ p ∈ live ∧ (s.teams p).name = name
  accounts : ∀ a p, s.accountIdToTeam[a]? = some p ↔ p ∈ live ∧ a ∈ (s.teams p).members
  allocated : ∀ p ∈ live, p < s.allocated

structure Consistent (s : TeamIndex) (live : List Pointer) : Prop extends Indexed s live where
  valid : ∀ p ∈ live, Valid (s.teams p)

/-! Runs. -/

inductive Op where
  | create (name : String) (masterAccountId : UInt32) (masterName : String)
  | disband (teamId : UInt32)
  | rename (teamId : UInt32) (newTeamName : String)
  | addMember (teamId accountId : UInt32) (name : String)
  | removeMember (accountId : UInt32)
  | addMemberPoints (accountId points : UInt32)
  | promoteLeader (masterAccountId leaderAccountId : UInt32)
  | demoteLeader (masterAccountId leaderAccountId : UInt32)
  | changeMaster (masterAccountId newMasterAccountId : UInt32)
  | buyReward (teamId : UInt32) (key : String) (points : UInt32) (rewardFlag : RewardFlag)

def program : Op → Program Unit
  | .create name masterAccountId masterName => do
    let _ ← create name masterAccountId masterName
  | .disband teamId => disband teamId
  | .rename teamId newTeamName => rename teamId newTeamName
  | .addMember teamId accountId name => addMember teamId accountId name
  | .removeMember accountId => removeMember accountId
  | .addMemberPoints accountId points => addMemberPoints accountId points
  | .promoteLeader masterAccountId leaderAccountId => do
    let _ ← promoteLeader masterAccountId leaderAccountId
  | .demoteLeader masterAccountId leaderAccountId => do
    let _ ← demoteLeader masterAccountId leaderAccountId
  | .changeMaster masterAccountId newMasterAccountId =>
    changeMaster masterAccountId newMasterAccountId
  | .buyReward teamId key points rewardFlag => buyReward teamId key points rewardFlag

/-- The index, and the teams that were created and are not gone. -/
structure Guild where
  index : TeamIndex
  live : List Pointer

def start : Guild := ⟨.empty, []⟩

/-- The member leaves an empty team behind. -/
def IsLast (t : Team) (a : UInt32) : Prop := a ∈ t.members ∧ t.numMembers = 1

instance (t : Team) (a : UInt32) : Decidable (IsLast t a) :=
  inferInstanceAs (Decidable (_ ∧ _))

/-- The live teams after an operation that returns. -/
def liveAfter (op : Op) (g : Guild) : List Pointer :=
  match op with
  | .create _ _ _ => g.index.allocated :: g.live
  | .disband teamId => g.live.filter fun p => (g.index.teams p).teamId ≠ teamId
  | .removeMember accountId => g.live.filter fun p => ¬ IsLast (g.index.teams p) accountId
  | _ => g.live

def result (op : Op) (g : Guild) : EStateM.Result Exception TeamIndex Unit :=
  (program op).run g.index

def after (op : Op) (g : Guild) : Guild :=
  match result op g with
  | .ok _ s => ⟨s, liveAfter op g⟩
  | .error _ s => ⟨s, g.live⟩

/-- The callers go on after an exception. -/
def call (op : Op) (g : Guild) : Except Exception (Unit × Guild) := .ok (⟨⟩, after op g)

/-- The calls that the operations are made for. -/
def Permitted (g : Guild) : Op → Prop
  | .create name masterAccountId _ =>
    ∀ p ∈ g.live, (g.index.teams p).name ≠ name ∧ masterAccountId ∉ (g.index.teams p).members
  | .addMember teamId _ _ =>
    ∀ p ∈ g.live, (g.index.teams p).teamId = teamId → (g.index.teams p).canAddMember
  | .removeMember accountId =>
    ∀ p ∈ g.live, ¬ HasMaster (g.index.teams p) accountId ∨ IsLast (g.index.teams p) accountId
  | _ => True

/-- No team and no index is changed. -/
structure Unchanged (g g' : Guild) : Prop where
  live : g'.live = g.live
  teams : ∀ p ∈ g.live, g'.index.teams p = g.index.teams p
  idToTeam : g'.index.idToTeam = g.index.idToTeam
  nameToTeam : g'.index.nameToTeam = g.index.nameToTeam
  accountIdToTeam : g'.index.accountIdToTeam = g.index.accountIdToTeam

/-- What a call is to leave behind. -/
def Sound (P : Guild → Prop) (g : Guild) (op : Op) : Prop :=
  P (after op g) ∧ ∀ e s, result op g = .error e s → Unchanged g (after op g)

/-! Lookups. -/

variable {s : TeamIndex} {live : List Pointer} {p : Pointer}

theorem run_teamById (id : UInt32) (s : TeamIndex) :
    (teamById id).run s =
      match s.idToTeam[id]? with
      | some p => .ok p s
      | none => .error .outOfRange s := by
  rw [teamById, run_get_bind]
  cases s.idToTeam[id]? <;> rfl

theorem run_teamByAccountId (a : UInt32) (s : TeamIndex) :
    (teamByAccountId a).run s =
      match s.accountIdToTeam[a]? with
      | some p => .ok p s
      | none => .error .outOfRange s := by
  rw [teamByAccountId, run_get_bind]
  cases s.accountIdToTeam[a]? <;> rfl

theorem run_memberOf (p : Pointer) (a : UInt32) (s : TeamIndex) :
    (memberOf p a).run s =
      match (s.teams p).members[a]? with
      | some m => .ok m s
      | none => .error .outOfRange s := by
  rw [memberOf, run_get_bind]
  cases (s.teams p).members[a]? <;> rfl

/-- A team is looked up by its ID, or nothing is changed. -/
theorem cases_teamById (h : Indexed s live) (id : UInt32) :
    (∃ p ∈ live, (s.teams p).teamId = id ∧ (teamById id).run s = .ok p s) ∨
      ((∀ p ∈ live, (s.teams p).teamId ≠ id) ∧ ∃ e, (teamById id).run s = .error e s) := by
  rw [run_teamById]
  cases hlookup : s.idToTeam[id]? with
  | none =>
      refine .inr ⟨fun p hp hid => ?_, _, rfl⟩
      rw [(h.ids id p).mpr ⟨hp, hid⟩] at hlookup
      cases hlookup
  | some p =>
      obtain ⟨hlive, hid⟩ := (h.ids id p).mp hlookup
      exact .inl ⟨p, hlive, hid, rfl⟩

theorem cases_teamByAccountId (h : Indexed s live) (a : UInt32) :
    (∃ p ∈ live, ∃ m, (s.teams p).members[a]? = some m ∧ (teamByAccountId a).run s = .ok p s) ∨
      ((∀ p ∈ live, a ∉ (s.teams p).members) ∧ ∃ e, (teamByAccountId a).run s = .error e s) := by
  rw [run_teamByAccountId]
  cases hlookup : s.accountIdToTeam[a]? with
  | none =>
      refine .inr ⟨fun p hp hmem => ?_, _, rfl⟩
      rw [(h.accounts a p).mpr ⟨hp, hmem⟩] at hlookup
      cases hlookup
  | some p =>
      obtain ⟨hlive, hmem⟩ := (h.accounts a p).mp hlookup
      obtain ⟨m, hm⟩ := mem_iff_exists.mp hmem
      exact .inl ⟨p, hlive, m, hm, rfl⟩

theorem HasMaster.iff_flag {t : Team} {master a : UInt32} {m : Member} (h : HasMaster t master)
    (hm : t.members[a]? = some m) : m.checkFlag .isMaster = true ↔ a = master := by
  constructor
  · exact h.2 a m hm
  · rintro rfl
    obtain ⟨k, hk, hflag⟩ := h.1
    obtain rfl : m = k := Option.some.inj (hm.symm.trans hk)
    exact hflag

theorem Indexed.unique_account (h : Indexed s live) {q : Pointer} {a : UInt32} (hp : p ∈ live)
    (hpa : a ∈ (s.teams p).members) (hq : q ∈ live) (hqa : a ∈ (s.teams q).members) : p = q :=
  Option.some.inj (((h.accounts a p).mpr ⟨hp, hpa⟩).symm.trans ((h.accounts a q).mpr ⟨hq, hqa⟩))

theorem Indexed.unique_id (h : Indexed s live) {q : Pointer} (hp : p ∈ live) (hq : q ∈ live)
    (heq : (s.teams p).teamId = (s.teams q).teamId) : p = q :=
  Option.some.inj (((h.ids _ p).mpr ⟨hp, heq⟩).symm.trans ((h.ids _ q).mpr ⟨hq, rfl⟩))

theorem HasMaster.mem {t : Team} {master : UInt32} (h : HasMaster t master) : master ∈ t.members := by
  obtain ⟨m, hm, -⟩ := h.1
  exact mem_iff_exists.mpr ⟨m, hm⟩

/-- The account is the master of a team that has the other account, or nothing is
changed. -/
theorem cases_masterOf (h : Consistent s live) (a b : UInt32) :
    (∃ p ∈ live, ∃ m n, HasMaster (s.teams p) a ∧ (s.teams p).members[a]? = some m ∧
        (s.teams p).members[b]? = some n ∧ (masterOf a b).run s = .ok (p, n) s) ∨
      ((∀ p ∈ live, HasMaster (s.teams p) a → b ∉ (s.teams p).members) ∧
        ∃ e, (masterOf a b).run s = .error e s) := by
  rw [masterOf]
  rcases cases_teamByAccountId h.toIndexed a with ⟨p, hlive, m, hm, hrun⟩ | ⟨hnone, e, hrun⟩
  · obtain ⟨master, hmaster⟩ := (h.valid p hlive).master
    have hunique {q : Pointer} (hq : q ∈ live) (hqa : HasMaster (s.teams q) a) : q = p :=
      h.unique_account hq (HasMaster.mem hqa) hlive (mem_iff_exists.mpr ⟨m, hm⟩)
    have hmember : (memberOf p a).run s = .ok m s := by rw [run_memberOf, hm]
    rw [run_bind_of_ok hrun, run_bind_of_ok hmember]
    by_cases hflag : m.checkFlag .isMaster = true
    · rw [if_neg (not_not_intro hflag)]
      have ha := hmaster.2 a m hm hflag
      cases hn : (s.teams p).members[b]? with
      | none =>
          have hother : (memberOf p b).run s = .error .outOfRange s := by rw [run_memberOf, hn]
          refine .inr ⟨fun q hq hqa => ?_, _, run_bind_of_error hother⟩
          rw [hunique hq hqa]
          exact lookup_eq_none_iff.mp hn
      | some n =>
          have hother : (memberOf p b).run s = .ok n s := by rw [run_memberOf, hn]
          exact .inl ⟨p, hlive, m, n, ha ▸ hmaster, hm, hn, run_bind_of_ok hother⟩
    · rw [if_pos hflag]
      refine .inr ⟨fun q hq hqa => ?_, _, rfl⟩
      obtain rfl := hunique hq hqa
      exact absurd ((HasMaster.iff_flag hqa hm).mpr rfl) hflag
  · exact .inr ⟨fun q hq hqa => absurd (HasMaster.mem hqa) (hnone q hq), e, run_bind_of_error hrun⟩

/-! A change of one team. -/

def changed (p : Pointer) (f : Team → Team) (s : TeamIndex) : TeamIndex := (s.change p f).save p

theorem teams_changed_self (p : Pointer) (f : Team → Team) (s : TeamIndex) :
    (changed p f s).teams p = f (s.teams p) := Function.update_self _ _ _

theorem teams_changed_of_ne {p q : Pointer} (hne : q ≠ p) (f : Team → Team) (s : TeamIndex) :
    (changed p f s).teams q = s.teams q := Function.update_of_ne hne _ _

/-- A change that the indexes do not see. -/
theorem Indexed.changed (h : Indexed s live) (hp : p ∈ live) {f : Team → Team}
    (hid : (f (s.teams p)).teamId = (s.teams p).teamId)
    (hname : (f (s.teams p)).name = (s.teams p).name)
    (hmembers : ∀ a, a ∈ (f (s.teams p)).members ↔ a ∈ (s.teams p).members) :
    Indexed (changed p f s) live := by
  have hteam (q : Pointer) : ((TeamConsistency.changed p f s).teams q).teamId = (s.teams q).teamId ∧
      ((TeamConsistency.changed p f s).teams q).name = (s.teams q).name ∧
      ∀ a, a ∈ ((TeamConsistency.changed p f s).teams q).members ↔ a ∈ (s.teams q).members := by
    by_cases hq : q = p
    · subst hq
      rw [teams_changed_self]
      exact ⟨hid, hname, hmembers⟩
    · rw [teams_changed_of_ne hq]
      exact ⟨rfl, rfl, fun _ => Iff.rfl⟩
  refine ⟨?_, ?_, ?_, h.allocated⟩
  · intro id q
    rw [(hteam q).1]
    exact h.ids id q
  · intro name q
    rw [(hteam q).2.1]
    exact h.names name q
  · intro a q
    rw [(hteam q).2.2 a]
    exact h.accounts a q

theorem forall_changed_iff {P : Team → Prop} (hp : p ∈ live) (f : Team → Team)
    (h : ∀ q ∈ live, P (s.teams q)) :
    (∀ q ∈ live, P ((changed p f s).teams q)) ↔ P (f (s.teams p)) := by
  constructor
  · intro hall
    have := hall p hp
    rwa [teams_changed_self] at this
  · intro hself q hq
    by_cases hqp : q = p
    · rw [hqp, teams_changed_self]
      exact hself
    · rw [teams_changed_of_ne hqp]
      exact h q hq

/-! What one call does. -/

/-- When a step keeps the limits of the teams. -/
def Fits (g : Guild) : Op → Prop
  | .addMemberPoints accountId points => ∀ p ∈ g.live, accountId ∈ (g.index.teams p).members →
    PointsFit (g.index.teams p) points
  | .changeMaster masterAccountId newMasterAccountId => ∀ p ∈ g.live,
    HasMaster (g.index.teams p) masterAccountId →
      newMasterAccountId ∈ (g.index.teams p).members →
        MasterFits (g.index.teams p) masterAccountId newMasterAccountId
  | _ => True

/-- A new team is on record as the team of account 0. -/
def MasterKnown (g : Guild) : Op → Prop
  | .create _ masterAccountId _ => masterAccountId = 0 ∨
    ∃ p ∈ g.live, (g.index.teams p).teamId = g.index.nextTeamId
  | _ => True

def AllRecorded (g : Guild) : Prop := ∀ p ∈ g.live, Recorded (g.index.teams p)

structure Step (g : Guild) (op : Op) : Prop where
  consistent : Consistent (after op g).index (after op g).live ↔ Fits g op
  recorded : AllRecorded g → Fits g op → (AllRecorded (after op g) ↔ MasterKnown g op)
  unchanged : ∀ e s, result op g = .error e s → Unchanged g (after op g)

variable {g : Guild} {op : Op}

theorem Unchanged.refl (g : Guild) : Unchanged g g := ⟨rfl, fun _ _ => rfl, rfl, rfl, rfl⟩

theorem step_idle (h : Consistent g.index g.live) (hafter : after op g = g) (hfits : Fits g op)
    (hknown : MasterKnown g op) : Step g op := by
  refine ⟨?_, ?_, ?_⟩
  · rw [hafter]
    exact iff_of_true h hfits
  · intro hrecorded _
    rw [hafter]
    exact iff_of_true hrecorded hknown
  · intro _ _ _
    rw [hafter]
    exact .refl g

theorem after_of_error {e : Exception} (h : result op g = .error e g.index) : after op g = g := by
  rw [after, h]

theorem after_of_ok {s : TeamIndex} (h : result op g = .ok ⟨⟩ s) :
    after op g = ⟨s, liveAfter op g⟩ := by
  rw [after, h]

theorem step_changed (h : Consistent g.index g.live) (hp : p ∈ g.live) {f : Team → Team}
    (hresult : result op g = .ok ⟨⟩ (changed p f g.index)) (hlive : liveAfter op g = g.live)
    (hid : (f (g.index.teams p)).teamId = (g.index.teams p).teamId)
    (hname : (f (g.index.teams p)).name = (g.index.teams p).name)
    (hmembers : ∀ a, a ∈ (f (g.index.teams p)).members ↔ a ∈ (g.index.teams p).members)
    (hvalid : Valid (f (g.index.teams p)) ↔ Fits g op)
    (hrecorded : Recorded (g.index.teams p) → Recorded (f (g.index.teams p)))
    (hknown : MasterKnown g op) : Step g op := by
  have hafter : after op g = ⟨changed p f g.index, g.live⟩ := by
    rw [after_of_ok hresult, hlive]
  have hindexed : Indexed (changed p f g.index) g.live := h.toIndexed.changed hp hid hname hmembers
  refine ⟨?_, ?_, ?_⟩
  · rw [hafter, ← hvalid, ← forall_changed_iff hp f h.valid]
    exact ⟨fun hall => hall.valid, fun hall => ⟨hindexed, hall⟩⟩
  · intro hall _
    rw [hafter, AllRecorded, forall_changed_iff hp f hall]
    exact iff_of_true (hrecorded (hall p hp)) hknown
  · intro e s herror
    rw [hresult] at herror
    cases herror

theorem step_addMemberPoints (h : Consistent g.index g.live) (a points : UInt32) :
    Step g (.addMemberPoints a points) := by
  rcases cases_teamByAccountId h.toIndexed a with ⟨p, hp, m, hm, hrun⟩ | ⟨hnone, e, hrun⟩
  · have hmember : (memberOf p a).run g.index = .ok m g.index := by rw [run_memberOf, hm]
    have hresult : result (.addMemberPoints a points) g =
        .ok ⟨⟩ (changed p (.withPoints a points) g.index) := by
      change (addMemberPoints a points).run g.index = _
      rw [addMemberPoints, run_bind_of_ok hrun, run_bind_of_ok hmember]
      rfl
    refine step_changed h hp hresult rfl rfl rfl (fun _ => mem_modifyMember) ?_ ?_ trivial
    · rw [valid_withPoints_iff (h.valid p hp) hm]
      constructor
      · intro hfit q hq hqa
        rw [h.unique_account hq hqa hp (mem_iff_exists.mpr ⟨m, hm⟩)]
        exact hfit
      · intro hfit
        exact hfit p hp (mem_iff_exists.mpr ⟨m, hm⟩)
    · exact fun hrecorded => hrecorded.withPoints a points
  · have hresult : result (.addMemberPoints a points) g = .error e g.index := by
      change (addMemberPoints a points).run g.index = _
      rw [addMemberPoints, run_bind_of_error hrun]
    exact step_idle h (after_of_error hresult) (fun p hp hmem => absurd hmem (hnone p hp)) trivial

theorem step_promoteLeader (h : Consistent g.index g.live) (a b : UInt32) :
    Step g (.promoteLeader a b) := by
  rcases cases_masterOf h a b with ⟨p, hp, m, n, -, -, hn, hrun⟩ | ⟨-, e, hrun⟩
  · have hpromote : promoteLeader a b = (masterOf a b >>= fun found => do
        let s ← get
        if found.2.checkFlag .isLeader || !(s.teams found.1).canPromoteLeader then
          return false
        else
          changeTeam found.1 (.modifyMember b (.setFlag .isLeader))
          return true) := rfl
    by_cases hrefused : (n.checkFlag .isLeader || !(g.index.teams p).canPromoteLeader) = true
    · have hcall : (promoteLeader a b).run g.index = .ok false g.index := by
        rw [hpromote, run_bind_of_ok hrun, run_get_bind, if_pos hrefused]
        rfl
      have hresult : result (.promoteLeader a b) g = .ok ⟨⟩ g.index := run_bind_of_ok hcall
      exact step_idle h (after_of_ok hresult) trivial trivial
    · have hcall : (promoteLeader a b).run g.index =
          .ok true (changed p (.modifyMember b (.setFlag .isLeader)) g.index) := by
        rw [hpromote, run_bind_of_ok hrun, run_get_bind, if_neg hrefused]
        rfl
      have hresult : result (.promoteLeader a b) g = .ok ⟨⟩ _ := run_bind_of_ok hcall
      have hroom : (g.index.teams p).canPromoteLeader = true := by
        simp only [Bool.or_eq_true, Bool.not_eq_true', not_or, Bool.not_eq_false] at hrefused
        exact hrefused.2
      refine step_changed h hp hresult rfl rfl rfl (fun _ => mem_modifyMember) ?_ ?_ trivial
      · exact iff_of_true ((h.valid p hp).promote hn hroom) trivial
      · exact fun hrecorded => hrecorded.promote b
  · have hcall : (promoteLeader a b).run g.index = .error e g.index := run_bind_of_error hrun
    have hresult : result (.promoteLeader a b) g = .error e g.index := run_bind_of_error hcall
    exact step_idle h (after_of_error hresult) trivial trivial

theorem step_demoteLeader (h : Consistent g.index g.live) (a b : UInt32) :
    Step g (.demoteLeader a b) := by
  rcases cases_masterOf h a b with ⟨p, hp, m, n, -, -, hn, hrun⟩ | ⟨-, e, hrun⟩
  · have hdemote : demoteLeader a b = (masterOf a b >>= fun found => do
        if ¬ found.2.checkFlag .isLeader then
          return false
        else
          changeTeam found.1 (.modifyMember b (.clearFlag .isLeader))
          return true) := rfl
    by_cases hrefused : ¬ n.checkFlag .isLeader = true
    · have hcall : (demoteLeader a b).run g.index = .ok false g.index := by
        rw [hdemote, run_bind_of_ok hrun, if_pos hrefused]
        rfl
      have hresult : result (.demoteLeader a b) g = .ok ⟨⟩ g.index := run_bind_of_ok hcall
      exact step_idle h (after_of_ok hresult) trivial trivial
    · have hcall : (demoteLeader a b).run g.index =
          .ok true (changed p (.modifyMember b (.clearFlag .isLeader)) g.index) := by
        rw [hdemote, run_bind_of_ok hrun, if_neg hrefused]
        rfl
      have hresult : result (.demoteLeader a b) g = .ok ⟨⟩ _ := run_bind_of_ok hcall
      refine step_changed h hp hresult rfl rfl rfl (fun _ => mem_modifyMember) ?_ ?_ trivial
      · exact iff_of_true ((h.valid p hp).demote hn) trivial
      · exact fun hrecorded => hrecorded.demote b
  · have hcall : (demoteLeader a b).run g.index = .error e g.index := run_bind_of_error hrun
    have hresult : result (.demoteLeader a b) g = .error e g.index := run_bind_of_error hcall
    exact step_idle h (after_of_error hresult) trivial trivial

theorem step_changeMaster (h : Consistent g.index g.live) (a b : UInt32) :
    Step g (.changeMaster a b) := by
  rcases cases_masterOf h a b with ⟨p, hp, m, n, hmaster, hm, hn, hrun⟩ | ⟨hnone, e, hrun⟩
  · have hresult : result (.changeMaster a b) g = .ok ⟨⟩ (changed p (.withMaster a b) g.index) :=
      run_bind_of_ok hrun
    have hmembers (c : UInt32) : c ∈ ((g.index.teams p).withMaster a b).members ↔
        c ∈ (g.index.teams p).members := mem_modifyMember.trans mem_modifyMember
    refine step_changed h hp hresult rfl rfl rfl hmembers ?_ ?_ trivial
    · rw [valid_withMaster_iff (h.valid p hp) hmaster hm hn]
      constructor
      · intro hfit q hq hqa _
        rw [h.unique_account hq (HasMaster.mem hqa) hp (HasMaster.mem hmaster)]
        exact hfit
      · intro hfit
        exact hfit p hp hmaster (mem_iff_exists.mpr ⟨n, hn⟩)
    · exact fun _ => recorded_withMaster hmaster (mem_iff_exists.mpr ⟨n, hn⟩)
  · have hresult : result (.changeMaster a b) g = .error e g.index := run_bind_of_error hrun
    exact step_idle h (after_of_error hresult)
      (fun p hp hmaster hmem => absurd hmem (hnone p hp hmaster)) trivial

theorem teamId_withReward (t : Team) (key : String) (points : UInt32) (rewardFlag : RewardFlag) :
    (t.withReward key points rewardFlag).teamId = t.teamId ∧
      (t.withReward key points rewardFlag).name = t.name ∧
      (t.withReward key points rewardFlag).members = t.members := by
  unfold Team.withReward
  split_ifs <;> exact ⟨rfl, rfl, rfl⟩

theorem step_buyReward (h : Consistent g.index g.live) (id : UInt32) (key : String)
    (points : UInt32) (rewardFlag : RewardFlag) : Step g (.buyReward id key points rewardFlag) := by
  rcases cases_teamById h.toIndexed id with ⟨p, hp, -, hrun⟩ | ⟨-, e, hrun⟩
  · by_cases hpaid : (g.index.teams p).spentPoints + points > (g.index.teams p).points
    · have hresult : result (.buyReward id key points rewardFlag) g =
          .error (.runtimeError "not enough points available") g.index := by
        change (buyReward id key points rewardFlag).run g.index = _
        rw [buyReward, run_bind_of_ok hrun, run_get_bind, if_pos hpaid]
        rfl
      exact step_idle h (after_of_error hresult) trivial trivial
    · have hresult : result (.buyReward id key points rewardFlag) g =
          .ok ⟨⟩ (changed p (.withReward key points rewardFlag) g.index) := by
        change (buyReward id key points rewardFlag).run g.index = _
        rw [buyReward, run_bind_of_ok hrun, run_get_bind, if_neg hpaid]
        rfl
      obtain ⟨hid, hname, hmembers⟩ := teamId_withReward (g.index.teams p) key points rewardFlag
      refine step_changed h hp hresult rfl hid hname (fun a => by rw [hmembers]) ?_ ?_ trivial
      · exact iff_of_true ((h.valid p hp).withReward hpaid) trivial
      · exact fun hrecorded => hrecorded.withReward key points rewardFlag
  · have hresult : result (.buyReward id key points rewardFlag) g = .error e g.index :=
      run_bind_of_error hrun
    exact step_idle h (after_of_error hresult) trivial trivial

/-! Steps that the indexes see. -/

theorem step_kept {s : TeamIndex} (hresult : result op g = .ok ⟨⟩ s)
    (hconsistent : Consistent s (liveAfter op g))
    (hrecorded : AllRecorded g → AllRecorded ⟨s, liveAfter op g⟩) (hfits : Fits g op)
    (hknown : MasterKnown g op) : Step g op := by
  have hafter := after_of_ok hresult
  refine ⟨?_, ?_, ?_⟩
  · rw [hafter]
    exact iff_of_true hconsistent hfits
  · intro hall _
    rw [hafter]
    exact iff_of_true (hrecorded hall) hknown
  · intro e s herror
    rw [hresult] at herror
    cases herror

/-- Only the live teams matter, not their order. -/
theorem Consistent.congr {live' : List Pointer} (h : Consistent s live)
    (hsame : ∀ p, p ∈ live' ↔ p ∈ live) : Consistent s live' := by
  refine ⟨⟨?_, ?_, ?_, ?_⟩, fun p hp => h.valid p ((hsame p).mp hp)⟩
  · intro id p
    rw [hsame, h.ids]
  · intro name p
    rw [hsame, h.names]
  · intro a p
    rw [hsame, h.accounts]
  · exact fun p hp => h.allocated p ((hsame p).mp hp)

def renamed (p : Pointer) (name : String) (s : TeamIndex) : TeamIndex :=
  changed p (.withName name) ((s.withName name p).withoutName (s.teams p).name)

theorem teams_renamed (p q : Pointer) (name : String) (s : TeamIndex) :
    (renamed p name s).teams q = if q = p then (s.teams p).withName name else s.teams q :=
  Function.update_apply _ _ _ _

theorem Indexed.renamed (h : Indexed s live) (hp : p ∈ live) {name : String}
    (hfree : name ∉ s.nameToTeam) : Indexed (renamed p name s) live := by
  have hold : (s.teams p).name ≠ name := by
    intro heq
    refine hfree (mem_iff_exists.mpr ⟨p, ?_⟩)
    rw [← heq]
    exact (h.names _ p).mpr ⟨hp, rfl⟩
  refine ⟨?_, ?_, ?_, h.allocated⟩
  · intro id q
    rw [teams_renamed]
    refine (h.ids id q).trans (and_congr_right fun _ => ?_)
    split_ifs with hqp
    · rw [hqp]
      rfl
    · exact Iff.rfl
  · intro n q
    rw [teams_renamed]
    change ((s.nameToTeam.insertIfNew name p).erase (s.teams p).name)[n]? = some q ↔ _
    rw [lookup_erase_eq_some, lookup_insertIfNew hfree]
    split_ifs with hn hqp hqp
    · exact iff_of_true ⟨hn ▸ hold, congrArg some hqp.symm⟩ ⟨hqp ▸ hp, hn⟩
    · refine iff_of_false (fun hq => hqp (Option.some.inj hq.2).symm) ?_
      rintro ⟨hq, rfl⟩
      exact hfree (mem_iff_exists.mpr ⟨q, hn ▸ (h.names _ q).mpr ⟨hq, rfl⟩⟩)
    · refine iff_of_false ?_ fun hq => hn hq.2
      rintro ⟨hne, hq⟩
      exact hne (hqp ▸ ((h.names n q).mp hq).2)
    · rw [h.names]
      refine and_iff_right_of_imp ?_
      rintro ⟨hq, hname⟩ heq
      have hboth := (h.names n p).mpr ⟨hp, heq⟩
      exact hqp (Option.some.inj (((h.names n q).mpr ⟨hq, hname⟩).symm.trans hboth))
  · intro a q
    rw [teams_renamed]
    refine (h.accounts a q).trans (and_congr_right fun _ => ?_)
    split_ifs with hqp
    · rw [hqp]
      rfl
    · exact Iff.rfl

theorem step_rename (h : Consistent g.index g.live) (id : UInt32) (name : String) :
    Step g (.rename id name) := by
  rcases cases_teamById h.toIndexed id with ⟨p, hp, -, hrun⟩ | ⟨-, e, hrun⟩
  · by_cases hused : g.index.nameToTeam.contains name = true
    · have hresult : result (.rename id name) g =
          .error (.runtimeError "team name is already in use") g.index := by
        change (rename id name).run g.index = _
        rw [rename, run_bind_of_ok hrun, run_get_bind, if_pos hused]
        rfl
      exact step_idle h (after_of_error hresult) trivial trivial
    · have hresult : result (.rename id name) g = .ok ⟨⟩ (renamed p name g.index) := by
        change (rename id name).run g.index = _
        rw [rename, run_bind_of_ok hrun, run_get_bind, if_neg hused]
        rfl
      have hfree : name ∉ g.index.nameToTeam :=
        fun hmem => hused (Std.ExtTreeMap.contains_iff_mem.mpr hmem)
      refine step_kept hresult ⟨h.toIndexed.renamed hp hfree, fun q hq => ?_⟩ ?_ trivial trivial
      · rw [teams_renamed]
        split_ifs
        · exact (h.valid p hp).withName name
        · exact h.valid q hq
      · intro hall q hq
        change Recorded ((renamed p name g.index).teams q)
        rw [teams_renamed]
        split_ifs
        · exact (hall p hp).withName name
        · exact hall q hq
  · have hresult : result (.rename id name) g = .error e g.index := run_bind_of_error hrun
    exact step_idle h (after_of_error hresult) trivial trivial

theorem lookup_withAccounts (p : Pointer) (ids : List UInt32) (s : TeamIndex) (a : UInt32) :
    (s.withAccounts p ids).accountIdToTeam[a]? =
      s.accountIdToTeam[a]?.or (if a ∈ ids then some p else none) := by
  change (ids.foldl (fun m id => m.insertIfNew id p) s.accountIdToTeam)[a]? = _
  rw [lookup_foldl_insertIfNew (fun id => id) (fun _ => p)]
  refine congrArg _ ?_
  split_ifs with hmem
  · have hsome : (ids.find? fun id => id = a).isSome := by
      rw [List.find?_isSome]
      exact ⟨a, hmem, decide_eq_true rfl⟩
    obtain ⟨found, hfound⟩ := Option.isSome_iff_exists.mp hsome
    rw [hfound]
    rfl
  · have hnone : (ids.find? fun id => id = a) = none := by
      rw [List.find?_eq_none]
      intro id hid heq
      exact hmem (of_decide_eq_true heq ▸ hid)
    rw [hnone]
    rfl

def joined (p : Pointer) (a : UInt32) (name : String) (s : TeamIndex) : TeamIndex :=
  changed p (.withMember ⟨a, 0, 0, name⟩) (s.withAccounts p [a])

theorem teams_joined (p q : Pointer) (a : UInt32) (name : String) (s : TeamIndex) :
    (joined p a name s).teams q = if q = p then (s.teams p).withMember ⟨a, 0, 0, name⟩ else s.teams q :=
  Function.update_apply _ _ _ _

theorem mem_withMember {t : Team} {m : Member} {a : UInt32} :
    a ∈ (t.withMember m).members ↔ m.accountId = a ∨ a ∈ t.members := by
  rw [Team.withMember, Std.ExtTreeMap.mem_insertIfNew, Std.LawfulEqCmp.compare_eq_iff_eq]

theorem Indexed.joined (h : Indexed s live) (hp : p ∈ live) {a : UInt32} (name : String)
    (hfree : a ∉ s.accountIdToTeam) : Indexed (joined p a name s) live := by
  have hnone : s.accountIdToTeam[a]? = none := lookup_eq_none_iff.mpr hfree
  refine ⟨?_, ?_, ?_, h.allocated⟩
  · intro id q
    rw [teams_joined]
    refine (h.ids id q).trans (and_congr_right fun _ => ?_)
    split_ifs with hqp
    · rw [hqp]
      rfl
    · exact Iff.rfl
  · intro n q
    rw [teams_joined]
    refine (h.names n q).trans (and_congr_right fun _ => ?_)
    split_ifs with hqp
    · rw [hqp]
      rfl
    · exact Iff.rfl
  · intro b q
    rw [teams_joined]
    change (s.withAccounts p [a]).accountIdToTeam[b]? = some q ↔ _
    rw [lookup_withAccounts, if_congr List.mem_singleton rfl rfl]
    by_cases hb : b = a
    · subst hb
      rw [hnone, if_pos rfl, Option.none_or]
      split_ifs with hqp
      · rw [mem_withMember]
        exact iff_of_true (congrArg some hqp.symm) ⟨hqp ▸ hp, .inl rfl⟩
      · refine iff_of_false (fun hq => hqp (Option.some.inj hq).symm) ?_
        rintro ⟨hq, hqb⟩
        rw [(h.accounts b q).mpr ⟨hq, hqb⟩] at hnone
        cases hnone
    · rw [if_neg hb, Option.or_none, h.accounts]
      refine and_congr_right fun _ => ?_
      split_ifs with hqp
      · rw [mem_withMember, hqp]
        exact (or_iff_right (Ne.symm hb)).symm
      · exact Iff.rfl

theorem step_addMember (h : Consistent g.index g.live) (id a : UInt32) (name : String)
    (hpermitted : Permitted g (.addMember id a name)) : Step g (.addMember id a name) := by
  rcases cases_teamById h.toIndexed id with ⟨p, hp, hid, hrun⟩ | ⟨-, e, hrun⟩
  · by_cases hused : g.index.accountIdToTeam.contains a = true
    · have hresult : result (.addMember id a name) g =
          .error (.runtimeError "user is already in a different team") g.index := by
        change (addMember id a name).run g.index = _
        rw [addMember, run_bind_of_ok hrun, run_get_bind, if_pos hused]
        rfl
      exact step_idle h (after_of_error hresult) trivial trivial
    · have hresult : result (.addMember id a name) g = .ok ⟨⟩ (joined p a name g.index) := by
        change (addMember id a name).run g.index = _
        rw [addMember, run_bind_of_ok hrun, run_get_bind, if_neg hused]
        rfl
      have hfree : a ∉ g.index.accountIdToTeam :=
        fun hmem => hused (Std.ExtTreeMap.contains_iff_mem.mpr hmem)
      have hnew : a ∉ (g.index.teams p).members := fun hmem =>
        hfree (mem_iff_exists.mpr ⟨p, (h.accounts a p).mpr ⟨hp, hmem⟩⟩)
      refine step_kept hresult ⟨h.toIndexed.joined hp name hfree, fun q hq => ?_⟩ ?_ trivial trivial
      · rw [teams_joined]
        split_ifs
        · exact (h.valid p hp).withMember hnew name (hpermitted p hp hid)
        · exact h.valid q hq
      · intro hall q hq
        change Recorded ((joined p a name g.index).teams q)
        rw [teams_joined]
        split_ifs
        · exact (hall p hp).withMember hnew name
        · exact hall q hq
  · have hresult : result (.addMember id a name) g = .error e g.index := run_bind_of_error hrun
    exact step_idle h (after_of_error hresult) trivial trivial

/-! Teams that end. -/

def dropped (p : Pointer) (s : TeamIndex) : TeamIndex :=
  (((s.withoutId p).withoutName (s.teams p).name).withoutAccounts (s.memberIds p)).unsave p

theorem run_disband_of_ok {id : UInt32} (hrun : (teamById id).run s = .ok p s) :
    (disband id).run s = .ok ⟨⟩ (dropped p s) := by
  rw [disband, run_bind_of_ok hrun]
  rfl

theorem mem_memberIds (hkeys : ∀ a (m : Member), (s.teams p).members[a]? = some m → m.accountId = a)
    (a : UInt32) : a ∈ s.memberIds p ↔ a ∈ (s.teams p).members := by
  rw [memberIds, List.mem_map, mem_iff_exists]
  constructor
  · rintro ⟨⟨b, m⟩, hmem, rfl⟩
    have hm := Std.ExtTreeMap.mem_toList_iff_getElem?_eq_some.mp hmem
    exact ⟨m, by rw [hkeys b m hm]; exact hm⟩
  · rintro ⟨m, hm⟩
    exact ⟨(a, m), Std.ExtTreeMap.mem_toList_iff_getElem?_eq_some.mpr hm, hkeys a m hm⟩

theorem Indexed.dropped (h : Indexed s live) (hp : p ∈ live)
    (hkeys : ∀ a (m : Member), (s.teams p).members[a]? = some m → m.accountId = a) :
    Indexed (dropped p s) (live.filter (· ≠ p)) := by
  have hlive (q : Pointer) : q ∈ live.filter (· ≠ p) ↔ q ∈ live ∧ q ≠ p := by
    rw [List.mem_filter, decide_eq_true_eq]
  refine ⟨?_, ?_, ?_, fun q hq => h.allocated q ((hlive q).mp hq).1⟩
  · intro id q
    change (s.idToTeam.erase (s.teams p).teamId)[id]? = some q ↔ _ ∧ (s.teams q).teamId = id
    rw [lookup_erase_eq_some, hlive, h.ids]
    constructor
    · rintro ⟨hne, hq, rfl⟩
      exact ⟨⟨hq, fun heq => hne (heq ▸ rfl)⟩, rfl⟩
    · rintro ⟨⟨hq, hqp⟩, rfl⟩
      exact ⟨fun heq => hqp (h.unique_id hq hp heq.symm), hq, rfl⟩
  · intro name q
    change (s.nameToTeam.erase (s.teams p).name)[name]? = some q ↔ _ ∧ (s.teams q).name = name
    rw [lookup_erase_eq_some, hlive, h.names]
    constructor
    · rintro ⟨hne, hq, rfl⟩
      exact ⟨⟨hq, fun heq => hne (heq ▸ rfl)⟩, rfl⟩
    · rintro ⟨⟨hq, hqp⟩, rfl⟩
      refine ⟨fun heq => hqp ?_, hq, rfl⟩
      have hself := (h.names _ p).mpr ⟨hp, heq⟩
      exact Option.some.inj (((h.names _ q).mpr ⟨hq, rfl⟩).symm.trans hself)
  · intro a q
    change ((s.memberIds p).foldl (fun m id => m.erase id) s.accountIdToTeam)[a]? = some q ↔
      _ ∧ a ∈ (s.teams q).members
    rw [lookup_foldl_erase, mem_memberIds hkeys, hlive, h.accounts]
    constructor
    · rintro ⟨hnot, hq, hqa⟩
      exact ⟨⟨hq, fun heq => hnot (heq ▸ hqa)⟩, hqa⟩
    · rintro ⟨⟨hq, hqp⟩, hqa⟩
      exact ⟨fun hpa => hqp (h.unique_account hq hqa hp hpa), hq, hqa⟩

theorem step_disband (h : Consistent g.index g.live) (id : UInt32) : Step g (.disband id) := by
  rcases cases_teamById h.toIndexed id with ⟨p, hp, hid, hrun⟩ | ⟨-, e, hrun⟩
  · have hresult : result (.disband id) g = .ok ⟨⟩ (dropped p g.index) := run_disband_of_ok hrun
    have hlive (q : Pointer) : q ∈ liveAfter (.disband id) g ↔ q ∈ g.live.filter (· ≠ p) := by
      rw [liveAfter, List.mem_filter, List.mem_filter, decide_eq_true_eq, decide_eq_true_eq]
      refine and_congr_right fun hq => not_congr ⟨fun heq => ?_, fun heq => heq ▸ hid⟩
      exact h.unique_id hq hp (heq.trans hid.symm)
    have hin {q : Pointer} (hq : q ∈ liveAfter (.disband id) g) : q ∈ g.live :=
      List.mem_of_mem_filter hq
    have hindexed := h.toIndexed.dropped hp (h.valid p hp).keys
    have hconsistent : Consistent (dropped p g.index) (g.live.filter (· ≠ p)) :=
      ⟨hindexed, fun q hq => h.valid q (List.mem_of_mem_filter hq)⟩
    exact step_kept hresult (hconsistent.congr hlive) (fun hall q hq => hall q (hin hq)) trivial trivial
  · have hresult : result (.disband id) g = .error e g.index := run_bind_of_error hrun
    exact step_idle h (after_of_error hresult) trivial trivial

/-- A team without one of its members, who is in no team then. -/
def parted (p : Pointer) (a : UInt32) (s : TeamIndex) : TeamIndex :=
  (s.withoutAccounts [a]).change p (.withoutMember a)

theorem teams_parted (p q : Pointer) (a : UInt32) (s : TeamIndex) :
    (parted p a s).teams q = if q = p then (s.teams p).withoutMember a else s.teams q :=
  Function.update_apply _ _ _ _

theorem Indexed.parted (h : Indexed s live) (hp : p ∈ live) {a : UInt32}
    (ha : a ∈ (s.teams p).members) : Indexed (parted p a s) live := by
  refine ⟨?_, ?_, ?_, h.allocated⟩
  · intro id q
    rw [teams_parted]
    refine (h.ids id q).trans (and_congr_right fun _ => ?_)
    split_ifs with hqp
    · rw [hqp]
      rfl
    · exact Iff.rfl
  · intro n q
    rw [teams_parted]
    refine (h.names n q).trans (and_congr_right fun _ => ?_)
    split_ifs with hqp
    · rw [hqp]
      rfl
    · exact Iff.rfl
  · intro b q
    rw [teams_parted]
    change (s.accountIdToTeam.erase a)[b]? = some q ↔ _
    rw [lookup_erase_eq_some, h.accounts]
    split_ifs with hqp
    · have hne : compare a b ≠ .eq ↔ a ≠ b := not_congr Std.LawfulEqCmp.compare_eq_iff_eq
      rw [hqp, Team.withoutMember, Std.ExtTreeMap.mem_erase, hne]
      exact and_left_comm
    · refine and_iff_right_of_imp ?_
      rintro ⟨hq, hqb⟩ rfl
      exact hqp (h.unique_account hq hqb hp ha)

theorem isEmpty_withoutMember_iff {t : Team} {a : UInt32} (ha : a ∈ t.members) :
    (t.withoutMember a).members.isEmpty = true ↔ IsLast t a := by
  rw [Std.ExtTreeMap.isEmpty_eq_size_beq_zero, beq_iff_eq, Team.withoutMember,
    Std.ExtTreeMap.size_erase, if_pos (Std.ExtTreeMap.contains_iff_mem.mpr ha), IsLast, Team.numMembers]
  have hpos := size_erase_lt ha
  constructor
  · intro hzero
    exact ⟨ha, by omega⟩
  · rintro ⟨-, hone⟩
    omega

theorem step_removeMember (h : Consistent g.index g.live) (a : UInt32)
    (hpermitted : Permitted g (.removeMember a)) : Step g (.removeMember a) := by
  rcases hlookup : g.index.accountIdToTeam[a]? with _ | p
  · have hresult : result (.removeMember a) g =
        .error (.runtimeError "client is not in any team") g.index := by
      change (removeMember a).run g.index = _
      rw [removeMember, run_get_bind]
      simp only [hlookup]
      rfl
    exact step_idle h (after_of_error hresult) trivial trivial
  · obtain ⟨hp, ha⟩ := (h.accounts a p).mp hlookup
    have hindexed := h.toIndexed.parted hp ha
    have hself : (parted p a g.index).teams p = (g.index.teams p).withoutMember a := by
      rw [teams_parted, if_pos rfl]
    have hcall : result (.removeMember a) g =
        if ((parted p a g.index).teams p).members.isEmpty then
          (disband ((parted p a g.index).teams p).teamId).run (parted p a g.index)
        else
          .ok ⟨⟩ ((parted p a g.index).save p) := by
      change (removeMember a).run g.index = _
      rw [removeMember, run_get_bind]
      simp only [hlookup]
      rw [run_modify_bind, run_modify_bind, run_get_bind]
      change EStateM.run (if ((parted p a g.index).teams p).members.isEmpty = true then _ else _)
        (parted p a g.index) = _
      split_ifs <;> rfl
    have hlive (q : Pointer) : q ∈ liveAfter (.removeMember a) g ↔
        q ∈ g.live ∧ ¬ IsLast (g.index.teams q) a := by
      rw [liveAfter, List.mem_filter, decide_eq_true_eq]
    have honly {q : Pointer} (hq : q ∈ g.live) (hlast : IsLast (g.index.teams q) a) : q = p :=
      h.unique_account hq hlast.1 hp ha
    rw [hself, if_congr (isEmpty_withoutMember_iff ha) rfl rfl] at hcall
    by_cases hlast : IsLast (g.index.teams p) a
    · have hfound : (teamById (g.index.teams p).teamId).run (parted p a g.index) =
          .ok p (parted p a g.index) := by
        rw [run_teamById, (hindexed.ids (g.index.teams p).teamId p).mpr ⟨hp, by rw [hself]; rfl⟩]
      have hresult : result (.removeMember a) g = .ok ⟨⟩ (dropped p (parted p a g.index)) := by
        rw [hcall, if_pos hlast]
        exact run_disband_of_ok hfound
      have hsame (q : Pointer) : q ∈ liveAfter (.removeMember a) g ↔ q ∈ g.live.filter (· ≠ p) := by
        rw [hlive, List.mem_filter, decide_eq_true_eq]
        refine and_congr_right fun hq => not_congr ⟨honly hq, ?_⟩
        rintro rfl
        exact hlast
      have hother {q : Pointer} (hqp : q ≠ p) : (parted p a g.index).teams q = g.index.teams q := by
        rw [teams_parted, if_neg hqp]
      have hkeys : ∀ b (m : Member), ((parted p a g.index).teams p).members[b]? = some m →
          m.accountId = b := by
        rw [hself]
        intro b m hm
        exact (h.valid p hp).keys b m (lookup_erase_eq_some.mp hm).2
      have hconsistent : Consistent (dropped p (parted p a g.index)) (g.live.filter (· ≠ p)) := by
        refine ⟨hindexed.dropped hp hkeys, fun q hq => ?_⟩
        obtain ⟨hq, hqp⟩ := List.mem_filter.mp hq
        change Valid ((parted p a g.index).teams q)
        rw [hother (of_decide_eq_true hqp)]
        exact h.valid q hq
      refine step_kept hresult (hconsistent.congr hsame) ?_ trivial trivial
      intro hall q hq
      obtain ⟨hq, hqp⟩ := List.mem_filter.mp ((hsame q).mp hq)
      change Recorded ((parted p a g.index).teams q)
      rw [hother (of_decide_eq_true hqp)]
      exact hall q hq
    · have hresult : result (.removeMember a) g = .ok ⟨⟩ ((parted p a g.index).save p) := by
        rw [hcall, if_neg hlast]
      have hnot : ¬ HasMaster (g.index.teams p) a := (hpermitted p hp).resolve_right hlast
      have hsame (q : Pointer) : q ∈ liveAfter (.removeMember a) g ↔ q ∈ g.live := by
        rw [hlive]
        refine and_iff_left_of_imp fun hq hqlast => hlast ?_
        rwa [honly hq hqlast] at hqlast
      have hconsistent : Consistent ((parted p a g.index).save p) g.live := by
        refine ⟨⟨hindexed.ids, hindexed.names, hindexed.accounts, hindexed.allocated⟩, fun q hq => ?_⟩
        change Valid ((parted p a g.index).teams q)
        rw [teams_parted]
        split_ifs
        · exact (h.valid p hp).withoutMember ha hnot
        · exact h.valid q hq
      refine step_kept hresult (hconsistent.congr hsame) ?_ trivial trivial
      intro hall q hq
      change Recorded ((parted p a g.index).teams q)
      rw [teams_parted]
      split_ifs
      · exact (hall p hp).withoutMember hnot
      · exact hall q ((hsame q).mp hq)

/-! New teams. -/

def createdTeam (name : String) (a : UInt32) (masterName : String) (s : TeamIndex) : TeamIndex :=
  (s.allocate (.created s.nextTeamId name a masterName)).save s.allocated

theorem teams_createdTeam (name : String) (a : UInt32) (masterName : String) (s : TeamIndex)
    (q : Pointer) : (createdTeam name a masterName s).teams q =
      if q = s.allocated then .created s.nextTeamId name a masterName else s.teams q :=
  Function.update_apply _ _ _ _

def entered (p : Pointer) (s : TeamIndex) : TeamIndex :=
  ((s.withId p).withName (s.teams p).name p).withAccounts p (s.memberIds p)

theorem run_addToIndexes_of_id (hused : s.idToTeam.contains (s.teams p).teamId = true) :
    (addToIndexes p).run s = .error (.runtimeError "team ID is already in use") s := by
  rw [addToIndexes, run_get_bind, if_pos hused]
  rfl

theorem run_addToIndexes_of_free (hid : ¬ s.idToTeam.contains (s.teams p).teamId = true)
    (hname : ¬ s.nameToTeam.contains (s.teams p).name = true) :
    (addToIndexes p).run s = .ok ⟨⟩ (entered p s) := by
  rw [addToIndexes, run_get_bind, if_neg hid, if_neg hname]
  rfl

theorem mem_created_iff {id : UInt32} {name : String} {a b : UInt32} {masterName : String} :
    b ∈ (Team.created id name a masterName).members ↔ a = b := by
  change b ∈ (Team.withMember _ (Team.new id)).members ↔ _
  rw [mem_withMember]
  refine or_iff_left ?_
  exact Std.ExtTreeMap.not_mem_empty

/-- The live teams are as before while a new one is made. -/
theorem Indexed.createdTeam (h : Indexed s live) (name : String) (a : UInt32) (masterName : String) :
    Indexed (createdTeam name a masterName s) live := by
  have hteam {q : Pointer} (hq : q ∈ live) :
      (TeamConsistency.createdTeam name a masterName s).teams q = s.teams q := by
    rw [teams_createdTeam, if_neg (Nat.ne_of_lt (h.allocated q hq))]
  refine ⟨?_, ?_, ?_, fun q hq => Nat.lt_succ_of_lt (h.allocated q hq)⟩
  · intro id q
    refine (h.ids id q).trans (and_congr_right fun hq => ?_)
    rw [hteam hq]
  · intro n q
    refine (h.names n q).trans (and_congr_right fun hq => ?_)
    rw [hteam hq]
  · intro b q
    refine (h.accounts b q).trans (and_congr_right fun hq => ?_)
    rw [hteam hq]

theorem Indexed.entered (h : Indexed s live) (hallocated : p < s.allocated)
    (hid : (s.teams p).teamId ∉ s.idToTeam) (hname : (s.teams p).name ∉ s.nameToTeam)
    (hkeys : ∀ a (m : Member), (s.teams p).members[a]? = some m → m.accountId = a)
    (haccounts : ∀ a ∈ (s.teams p).members, a ∉ s.accountIdToTeam) :
    Indexed (entered p s) (p :: live) := by
  refine ⟨?_, ?_, ?_, List.forall_mem_cons.mpr ⟨hallocated, h.allocated⟩⟩
  · intro id q
    change (s.idToTeam.insertIfNew (s.teams p).teamId p)[id]? = some q ↔
      _ ∧ (s.teams q).teamId = id
    rw [lookup_insertIfNew hid, List.mem_cons]
    split_ifs with heq
    · subst heq
      constructor
      · rintro hq
        obtain rfl := Option.some.inj hq
        exact ⟨.inl rfl, rfl⟩
      · rintro ⟨rfl | hq, hsame⟩
        · rfl
        · exact absurd (mem_iff_exists.mpr ⟨q, (h.ids _ q).mpr ⟨hq, hsame⟩⟩) hid
    · rw [h.ids]
      refine and_congr_left fun hsame => (or_iff_right ?_).symm
      rintro rfl
      exact heq hsame
  · intro n q
    change (s.nameToTeam.insertIfNew (s.teams p).name p)[n]? = some q ↔ _ ∧ (s.teams q).name = n
    rw [lookup_insertIfNew hname, List.mem_cons]
    split_ifs with heq
    · subst heq
      constructor
      · rintro hq
        obtain rfl := Option.some.inj hq
        exact ⟨.inl rfl, rfl⟩
      · rintro ⟨rfl | hq, hsame⟩
        · rfl
        · exact absurd (mem_iff_exists.mpr ⟨q, (h.names _ q).mpr ⟨hq, hsame⟩⟩) hname
    · rw [h.names]
      refine and_congr_left fun hsame => (or_iff_right ?_).symm
      rintro rfl
      exact heq hsame
  · intro b q
    change (s.withAccounts p (s.memberIds p)).accountIdToTeam[b]? = some q ↔
      _ ∧ b ∈ (s.teams q).members
    rw [lookup_withAccounts, if_congr (mem_memberIds hkeys b) rfl rfl, List.mem_cons]
    split_ifs with hb
    · rw [lookup_eq_none_iff.mpr (haccounts b hb), Option.none_or]
      constructor
      · rintro hq
        obtain rfl := Option.some.inj hq
        exact ⟨.inl rfl, hb⟩
      · rintro ⟨rfl | hq, hqb⟩
        · rfl
        · exact absurd (mem_iff_exists.mpr ⟨q, (h.accounts b q).mpr ⟨hq, hqb⟩⟩) (haccounts b hb)
    · rw [Option.or_none, h.accounts]
      refine and_congr_left fun hqb => (or_iff_right ?_).symm
      rintro rfl
      exact hb hqb

theorem step_create (h : Consistent g.index g.live) (name : String) (a : UInt32)
    (masterName : String) (hpermitted : Permitted g (.create name a masterName)) :
    Step g (.create name a masterName) := by
  have hindexed := h.toIndexed.createdTeam name a masterName
  have hteam {q : Pointer} (hq : q ∈ g.live) :
      (createdTeam name a masterName g.index).teams q = g.index.teams q := by
    rw [teams_createdTeam, if_neg (Nat.ne_of_lt (h.allocated q hq))]
  have hself : (createdTeam name a masterName g.index).teams g.index.allocated =
      .created g.index.nextTeamId name a masterName := by
    rw [teams_createdTeam, if_pos rfl]
  have hcall : (create name a masterName).run g.index =
      (addToIndexes g.index.allocated >>= fun _ => pure g.index.allocated).run
        (createdTeam name a masterName g.index) := rfl
  have hidOf : ((createdTeam name a masterName g.index).teams g.index.allocated).teamId =
      g.index.nextTeamId := by
    rw [hself]
    rfl
  have hnameOf : ((createdTeam name a masterName g.index).teams g.index.allocated).name = name := by
    rw [hself]
    rfl
  by_cases hused : g.index.idToTeam.contains g.index.nextTeamId = true
  · -- the counter has come around to the ID of a live team
    have hresult : result (.create name a masterName) g =
        .error (.runtimeError "team ID is already in use") (createdTeam name a masterName g.index) := by
      refine run_bind_of_error (hcall.trans (run_bind_of_error ?_))
      refine run_addToIndexes_of_id ?_
      rw [hidOf]
      exact hused
    have hafter : after (.create name a masterName) g =
        ⟨createdTeam name a masterName g.index, g.live⟩ := by
      rw [after, hresult]
    refine ⟨?_, ?_, ?_⟩
    · rw [hafter]
      refine iff_of_true ⟨hindexed, fun q hq => ?_⟩ trivial
      rw [hteam hq]
      exact h.valid q hq
    · intro hall _
      rw [hafter]
      refine iff_of_true (fun q hq => ?_) (.inr ?_)
      · change Recorded ((createdTeam name a masterName g.index).teams q)
        rw [hteam hq]
        exact hall q hq
      · obtain ⟨p, hp⟩ := mem_iff_exists.mp (Std.ExtTreeMap.contains_iff_mem.mp hused)
        exact ⟨p, (h.ids _ p).mp hp⟩
    · intro e s _
      rw [hafter]
      exact ⟨rfl, fun q hq => hteam hq, rfl, rfl, rfl⟩
  · have hid : g.index.nextTeamId ∉ g.index.idToTeam :=
      fun hmem => hused (Std.ExtTreeMap.contains_iff_mem.mpr hmem)
    have hname : name ∉ g.index.nameToTeam := by
      intro hmem
      obtain ⟨p, hp⟩ := mem_iff_exists.mp hmem
      obtain ⟨hlive, hsame⟩ := (h.names name p).mp hp
      exact (hpermitted p hlive).1 hsame
    have haccount : a ∉ g.index.accountIdToTeam := by
      intro hmem
      obtain ⟨p, hp⟩ := mem_iff_exists.mp hmem
      obtain ⟨hlive, hmember⟩ := (h.accounts a p).mp hp
      exact (hpermitted p hlive).2 hmember
    have hadd : (addToIndexes g.index.allocated).run (createdTeam name a masterName g.index) =
        .ok ⟨⟩ (entered g.index.allocated (createdTeam name a masterName g.index)) := by
      refine run_addToIndexes_of_free ?_ ?_
      · rw [hidOf]
        exact hused
      · rw [hnameOf]
        exact fun hmem => hname (Std.ExtTreeMap.contains_iff_mem.mp hmem)
    have hresult : result (.create name a masterName) g =
        .ok ⟨⟩ (entered g.index.allocated (createdTeam name a masterName g.index)) :=
      run_bind_of_ok (hcall.trans (run_bind_of_ok hadd))
    have hafter : after (.create name a masterName) g =
        ⟨entered g.index.allocated (createdTeam name a masterName g.index),
          g.index.allocated :: g.live⟩ := after_of_ok hresult
    have hvalid := valid_created g.index.nextTeamId name a masterName
    have hentered : Indexed (entered g.index.allocated (createdTeam name a masterName g.index))
        (g.index.allocated :: g.live) := by
      refine hindexed.entered (Nat.lt_succ_self _) ?_ ?_ ?_ ?_
      · rw [hidOf]
        exact hid
      · rw [hnameOf]
        exact hname
      · rw [hself]
        exact hvalid.keys
      · rw [hself]
        intro b hb
        rw [← mem_created_iff.mp hb]
        exact haccount
    refine ⟨?_, ?_, ?_⟩
    · rw [hafter]
      refine iff_of_true ⟨hentered, List.forall_mem_cons.mpr ⟨?_, fun q hq => ?_⟩⟩ trivial
      · change Valid ((createdTeam name a masterName g.index).teams g.index.allocated)
        rw [hself]
        exact hvalid
      · change Valid ((createdTeam name a masterName g.index).teams q)
        rw [hteam hq]
        exact h.valid q hq
    · intro hall _
      rw [hafter]
      have hrecorded : AllRecorded ⟨entered g.index.allocated (createdTeam name a masterName g.index),
          g.index.allocated :: g.live⟩ ↔ a = 0 := by
        rw [AllRecorded, List.forall_mem_cons,
          ← recorded_created_iff g.index.nextTeamId name a masterName, ← hself]
        refine and_iff_left fun q hq => ?_
        change Recorded ((createdTeam name a masterName g.index).teams q)
        rw [hteam hq]
        exact hall q hq
      rw [hrecorded]
      refine (or_iff_left ?_).symm
      rintro ⟨p, hp, hsame⟩
      exact hid (mem_iff_exists.mpr ⟨p, (h.ids _ p).mpr ⟨hp, hsame⟩⟩)
    · intro e s herror
      rw [hresult] at herror
      cases herror

/-! Whole runs. -/

theorem step_of_permitted (h : Consistent g.index g.live) (hpermitted : Permitted g op) :
    Step g op := by
  cases op with
  | create name a masterName => exact step_create h name a masterName hpermitted
  | disband id => exact step_disband h id
  | rename id name => exact step_rename h id name
  | addMember id a name => exact step_addMember h id a name hpermitted
  | removeMember a => exact step_removeMember h a hpermitted
  | addMemberPoints a points => exact step_addMemberPoints h a points
  | promoteLeader a b => exact step_promoteLeader h a b
  | demoteLeader a b => exact step_demoteLeader h a b
  | changeMaster a b => exact step_changeMaster h a b
  | buyReward id key points rewardFlag => exact step_buyReward h id key points rewardFlag

/-- Every team is consistent with the indexes and has its master on record. -/
def Lawful (g : Guild) : Prop := Consistent g.index g.live ∧ AllRecorded g

theorem consistent_start : Consistent start.index start.live := by
  have hempty {κ : Type} {cmp : κ → κ → Ordering} [Std.TransCmp cmp] (key : κ) (p : Pointer)
      {P : Prop} : (∅ : Std.ExtTreeMap κ Pointer cmp)[key]? = some p ↔ p ∈ start.live ∧ P := by
    rw [Std.ExtTreeMap.getElem?_empty]
    exact iff_of_false nofun fun h => nomatch h.1
  exact ⟨⟨fun id p => hempty id p, fun name p => hempty name p, fun a p => hempty a p,
    fun p hp => nomatch hp⟩, fun p hp => nomatch hp⟩

theorem lawful_start : Lawful start := ⟨consistent_start, fun _ hp => nomatch hp⟩

/-- A step that is sound exactly when it fits makes a run sound exactly when all its
steps fit. -/
theorem sound_run_iff {P : Guild → Prop} {fits : Guild → Op → Prop} (hstart : P start)
    (hstep : ∀ g op, P g → Permitted g op → (Sound P g op ↔ fits g op)) (ops : List Op)
    (hpermitted : ∀ c ∈ trace call start ops, Permitted c.1 c.2) :
    (∀ c ∈ trace call start ops, Sound P c.1 c.2) ↔ ∀ c ∈ trace call start ops, fits c.1 c.2 := by
  have hiff : ∀ g, P g → ∀ op ∈ ops,
      (Permitted g op ∧ Sound P g op ↔ Permitted g op ∧ fits g op) :=
    fun g hg op _ => and_congr_right (hstep g op hg)
  have hkeeps : ∀ g, P g → ∀ op ∈ ops, Permitted g op ∧ Sound P g op → ∀ r g',
      call op g = .ok (r, g') → P g' := by
    intro g _ op _ hsound r g' hcall
    obtain ⟨-, rfl⟩ := Prod.mk.inj (Except.ok.inj hcall)
    exact hsound.2.1
  have hboth := forall_trace_iff P hiff hkeeps hstart
  constructor
  · intro hsound c hc
    exact (hboth.mp (fun c hc => ⟨hpermitted c hc, hsound c hc⟩) c hc).2
  · intro hfits c hc
    exact (hboth.mpr (fun c hc => ⟨hpermitted c hc, hfits c hc⟩) c hc).2

/-- The teams keep to their limits as long as every step fits. -/
theorem consistent_run_iff (ops : List Op)
    (hpermitted : ∀ c ∈ trace call start ops, Permitted c.1 c.2) :
    (∀ c ∈ trace call start ops, Sound (fun g => Consistent g.index g.live) c.1 c.2) ↔
      ∀ c ∈ trace call start ops, Fits c.1 c.2 := by
  refine sound_run_iff consistent_start ?_ ops hpermitted
  intro g op hg hop
  have hstep := step_of_permitted hg hop
  exact ⟨fun h => hstep.consistent.mp h.1, fun h => ⟨hstep.consistent.mpr h, hstep.unchanged⟩⟩

/-- Every state is lawful, and every exception leaves it as it is, exactly when
every step fits and teams are created by account 0 only. -/
theorem lawful_run_iff (ops : List Op)
    (hpermitted : ∀ c ∈ trace call start ops, Permitted c.1 c.2) :
    (∀ c ∈ trace call start ops, Sound Lawful c.1 c.2) ↔
      ∀ c ∈ trace call start ops, Fits c.1 c.2 ∧ MasterKnown c.1 c.2 := by
  refine @sound_run_iff Lawful (fun g op => Fits g op ∧ MasterKnown g op) lawful_start ?_ ops hpermitted
  intro g op hg hop
  have hstep := step_of_permitted hg.1 hop
  constructor
  · rintro ⟨⟨hconsistent, hrecorded⟩, -⟩
    have hfits := hstep.consistent.mp hconsistent
    exact ⟨hfits, (hstep.recorded hg.2 hfits).mp hrecorded⟩
  · rintro ⟨hfits, hknown⟩
    exact ⟨⟨hstep.consistent.mpr hfits, (hstep.recorded hg.2 hfits).mpr hknown⟩, hstep.unchanged⟩

def shortRun : List Op :=
  [.create "Rangers" 0 "Ash", .promoteLeader 0 0, .rename 1 "Hunters", .buyReward 1 "Flag" 0 1,
    .disband 1]

theorem lawful_run_iff_shortRun : ¬ ∃ c ∈ trace call start shortRun, ¬ Sound Lawful c.1 c.2 := by
  rintro ⟨c, hc, hnot⟩
  have hlawful := (lawful_run_iff shortRun (by simp [shortRun, trace, call, Permitted, start])).mpr
    (by simp [shortRun, trace, call, Fits, MasterKnown])
  exact hnot (hlawful c hc)

/-- A team that is created by another account than 0 has no master on record. -/
theorem created_not_lawful : Permitted start (.create "Rangers" 1 "Ash") ∧
    ¬ Lawful (after (.create "Rangers" 1 "Ash") start) := by
  have hpermitted : Permitted start (.create "Rangers" 1 "Ash") := fun p hp => nomatch hp
  refine ⟨hpermitted, fun hlawful => ?_⟩
  have hstep := step_of_permitted consistent_start hpermitted
  rcases (hstep.recorded lawful_start.2 trivial).mp hlawful.2 with hzero | ⟨p, hp, -⟩
  · exact absurd hzero (by decide)
  · cases hp

end HuntersGuild.TeamConsistency
