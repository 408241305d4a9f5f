import HuntersGuild.Teams
import Mathlib.Algebra.GroupWithZero.Nat

/-!
What a change of a team does to its master and to its number of leaders.
-/

namespace HuntersGuild.TeamMembers

open HuntersGuild.OrderedMaps
open HuntersGuild.Teams

/-! Flags. -/

theorem forall_byte {P : UInt8 → Prop} (h : ∀ n : Fin 256, P (UInt8.ofNat n)) (x : UInt8) : P x := by
  have hx := h ⟨x.toNat, x.toNat_lt⟩
  rwa [UInt8.ofNat_toNat] at hx

@[simp] theorem checkFlag_setFlag (flag set : MemberFlag) (m : Member) :
    (m.setFlag set).checkFlag flag = (decide (flag = set) || m.checkFlag flag) := by
  have hall : ∀ flags : UInt8, decide (flag.value &&& (flags ||| set.value) ≠ 0) =
      (decide (flag = set) || decide (flag.value &&& flags ≠ 0)) := by
    refine forall_byte ?_
    cases flag <;> cases set <;> decide +kernel
  exact hall m.flags

@[simp] theorem checkFlag_clearFlag (flag cleared : MemberFlag) (m : Member) :
    (m.clearFlag cleared).checkFlag flag = (decide (flag ≠ cleared) && m.checkFlag flag) := by
  have hall : ∀ flags : UInt8, decide (flag.value &&& (flags &&& ~~~cleared.value) ≠ 0) =
      (decide (flag ≠ cleared) && decide (flag.value &&& flags ≠ 0)) := by
    refine forall_byte ?_
    cases flag <;> cases cleared <;> decide +kernel
  exact hall m.flags

theorem checkFlag_new (flag : MemberFlag) (accountId : UInt32) (points : UInt64) (name : String) :
    Member.checkFlag flag ⟨accountId, 0, points, name⟩ = false := by
  simp [Member.checkFlag]

/-! Members. -/

theorem members_modifyMember (t : Team) (a : UInt32) (f : Member → Member) :
    (t.modifyMember a f).members = t.members.modify a f := rfl

theorem mem_modifyMember {t : Team} {a b : UInt32} {f : Member → Member} :
    b ∈ (t.modifyMember a f).members ↔ b ∈ t.members := by
  rw [members_modifyMember, Std.ExtTreeMap.mem_modify]

def leads (m : Member) : Nat := if m.checkFlag .isLeader then 1 else 0

theorem countP_cons_leads (a : UInt32) (m : Member) (entries : List (UInt32 × Member)) :
    ((a, m) :: entries).countP (fun it => it.2.checkFlag .isLeader) =
      entries.countP (fun it => it.2.checkFlag .isLeader) + leads m := by
  rw [List.countP_cons, leads]

theorem numLeaders_erase {t : Team} {a : UInt32} {m : Member} (h : t.members[a]? = some m) :
    (t.withoutMember a).numLeaders + leads m = t.numLeaders := by
  rw [Team.numLeaders, Team.numLeaders, (toList_perm_erase h).countP_eq, countP_cons_leads]
  rfl

theorem numLeaders_modify {t : Team} {a : UInt32} {m : Member} (h : t.members[a]? = some m)
    (f : Member → Member) :
    (t.modifyMember a f).numLeaders + leads m = t.numLeaders + leads (f m) := by
  rw [Team.numLeaders, Team.numLeaders, members_modifyMember, (toList_modify_perm f h).countP_eq,
    (toList_perm_erase h).countP_eq, countP_cons_leads, countP_cons_leads]
  omega

theorem numLeaders_insert {t : Team} {m : Member} (h : m.accountId ∉ t.members) :
    (t.withMember m).numLeaders = t.numLeaders + leads m := by
  rw [Team.numLeaders, Team.numLeaders, Team.withMember, (toList_insertIfNew_perm h).countP_eq,
    countP_cons_leads]

/-- The leaders after a change of the master. -/
theorem numLeaders_withMaster {t : Team} {a b : UInt32} {m n : Member} (hm : t.members[a]? = some m)
    (hn : t.members[b]? = some n) :
    (t.withMaster a b).numLeaders + leads m + (if a = b then 0 else leads n) =
      t.numLeaders + if a = b then 0 else 1 := by
  have hfirst := numLeaders_modify hm fun m => (m.clearFlag .isMaster).setFlag .isLeader
  have hleads : leads ((m.clearFlag .isMaster).setFlag .isLeader) = 1 := by
    simp only [leads, checkFlag_setFlag, decide_true, Bool.true_or, if_true]
  have hdrops (k : Member) : leads ((k.clearFlag .isLeader).setFlag .isMaster) = 0 := by
    simp [leads]
  have hsecond : (t.modifyMember a fun m => (m.clearFlag .isMaster).setFlag .isLeader).members[b]? =
      if a = b then some ((m.clearFlag .isMaster).setFlag .isLeader) else some n := by
    rw [members_modifyMember, lookup_modify]
    split_ifs with heq
    · rw [← heq, hm]
      rfl
    · exact hn
  rw [hleads] at hfirst
  change ((t.modifyMember a fun m => (m.clearFlag .isMaster).setFlag .isLeader).modifyMember b
    fun m => (m.clearFlag .isLeader).setFlag .isMaster).numLeaders + _ + _ = _
  split_ifs at hsecond ⊢ with heq
  · have hlast := numLeaders_modify hsecond fun m => (m.clearFlag .isLeader).setFlag .isMaster
    rw [hdrops, hleads] at hlast
    omega
  · have hlast := numLeaders_modify hsecond fun m => (m.clearFlag .isLeader).setFlag .isMaster
    rw [hdrops] at hlast
    omega

/-! The master of a team. -/

/-- Exactly one member has the flag of the master. -/
def HasMaster (t : Team) (master : UInt32) : Prop :=
  (∃ m, t.members[master]? = some m ∧ m.checkFlag .isMaster) ∧
    ∀ a m, t.members[a]? = some m → m.checkFlag .isMaster → a = master

theorem HasMaster.unique {t : Team} {a b : UInt32} (ha : HasMaster t a) (hb : HasMaster t b) :
    a = b := by
  obtain ⟨m, hm, hflag⟩ := ha.1
  exact hb.2 a m hm hflag

/-- A change of a member that leaves the flag of the master alone. -/
theorem hasMaster_modify {t : Team} {master a : UInt32} {f : Member → Member}
    (hf : ∀ m, (f m).checkFlag .isMaster = m.checkFlag .isMaster) (h : HasMaster t master) :
    HasMaster (t.modifyMember a f) master := by
  obtain ⟨⟨m, hm, hflag⟩, hunique⟩ := h
  constructor
  · rw [members_modifyMember, lookup_modify]
    split_ifs with heq
    · exact ⟨f m, by rw [hm]; rfl, by rwa [hf]⟩
    · exact ⟨m, hm, hflag⟩
  · intro b k hk hkflag
    rw [members_modifyMember, lookup_modify] at hk
    split_ifs at hk with heq
    · obtain ⟨k', hk', rfl⟩ := Option.map_eq_some_iff.mp hk
      rw [hf] at hkflag
      exact heq ▸ hunique b k' (heq ▸ hk') hkflag
    · exact hunique b k hk hkflag

theorem hasMaster_withMaster {t : Team} {a b : UInt32} (h : HasMaster t a) (hb : b ∈ t.members) :
    HasMaster (t.withMaster a b) b := by
  obtain ⟨n, hn⟩ := mem_iff_exists.mp hb
  have hlookup (c : UInt32) : (t.withMaster a b).members[c]? =
      if b = c then
        (if a = c then t.members[c]?.map fun m => (m.clearFlag .isMaster).setFlag .isLeader
          else t.members[c]?).map fun m => (m.clearFlag .isLeader).setFlag .isMaster
      else if a = c then t.members[c]?.map fun m => (m.clearFlag .isMaster).setFlag .isLeader
      else t.members[c]? := by
    change ((t.members.modify a _).modify b _)[c]? = _
    rw [lookup_modify, lookup_modify]
  constructor
  · rw [hlookup, if_pos rfl, hn]
    split_ifs
    · exact ⟨_, rfl, by simp⟩
    · exact ⟨_, rfl, by simp⟩
  · intro c k hk hflag
    rw [hlookup] at hk
    split_ifs at hk with hbc hac hac
    · exact hbc.symm
    · exact hbc.symm
    · obtain ⟨k', -, rfl⟩ := Option.map_eq_some_iff.mp hk
      simp at hflag
    · exact absurd (h.2 c k hk hflag).symm hac

theorem hasMaster_withMember {t : Team} {master : UInt32} {m : Member} (hfree : m.accountId ∉ t.members)
    (hflag : m.checkFlag .isMaster = false) (h : HasMaster t master) :
    HasMaster (t.withMember m) master := by
  obtain ⟨⟨k, hk, hkflag⟩, hunique⟩ := h
  have hlookup (a : UInt32) : (t.withMember m).members[a]? =
      if m.accountId = a then some m else t.members[a]? := lookup_insertIfNew hfree
  constructor
  · refine ⟨k, ?_, hkflag⟩
    rw [hlookup, if_neg]
    · exact hk
    · rintro rfl
      exact hfree (mem_iff_exists.mpr ⟨k, hk⟩)
  · intro a n hn hnflag
    rw [hlookup] at hn
    split_ifs at hn with heq
    · rw [← Option.some.inj hn, hflag] at hnflag
      cases hnflag
    · exact hunique a n hn hnflag

theorem hasMaster_withoutMember {t : Team} {master a : UInt32} (hne : a ≠ master)
    (h : HasMaster t master) : HasMaster (t.withoutMember a) master := by
  obtain ⟨⟨k, hk, hkflag⟩, hunique⟩ := h
  refine ⟨⟨k, lookup_erase_eq_some.mpr ⟨hne, hk⟩, hkflag⟩, ?_⟩
  intro b n hn hnflag
  exact hunique b n (lookup_erase_eq_some.mp hn).2 hnflag

/-! Limits. -/

theorem toUInt32_or_and_ne_zero {x y z : UInt32} (h : x &&& y ≠ 0) : x &&& (y ||| z) ≠ 0 := by
  intro hzero
  refine h ?_
  rw [← UInt32.toNat_inj, UInt32.toNat_and] at hzero ⊢
  rw [UInt32.toNat_or] at hzero
  refine Nat.eq_of_testBit_eq fun i => ?_
  have hbit := congrArg (Nat.testBit · i) hzero
  simp only [Nat.testBit_and, Nat.testBit_or, UInt32.toNat_zero, Nat.zero_testBit] at hbit ⊢
  rcases hx : x.toNat.testBit i
  · rfl
  · rw [hx] at hbit
    simp only [Bool.true_and, Bool.or_eq_false_iff] at hbit
    rw [hbit.1]
    rfl

theorem checkRewardFlag_setRewardFlag {t : Team} {flag set : RewardFlag}
    (h : t.checkRewardFlag flag = true) : (t.setRewardFlag set).checkRewardFlag flag = true := by
  exact decide_eq_true (toUInt32_or_and_ne_zero (of_decide_eq_true h))

theorem maxMembers_le_setRewardFlag (t : Team) (set : RewardFlag) :
    t.maxMembers ≤ (t.setRewardFlag set).maxMembers := by
  have hkeep (flag : RewardFlag) : t.checkRewardFlag flag = true →
      (t.setRewardFlag set).checkRewardFlag flag = true := checkRewardFlag_setRewardFlag
  unfold Team.maxMembers
  split_ifs <;> simp_all

theorem maxLeaders_le_setRewardFlag (t : Team) (set : RewardFlag) :
    t.maxLeaders ≤ (t.setRewardFlag set).maxLeaders := by
  have hkeep (flag : RewardFlag) : t.checkRewardFlag flag = true →
      (t.setRewardFlag set).checkRewardFlag flag = true := checkRewardFlag_setRewardFlag
  unfold Team.maxLeaders
  split_ifs <;> simp_all

/-! Teams within their limits. -/

/-- A team with one master and within its limits. -/
structure Valid (t : Team) : Prop where
  keys : ∀ a (m : Member), t.members[a]? = some m → m.accountId = a
  master : ∃ master, HasMaster t master
  leaders : t.numLeaders ≤ t.maxLeaders
  members : t.numMembers ≤ t.maxMembers
  spent : t.spentPoints.toNat ≤ t.points.toNat

/-- The master is the one that the team has on record. -/
def Recorded (t : Team) : Prop := HasMaster t t.masterAccountId

def IsLeader (t : Team) (a : UInt32) : Prop :=
  ∃ m, t.members[a]? = some m ∧ m.checkFlag .isLeader

theorem keys_modifyMember {t : Team} {a : UInt32} {f : Member → Member}
    (hf : ∀ m, (f m).accountId = m.accountId) (h : ∀ b (m : Member), t.members[b]? = some m → m.accountId = b) :
    ∀ b (m : Member), (t.modifyMember a f).members[b]? = some m → m.accountId = b := by
  intro b m hm
  rw [members_modifyMember, lookup_modify] at hm
  split_ifs at hm with heq
  · obtain ⟨m', hm', rfl⟩ := Option.map_eq_some_iff.mp hm
    rw [hf]
    exact h b m' hm'
  · exact h b m hm

theorem numMembers_modifyMember (t : Team) (a : UInt32) (f : Member → Member) :
    (t.modifyMember a f).numMembers = t.numMembers := by
  rw [Team.numMembers, members_modifyMember, Std.ExtTreeMap.size_modify]
  rfl

theorem leads_le (m : Member) : leads m ≤ 1 := by
  unfold leads
  split_ifs <;> decide

theorem Valid.withName {t : Team} (h : Valid t) (name : String) : Valid (t.withName name) :=
  ⟨h.keys, h.master, h.leaders, h.members, h.spent⟩

/-- The total may wrap around only if it still covers what was spent. -/
def PointsFit (t : Team) (points : UInt32) : Prop :=
  t.points.toNat + points.toNat < 2 ^ 32 ∨
    t.spentPoints.toNat + 2 ^ 32 ≤ t.points.toNat + points.toNat

theorem valid_withPoints_iff {t : Team} (h : Valid t) {a : UInt32} {m : Member}
    (hm : t.members[a]? = some m) (points : UInt32) :
    Valid (t.withPoints a points) ↔ PointsFit t points := by
  have hspent : (t.withPoints a points).spentPoints.toNat ≤ (t.withPoints a points).points.toNat ↔
      PointsFit t points := by
    change t.spentPoints.toNat ≤ (t.points + points).toNat ↔ _
    have hle := h.spent
    have hlt := t.spentPoints.toNat_lt
    have hpoints := points.toNat_lt
    have htotal := t.points.toNat_lt
    rw [UInt32.toNat_add, PointsFit]
    omega
  refine ⟨fun hvalid => hspent.mp hvalid.spent, fun hfit => ?_⟩
  obtain ⟨master, hmaster⟩ := h.master
  refine ⟨keys_modifyMember (fun _ => rfl) h.keys, ⟨master, ?_⟩, ?_, ?_, hspent.mpr hfit⟩
  · exact hasMaster_modify (fun _ => rfl) hmaster
  · have hcount := numLeaders_modify hm fun m => { m with points := m.points + points.toUInt64 }
    exact Nat.le_trans (Nat.le_of_eq (Nat.add_right_cancel hcount)) h.leaders
  · exact Nat.le_trans (Nat.le_of_eq (numMembers_modifyMember t a _)) h.members

theorem Valid.promote {t : Team} (h : Valid t) {a : UInt32} {m : Member}
    (hm : t.members[a]? = some m) (hroom : t.canPromoteLeader = true) :
    Valid (t.modifyMember a (.setFlag .isLeader)) := by
  obtain ⟨master, hmaster⟩ := h.master
  have hroom := of_decide_eq_true hroom
  refine ⟨keys_modifyMember (fun _ => rfl) h.keys, ⟨master, ?_⟩, ?_, ?_, h.spent⟩
  · exact hasMaster_modify (fun m => by simp) hmaster
  · have hcount := numLeaders_modify hm (.setFlag .isLeader)
    have hle := leads_le (m.setFlag .isLeader)
    change _ ≤ t.maxLeaders
    omega
  · exact Nat.le_trans (Nat.le_of_eq (numMembers_modifyMember t a _)) h.members

theorem Valid.demote {t : Team} (h : Valid t) {a : UInt32} {m : Member}
    (hm : t.members[a]? = some m) : Valid (t.modifyMember a (.clearFlag .isLeader)) := by
  obtain ⟨master, hmaster⟩ := h.master
  refine ⟨keys_modifyMember (fun _ => rfl) h.keys, ⟨master, ?_⟩, ?_, ?_, h.spent⟩
  · exact hasMaster_modify (fun m => by simp) hmaster
  · have hcount := numLeaders_modify hm (.clearFlag .isLeader)
    have hzero : leads (m.clearFlag .isLeader) = 0 := by simp [leads]
    have hle := h.leaders
    change _ ≤ t.maxLeaders
    omega
  · exact Nat.le_trans (Nat.le_of_eq (numMembers_modifyMember t a _)) h.members

/-- The old master becomes one more leader, unless the new one or the old one was
a leader before. -/
def MasterFits (t : Team) (a b : UInt32) : Prop :=
  a = b ∨ IsLeader t a ∨ IsLeader t b ∨ t.canPromoteLeader = true

theorem valid_withMaster_iff {t : Team} (h : Valid t) {a b : UInt32} (hmaster : HasMaster t a)
    {m n : Member} (hm : t.members[a]? = some m) (hn : t.members[b]? = some n) :
    Valid (t.withMaster a b) ↔ MasterFits t a b := by
  have hcount := numLeaders_withMaster hm hn
  have hleads {c : UInt32} {k : Member} (hk : t.members[c]? = some k) : leads k = 1 ↔ IsLeader t c := by
    rw [leads]
    constructor
    · intro hone
      refine ⟨k, hk, ?_⟩
      by_contra hnot
      rw [if_neg hnot] at hone
      cases hone
    · rintro ⟨k', hk', hflag⟩
      obtain rfl : k = k' := Option.some.inj (hk.symm.trans hk')
      rw [if_pos hflag]
  have hleaders : (t.withMaster a b).numLeaders ≤ (t.withMaster a b).maxLeaders ↔
      MasterFits t a b := by
    change (t.withMaster a b).numLeaders ≤ t.maxLeaders ↔ _
    have hle := h.leaders
    have hmle := leads_le m
    have hnle := leads_le n
    rw [MasterFits, ← hleads hm, ← hleads hn, Team.canPromoteLeader, decide_eq_true_eq]
    split_ifs at hcount with heq
    · exact ⟨fun _ => .inl heq, fun _ => by omega⟩
    · simp only [heq, false_or]
      omega
  refine ⟨fun hvalid => hleaders.mp hvalid.leaders, fun hfit => ?_⟩
  have hkeys := @keys_modifyMember _ b (fun m => (m.clearFlag .isLeader).setFlag .isMaster)
    (fun _ => rfl) (@keys_modifyMember t a (fun m => (m.clearFlag .isMaster).setFlag .isLeader)
      (fun _ => rfl) h.keys)
  refine ⟨hkeys, ⟨b, hasMaster_withMaster hmaster (mem_iff_exists.mpr ⟨n, hn⟩)⟩, hleaders.mpr hfit,
    ?_, h.spent⟩
  have hsize : (t.withMaster a b).numMembers = t.numMembers :=
    (numMembers_modifyMember _ b _).trans (numMembers_modifyMember t a _)
  exact Nat.le_trans (Nat.le_of_eq hsize) h.members

theorem Valid.withReward {t : Team} (h : Valid t) {key : String} {points : UInt32}
    {rewardFlag : RewardFlag} (hpaid : ¬ t.spentPoints + points > t.points) :
    Valid (t.withReward key points rewardFlag) := by
  have hspent : (t.spentPoints + points).toNat ≤ t.points.toNat :=
    UInt32.le_iff_toNat_le.mp (UInt32.not_lt.mp hpaid)
  unfold Team.withReward
  split_ifs with hflag
  · exact ⟨h.keys, h.master, Nat.le_trans h.leaders (maxLeaders_le_setRewardFlag t rewardFlag),
      Nat.le_trans h.members (maxMembers_le_setRewardFlag t rewardFlag), hspent⟩
  · exact ⟨h.keys, h.master, h.leaders, h.members, hspent⟩

theorem Valid.withMember {t : Team} (h : Valid t) {a : UInt32} (hfree : a ∉ t.members)
    (name : String) (hroom : t.canAddMember = true) : Valid (t.withMember ⟨a, 0, 0, name⟩) := by
  obtain ⟨master, hmaster⟩ := h.master
  have hroom := of_decide_eq_true hroom
  have hflag := checkFlag_new .isMaster a 0 name
  refine ⟨?_, ⟨master, hasMaster_withMember hfree hflag hmaster⟩, ?_, ?_, h.spent⟩
  · intro b m hm
    rw [Team.withMember, lookup_insertIfNew hfree] at hm
    split_ifs at hm with heq
    · rw [← Option.some.inj hm]
      exact heq
    · exact h.keys b m hm
  · rw [numLeaders_insert hfree, leads, checkFlag_new]
    exact h.leaders
  · have hsize : (t.withMember ⟨a, 0, 0, name⟩).numMembers = t.numMembers + 1 := by
      rw [Team.numMembers, Team.withMember, Std.ExtTreeMap.size_insertIfNew, if_neg hfree]
      rfl
    change _ ≤ t.maxMembers
    omega

theorem Valid.withoutMember {t : Team} (h : Valid t) {a : UInt32} (hmem : a ∈ t.members)
    (hnot : ¬ HasMaster t a) : Valid (t.withoutMember a) := by
  obtain ⟨master, hmaster⟩ := h.master
  obtain ⟨m, hm⟩ := mem_iff_exists.mp hmem
  have hne : a ≠ master := by
    rintro rfl
    exact hnot hmaster
  refine ⟨?_, ⟨master, hasMaster_withoutMember hne hmaster⟩, ?_, ?_, h.spent⟩
  · intro b k hk
    exact h.keys b k (lookup_erase_eq_some.mp hk).2
  · have hcount := numLeaders_erase hm
    have hle := h.leaders
    change _ ≤ t.maxLeaders
    omega
  · exact Nat.le_trans (Nat.le_of_lt (size_erase_lt hmem)) h.members

theorem hasMaster_created (teamId : UInt32) (name : String) (a : UInt32) (masterName : String) :
    HasMaster (.created teamId name a masterName) a := by
  have hlookup (b : UInt32) : (Team.created teamId name a masterName).members[b]? =
      if a = b then some (Member.setFlag .isMaster ⟨a, 0, 0, masterName⟩) else none := by
    change ((∅ : Std.ExtTreeMap UInt32 Member).insertIfNew a _)[b]? = _
    rw [lookup_insertIfNew Std.ExtTreeMap.not_mem_empty, Std.ExtTreeMap.getElem?_empty]
  refine ⟨⟨_, by rw [hlookup, if_pos rfl], by simp⟩, ?_⟩
  intro b m hm _
  rw [hlookup] at hm
  split_ifs at hm with heq
  exact heq.symm

theorem limits_created (teamId : UInt32) (name : String) (a : UInt32) (masterName : String) :
    (Team.created teamId name a masterName).maxMembers = 10 ∧
      (Team.created teamId name a masterName).maxLeaders = 2 := by
  simp [Team.maxMembers, Team.maxLeaders, Team.checkRewardFlag, Team.created, Team.withMember,
    Team.new]

theorem valid_created (teamId : UInt32) (name : String) (a : UInt32) (masterName : String) :
    Valid (.created teamId name a masterName) := by
  have hfree : a ∉ (Team.new teamId).members := Std.ExtTreeMap.not_mem_empty
  refine ⟨?_, ⟨a, hasMaster_created teamId name a masterName⟩, ?_, ?_, Nat.le_refl _⟩
  · intro b m hm
    change ((∅ : Std.ExtTreeMap UInt32 Member).insertIfNew a _)[b]? = _ at hm
    rw [lookup_insertIfNew Std.ExtTreeMap.not_mem_empty] at hm
    split_ifs at hm with heq
    · rw [← Option.some.inj hm]
      exact heq
    · rw [Std.ExtTreeMap.getElem?_empty] at hm
      cases hm
  · have hcount := numLeaders_insert (t := Team.new teamId)
      (m := Member.setFlag .isMaster ⟨a, 0, 0, masterName⟩) hfree
    have hzero : (Team.new teamId).numLeaders = 0 := rfl
    have hle := leads_le (Member.setFlag .isMaster ⟨a, 0, 0, masterName⟩)
    rw [(limits_created teamId name a masterName).2]
    change (Team.withMember _ (Team.new teamId)).numLeaders ≤ 2
    omega
  · rw [(limits_created teamId name a masterName).1]
    change ((∅ : Std.ExtTreeMap UInt32 Member).insertIfNew a _).size ≤ 10
    rw [Std.ExtTreeMap.size_insertIfNew, if_neg Std.ExtTreeMap.not_mem_empty,
      Std.ExtTreeMap.size_empty]
    decide

/-! The master on record. -/

/-- A new team has no master on record. -/
theorem recorded_created_iff (teamId : UInt32) (name : String) (a : UInt32) (masterName : String) :
    Recorded (.created teamId name a masterName) ↔ a = 0 := by
  have hmaster := hasMaster_created teamId name a masterName
  constructor
  · intro hrecorded
    exact hmaster.unique hrecorded
  · rintro rfl
    exact hmaster

theorem Recorded.withName {t : Team} (h : Recorded t) (name : String) :
    Recorded (t.withName name) := h

theorem Recorded.withPoints {t : Team} (h : Recorded t) (a points : UInt32) :
    Recorded (t.withPoints a points) := hasMaster_modify (fun _ => rfl) h

theorem Recorded.promote {t : Team} (h : Recorded t) (a : UInt32) :
    Recorded (t.modifyMember a (.setFlag .isLeader)) := hasMaster_modify (fun m => by simp) h

theorem Recorded.demote {t : Team} (h : Recorded t) (a : UInt32) :
    Recorded (t.modifyMember a (.clearFlag .isLeader)) := hasMaster_modify (fun m => by simp) h

theorem recorded_withMaster {t : Team} {a b : UInt32} (h : HasMaster t a) (hb : b ∈ t.members) :
    Recorded (t.withMaster a b) := hasMaster_withMaster h hb

theorem Recorded.withReward {t : Team} (h : Recorded t) (key : String) (points : UInt32)
    (rewardFlag : RewardFlag) : Recorded (t.withReward key points rewardFlag) := by
  unfold Team.withReward
  split_ifs <;> exact h

theorem Recorded.withMember {t : Team} (h : Recorded t) {a : UInt32} (hfree : a ∉ t.members)
    (name : String) : Recorded (t.withMember ⟨a, 0, 0, name⟩) :=
  hasMaster_withMember hfree (checkFlag_new .isMaster a 0 name) h

theorem Recorded.withoutMember {t : Team} (h : Recorded t) {a : UInt32} (hnot : ¬ HasMaster t a) :
    Recorded (t.withoutMember a) := by
  have hmaster : HasMaster t t.masterAccountId := h
  exact hasMaster_withoutMember (fun heq => hnot (heq ▸ hmaster)) hmaster

end HuntersGuild.TeamMembers
