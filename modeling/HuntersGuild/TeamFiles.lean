import HuntersGuild.TeamMembers

/-!
What is loaded from the file of a team. The total of the points and the account
of the master are not in the file; the loader derives them from the members.
-/

namespace HuntersGuild.TeamFiles

open HuntersGuild.JsonValues
open HuntersGuild.OrderedMaps
open HuntersGuild.Teams
open HuntersGuild.TeamMembers

/-! Members. -/

theorem word_ofInt_toNat (x : UInt32) : UInt32.ofInt x.toNat = x := by
  have hx := x.toNat_lt
  rw [← UInt32.toNat_inj, UInt32.ofInt, UInt32.toNat_ofNat']
  omega

theorem byte_ofInt_toNat (x : UInt8) : UInt8.ofInt x.toNat = x := by
  have hx := x.toNat_lt
  rw [← UInt8.toNat_inj, UInt8.ofInt, UInt8.toNat_ofNat']
  omega

theorem ofInt_toInt64 (x : UInt64) : UInt64.ofInt x.toInt64.toInt = x := by
  have hx := x.toNat_lt
  have hsigned : x.toInt64.toInt = x.toBitVec.toInt := rfl
  have hbits : x.toBitVec.toNat = x.toNat := rfl
  rw [← UInt64.toNat_inj, UInt64.ofInt, UInt64.toNat_ofNat', hsigned, BitVec.toInt_eq_toNat_cond, hbits]
  split_ifs <;> omega

theorem ofJson_json (m : Member) : Member.ofJson m.json = .ok m := by
  change Except.ok (⟨UInt32.ofInt m.accountId.toNat, UInt8.ofInt m.flags.toNat,
    UInt64.ofInt m.points.toInt64.toInt, m.name⟩ : Member) = .ok m
  rw [word_ofInt_toNat, byte_ofInt_toNat, ofInt_toInt64]

/-! The loops of the loader. -/

def nextMaster (masterAccountId : UInt32) (m : Member) : UInt32 :=
  if m.checkFlag .isMaster then m.accountId else masterAccountId

def pointsOf (ms : List Member) : Nat := (ms.map fun m => m.points.toNat).sum

/-- The loop over the members does the same as one loop for each field. -/
theorem foldlM_loadMember (ms : List Member) (t : Team) :
    (ms.map Member.json).foldlM Team.loadMember t = .ok { t with
      members := ms.foldl (fun entries m => entries.insertIfNew m.accountId m) t.members
      points := t.points + UInt32.ofNat (pointsOf ms)
      masterAccountId := ms.foldl nextMaster t.masterAccountId } := by
  induction ms generalizing t with
  | nil =>
      change Except.ok t = .ok { t with points := t.points + 0 }
      rw [UInt32.add_zero]
  | cons m ms ih =>
      have hround : Team.loadMember t m.json = .ok { t.withMember m with
          points := t.points + m.points.toUInt32
          masterAccountId := nextMaster t.masterAccountId m } := by
        rw [Team.loadMember, ofJson_json]
        rfl
      have hpoints : t.points + m.points.toUInt32 + UInt32.ofNat (pointsOf ms) =
          t.points + UInt32.ofNat (pointsOf (m :: ms)) := by
        have htotal : pointsOf (m :: ms) = m.points.toNat + pointsOf ms := List.sum_cons
        rw [htotal, UInt32.ofNat_add, UInt32.add_assoc]
        rfl
      rw [List.map_cons, List.foldlM_cons, hround]
      refine (ih _).trans ?_
      rw [hpoints]
      rfl

theorem foldlM_loadRewardKey (keys : List String) (t : Team) :
    (keys.map Json.str).foldlM Team.loadRewardKey t =
      .ok { t with rewardKeys := keys.foldl (fun all key => all.insert key) t.rewardKeys } := by
  induction keys generalizing t with
  | nil => rfl
  | cons key keys ih => exact ih _

theorem mem_foldl_insert (keys : List String) (all : Std.ExtTreeSet String) (key : String) :
    key ∈ keys.foldl (fun all key => all.insert key) all ↔ key ∈ keys ∨ key ∈ all := by
  induction keys generalizing all with
  | nil => simp
  | cons head keys ih =>
      rw [List.foldl_cons, ih, Std.ExtTreeSet.mem_insert, Std.LawfulEqCmp.compare_eq_iff_eq,
        List.mem_cons, eq_comm, or_assoc, or_left_comm]

/-- The last member with the flag decides. -/
theorem foldl_nextMaster {ms : List Member} {master : UInt32}
    (h : ∀ m ∈ ms, m.checkFlag .isMaster → m.accountId = master) (start : UInt32) :
    ms.foldl nextMaster start = if ∃ m ∈ ms, m.checkFlag .isMaster then master else start := by
  induction ms generalizing start with
  | nil => simp
  | cons m ms ih =>
      rw [List.foldl_cons, ih fun n hn => h n (List.mem_cons_of_mem m hn)]
      by_cases hflag : m.checkFlag .isMaster = true
      · have hnext : nextMaster start m = master := by
          rw [nextMaster, if_pos hflag]
          exact h m List.mem_cons_self hflag
        rw [hnext, ite_self, if_pos ⟨m, List.mem_cons_self, hflag⟩]
      · have hnext : nextMaster start m = start := if_neg hflag
        rw [hnext]
        refine if_congr ?_ rfl rfl
        simp [hflag]

/-! Teams. -/

def WellKeyed (t : Team) : Prop :=
  ∀ (a : UInt32) (m : Member), t.members[a]? = some m → m.accountId = a

def NoMaster (t : Team) : Prop :=
  ∀ (a : UInt32) (m : Member), t.members[a]? = some m → ¬ m.checkFlag .isMaster

/-- What the account of the master should be. -/
def MasterIs (t : Team) (master : UInt32) : Prop :=
  HasMaster t master ∨ NoMaster t ∧ master = 0

/-- Members are found under their own accounts, and at most one has the flag of
the master. -/
structure WellFormed (t : Team) : Prop where
  keys : WellKeyed t
  master : ∃ master, MasterIs t master

def memberList (t : Team) : List Member := t.members.toList.map Prod.snd

def memberPoints (t : Team) : Nat := pointsOf (memberList t)

/-- The fields that the file leaves out are those that the loader derives. -/
structure Derivable (t : Team) : Prop where
  points : t.points = UInt32.ofNat (memberPoints t)
  master : MasterIs t t.masterAccountId

theorem mem_memberList {t : Team} (h : WellKeyed t) {m : Member} :
    m ∈ memberList t ↔ t.members[m.accountId]? = some m := by
  rw [memberList, List.mem_map]
  constructor
  · rintro ⟨⟨a, n⟩, hentry, rfl⟩
    have hlookup := Std.ExtTreeMap.mem_toList_iff_getElem?_eq_some.mp hentry
    have hkey : n.accountId = a := h a n hlookup
    rwa [hkey]
  · intro hlookup
    exact ⟨(m.accountId, m), Std.ExtTreeMap.mem_toList_iff_getElem?_eq_some.mpr hlookup, rfl⟩

/-- Filling a map with the members of a team gives its map of members. -/
theorem foldl_members {t : Team} (h : WellKeyed t) {ms : List Member}
    (hmem : ∀ m, m ∈ ms ↔ m ∈ memberList t) :
    ms.foldl (fun entries m => entries.insertIfNew m.accountId m) ∅ = t.members := by
  refine Std.ExtTreeMap.ext_getElem? fun a => ?_
  rw [lookup_foldl_insertIfNew Member.accountId fun m => m, Std.ExtTreeMap.getElem?_empty,
    Option.none_or, Option.map_id']
  cases hfind : ms.find? fun m => m.accountId = a with
  | none =>
      refine (lookup_eq_none_iff.mpr fun ha => ?_).symm
      obtain ⟨m, hm⟩ := mem_iff_exists.mp ha
      have hkey := h a m hm
      have hnot := List.find?_eq_none.mp hfind m ((hmem m).mpr ((mem_memberList h).mpr (hkey ▸ hm)))
      exact hnot (decide_eq_true hkey)
  | some m =>
      have hfound := List.find?_some hfind
      have hkey : m.accountId = a := of_decide_eq_true hfound
      have hm := (mem_memberList h).mp ((hmem m).mp (List.mem_of_find?_eq_some hfind))
      rw [← hkey, hm]

theorem foldl_master {t : Team} (h : WellKeyed t) {ms : List Member}
    (hmem : ∀ m, m ∈ ms ↔ m ∈ memberList t) {master : UInt32} (hmaster : MasterIs t master) :
    ms.foldl nextMaster 0 = master := by
  have hlookup {m : Member} (hm : m ∈ ms) : t.members[m.accountId]? = some m :=
    (mem_memberList h).mp ((hmem m).mp hm)
  rcases hmaster with ⟨⟨m, hm, hflag⟩, honly⟩ | ⟨hnone, rfl⟩
  · have hkey := h master m hm
    rw [foldl_nextMaster fun n hn => honly n.accountId n (hlookup hn), if_pos]
    exact ⟨m, (hmem m).mpr ((mem_memberList h).mpr (hkey ▸ hm)), hflag⟩
  · have hunflagged : ∀ m ∈ ms, ¬ m.checkFlag .isMaster := fun m hm => hnone _ m (hlookup hm)
    rw [@foldl_nextMaster ms 0 fun m hm hflag => absurd hflag (hunflagged m hm), ite_self]

theorem MasterIs.unique {t : Team} {a b : UInt32} (ha : MasterIs t a) (hb : MasterIs t b) : a = b := by
  rcases ha with ha | ⟨hnone, rfl⟩
  · rcases hb with hb | ⟨hnone, -⟩
    · exact ha.unique hb
    · obtain ⟨m, hm, hflag⟩ := ha.1
      exact absurd hflag (hnone a m hm)
  · rcases hb with hb | ⟨-, rfl⟩
    · obtain ⟨m, hm, hflag⟩ := hb.1
      exact absurd hflag (hnone b m hm)
    · rfl

/-- The loader reads every field of the file back and derives the rest. -/
theorem loadConfig_json {t : Team} (h : WellKeyed t) {master : UInt32} (hmaster : MasterIs t master)
    (order : IterationOrder) : Team.loadConfig (t.json order) (.new t.teamId) = .ok { t with
      points := UInt32.ofNat (memberPoints t)
      masterAccountId := master } := by
  let ms := (order.members t.members.toList).map Prod.snd
  let keys := order.rewardKeys t.rewardKeys.toList
  have hperm : ms.Perm (memberList t) := (order.members_perm t.members.toList).map Prod.snd
  have hkeys : keys.foldl (fun all key => all.insert key) ∅ = t.rewardKeys := by
    refine Std.ExtTreeSet.ext_mem fun key => ?_
    rw [mem_foldl_insert, (order.rewardKeys_perm t.rewardKeys.toList).mem_iff,
      Std.ExtTreeSet.mem_toList]
    exact or_iff_left Std.ExtTreeSet.not_mem_empty
  have hjson : ((order.members t.members.toList).map fun it => it.2.json) = ms.map Member.json := by
    rw [List.map_map]
    rfl
  have htotal : pointsOf ms = memberPoints t := (hperm.map _).sum_nat
  have hload : Team.loadConfig (t.json order) (.new t.teamId) = (do
      let self ← ((order.members t.members.toList).map fun it => it.2.json).foldlM Team.loadMember
        { Team.new t.teamId with name := t.name, spentPoints := UInt32.ofInt t.spentPoints.toNat }
      let self ← (keys.map Json.str).foldlM Team.loadRewardKey self
      return { self with rewardFlags := UInt32.ofInt t.rewardFlags.toNat }) := rfl
  rw [hload, hjson, foldlM_loadMember]
  change ((keys.map Json.str).foldlM Team.loadRewardKey _ >>= _) = _
  rw [foldlM_loadRewardKey]
  change Except.ok (⟨t.teamId, 0 + UInt32.ofNat (pointsOf ms), UInt32.ofInt t.spentPoints.toNat, t.name,
    ms.foldl nextMaster 0, ms.foldl (fun entries m => entries.insertIfNew m.accountId m) ∅,
    UInt32.ofInt t.rewardFlags.toNat, keys.foldl (fun all key => all.insert key) ∅⟩ : Team) = _
  rw [foldl_master h (fun m => hperm.mem_iff) hmaster, foldl_members h fun m => hperm.mem_iff, hkeys,
    htotal, word_ofInt_toNat, word_ofInt_toNat, UInt32.zero_add]

/-- The team that is loaded is the one that was saved. -/
def Reloads (t : Team) : Prop :=
  ∀ order, Team.loadConfig (t.json order) (.new t.teamId) = .ok t

/-- The entries as the ordered maps list them. -/
def listedOrder : IterationOrder := ⟨id, id, fun _ => .refl _, fun _ => .refl _⟩

theorem reloads_iff {t : Team} (h : WellFormed t) : Reloads t ↔ Derivable t := by
  obtain ⟨master, hmaster⟩ := h.master
  constructor
  · intro hreloads
    have hsame := Except.ok.inj ((hreloads listedOrder).symm.trans
      (loadConfig_json h.keys hmaster listedOrder))
    refine ⟨congrArg Team.points hsame, ?_⟩
    have hrecord : t.masterAccountId = master := congrArg Team.masterAccountId hsame
    rwa [hrecord]
  · intro hderivable order
    rw [loadConfig_json h.keys hderivable.master, ← hderivable.points]

/-! Changes of a team. -/

variable {t : Team} {a b master : UInt32} {m : Member}

theorem NoMaster.masterIs_iff (h : NoMaster t) : MasterIs t master ↔ master = 0 :=
  ⟨fun hmaster => hmaster.unique (.inr ⟨h, rfl⟩), fun hzero => .inr ⟨h, hzero⟩⟩

theorem memberPoints_withoutMember (hm : t.members[a]? = some m) :
    memberPoints t = m.points.toNat + memberPoints (t.withoutMember a) := by
  have hperm := ((toList_perm_erase hm).map Prod.snd).map fun n : Member => n.points.toNat
  exact hperm.sum_nat.trans List.sum_cons

theorem memberPoints_modifyMember (hm : t.members[a]? = some m) (f : Member → Member) :
    memberPoints (t.modifyMember a f) = (f m).points.toNat + memberPoints (t.withoutMember a) := by
  have hperm := ((toList_modify_perm f hm).map Prod.snd).map fun n : Member => n.points.toNat
  exact hperm.sum_nat.trans List.sum_cons

theorem memberPoints_withMember (hfree : m.accountId ∉ t.members) :
    memberPoints (t.withMember m) = m.points.toNat + memberPoints t := by
  have hperm := ((@toList_insertIfNew_perm _ _ _ _ _ _ m _ _ hfree).map Prod.snd).map
    fun n : Member => n.points.toNat
  exact hperm.sum_nat.trans List.sum_cons

/-- A change that leaves the points of the member alone. -/
theorem memberPoints_modifyMember_same {f : Member → Member} (hf : ∀ m, (f m).points = m.points) :
    memberPoints (t.modifyMember a f) = memberPoints t := by
  cases hlookup : t.members[a]? with
  | none =>
      have hsame : t.members.modify a f = t.members := by
        refine Std.ExtTreeMap.ext_getElem? fun b => ?_
        rw [lookup_modify]
        split_ifs with heq
        · rw [← heq, hlookup]
          rfl
        · rfl
      rw [memberPoints, memberList, members_modifyMember, hsame]
      rfl
  | some m =>
      rw [memberPoints_modifyMember hlookup, memberPoints_withoutMember hlookup, hf]

theorem masterIs_modifyMember {f : Member → Member}
    (hf : ∀ m, (f m).checkFlag .isMaster = m.checkFlag .isMaster) (h : MasterIs t master) :
    MasterIs (t.modifyMember a f) master := by
  refine h.imp (hasMaster_modify hf) (And.imp_left fun hnone b n hn => ?_)
  rw [members_modifyMember, lookup_modify] at hn
  split_ifs at hn with heq
  · obtain ⟨m, hm, rfl⟩ := Option.map_eq_some_iff.mp hn
    rw [hf]
    exact hnone b m hm
  · exact hnone b n hn

theorem masterIs_withMember (hfree : m.accountId ∉ t.members) (hflag : m.checkFlag .isMaster = false)
    (h : MasterIs t master) : MasterIs (t.withMember m) master := by
  refine h.imp (hasMaster_withMember hfree hflag) (And.imp_left fun hnone b n hn => ?_)
  rw [Team.withMember, lookup_insertIfNew hfree] at hn
  split_ifs at hn
  · rw [← Option.some.inj hn, hflag]
    exact Bool.false_ne_true
  · exact hnone b n hn

/-- A team whose master leaves has none. -/
theorem noMaster_withoutMember (h : HasMaster t a) : NoMaster (t.withoutMember a) := by
  intro b n hn hflag
  obtain ⟨hne, hn⟩ := lookup_erase_eq_some.mp hn
  exact hne (h.2 b n hn hflag).symm

theorem masterIs_withoutMember (hm : t.members[a]? = some m) (hflag : ¬ m.checkFlag .isMaster)
    (h : MasterIs t master) : MasterIs (t.withoutMember a) master := by
  refine h.imp (fun hmaster => ?_) (And.imp_left fun hnone b n hn => ?_)
  · refine hasMaster_withoutMember ?_ hmaster
    rintro rfl
    obtain ⟨n, hn, hnflag⟩ := hmaster.1
    obtain rfl : m = n := Option.some.inj (hm.symm.trans hn)
    exact hflag hnflag
  · exact hnone b n (lookup_erase_eq_some.mp hn).2

theorem hasMaster_of_flag (hm : t.members[a]? = some m) (hflag : m.checkFlag .isMaster)
    (h : MasterIs t master) : HasMaster t a := by
  rcases h with hmaster | ⟨hnone, -⟩
  · rwa [hmaster.2 a m hm hflag]
  · exact absurd hflag (hnone a m hm)

theorem masterIs_congr {t' : Team} (hmembers : t'.members = t.members) :
    MasterIs t' master ↔ MasterIs t master := by
  rw [MasterIs, MasterIs, HasMaster, HasMaster, NoMaster, NoMaster, hmembers]

theorem WellFormed.congr {t' : Team} (h : WellFormed t) (hmembers : t'.members = t.members) :
    WellFormed t' := by
  obtain ⟨hkeys, master, hmaster⟩ := h
  refine ⟨?_, master, (masterIs_congr hmembers).mpr hmaster⟩
  rwa [WellKeyed, hmembers]

theorem derivable_congr {t' : Team} (hmembers : t'.members = t.members)
    (hpoints : t'.points = t.points) (hmaster : t'.masterAccountId = t.masterAccountId) :
    Derivable t' ↔ Derivable t := by
  have htotal : memberPoints t' = memberPoints t := by
    rw [memberPoints, memberPoints, memberList, memberList, hmembers]
  constructor
  · rintro ⟨hp, hm⟩
    refine ⟨?_, ?_⟩
    · rw [← hpoints, ← htotal, hp]
    · rw [← hmaster]
      exact (masterIs_congr hmembers).mp hm
  · rintro ⟨hp, hm⟩
    refine ⟨?_, ?_⟩
    · rw [hpoints, htotal, hp]
    · rw [hmaster]
      exact (masterIs_congr hmembers).mpr hm

theorem WellFormed.modifyMember {f : Member → Member} (h : WellFormed t)
    (hid : ∀ m, (f m).accountId = m.accountId)
    (hflag : ∀ m, (f m).checkFlag .isMaster = m.checkFlag .isMaster) :
    WellFormed (t.modifyMember a f) := by
  obtain ⟨master, hmaster⟩ := h.master
  exact ⟨keys_modifyMember hid h.keys, master, masterIs_modifyMember hflag hmaster⟩

theorem Derivable.modifyMember {f : Member → Member} (h : Derivable t)
    (hpoints : ∀ m, (f m).points = m.points)
    (hflag : ∀ m, (f m).checkFlag .isMaster = m.checkFlag .isMaster) :
    Derivable (t.modifyMember a f) := by
  refine ⟨?_, masterIs_modifyMember hflag h.master⟩
  rw [memberPoints_modifyMember_same hpoints]
  exact h.points

theorem WellFormed.withPoints (h : WellFormed t) (a points : UInt32) :
    WellFormed (t.withPoints a points) := by
  obtain ⟨master, hmaster⟩ := h.master
  exact ⟨keys_modifyMember (fun _ => rfl) h.keys, master, masterIs_modifyMember (fun _ => rfl) hmaster⟩

theorem Derivable.withPoints (h : Derivable t) (hm : t.members[a]? = some m) (points : UInt32) :
    Derivable (t.withPoints a points) := by
  have htotal := memberPoints_modifyMember hm fun m => { m with points := m.points + points.toUInt64 }
  have hbefore := memberPoints_withoutMember hm
  have hrecorded := h.points
  have hmaster : MasterIs (t.withPoints a points) t.masterAccountId :=
    masterIs_modifyMember (fun _ => rfl) h.master
  refine ⟨?_, hmaster⟩
  change t.points + points = UInt32.ofNat (memberPoints (t.modifyMember a _))
  have hlt := points.toNat_lt
  rw [← UInt32.toNat_inj] at hrecorded ⊢
  rw [UInt32.toNat_ofNat'] at hrecorded ⊢
  rw [htotal, UInt32.toNat_add, UInt64.toNat_add, UInt32.toNat_toUInt64]
  omega

theorem wellFormed_withMaster (h : WellFormed t) (hmaster : HasMaster t a) (hb : b ∈ t.members) :
    WellFormed (t.withMaster a b) := by
  have hkeys := @keys_modifyMember _ b (fun m => (m.clearFlag .isLeader).setFlag .isMaster)
    (fun _ => rfl) (@keys_modifyMember t a (fun m => (m.clearFlag .isMaster).setFlag .isLeader)
      (fun _ => rfl) h.keys)
  exact ⟨hkeys, b, .inl (hasMaster_withMaster hmaster hb)⟩

theorem Derivable.withMaster (h : Derivable t) (hmaster : HasMaster t a) (hb : b ∈ t.members) :
    Derivable (t.withMaster a b) := by
  refine ⟨?_, .inl (hasMaster_withMaster hmaster hb)⟩
  have hfirst : memberPoints (t.modifyMember a fun m => (m.clearFlag .isMaster).setFlag .isLeader) =
      memberPoints t := memberPoints_modifyMember_same fun _ => rfl
  have hsecond : memberPoints (t.withMaster a b) = memberPoints t := by
    rw [← hfirst]
    change memberPoints (Team.modifyMember b _ (t.modifyMember a _)) = _
    exact memberPoints_modifyMember_same fun _ => rfl
  rw [hsecond]
  exact h.points

/-- An account that is a member already stays as it is. -/
theorem withMember_of_mem (hmem : m.accountId ∈ t.members) : t.withMember m = t := by
  rw [Team.withMember, insertIfNew_of_mem hmem]

theorem WellFormed.withMember (h : WellFormed t) (hflag : m.checkFlag .isMaster = false) :
    WellFormed (t.withMember m) := by
  by_cases hmem : m.accountId ∈ t.members
  · rwa [withMember_of_mem hmem]
  · obtain ⟨master, hmaster⟩ := h.master
    refine ⟨?_, master, masterIs_withMember hmem hflag hmaster⟩
    intro b n hn
    rw [Team.withMember, lookup_insertIfNew hmem] at hn
    split_ifs at hn with heq
    · rwa [← Option.some.inj hn]
    · exact h.keys b n hn

theorem Derivable.withMember (h : Derivable t) (hflag : m.checkFlag .isMaster = false)
    (hpoints : m.points = 0) : Derivable (t.withMember m) := by
  by_cases hmem : m.accountId ∈ t.members
  · rwa [withMember_of_mem hmem]
  · refine ⟨?_, masterIs_withMember hmem hflag h.master⟩
    rw [memberPoints_withMember hmem, hpoints]
    exact h.points.trans (congrArg _ (Nat.zero_add _).symm)

theorem WellFormed.withoutMember (h : WellFormed t) (hm : t.members[a]? = some m) :
    WellFormed (t.withoutMember a) := by
  obtain ⟨master, hmaster⟩ := h.master
  refine ⟨fun b n hn => h.keys b n (lookup_erase_eq_some.mp hn).2, ?_⟩
  by_cases hflag : m.checkFlag .isMaster
  · exact ⟨0, .inr ⟨noMaster_withoutMember (hasMaster_of_flag hm hflag hmaster), rfl⟩⟩
  · exact ⟨master, masterIs_withoutMember hm hflag hmaster⟩

/-- The total of the points and the account of the master stay as they are. -/
theorem derivable_withoutMember_iff (h : Derivable t) (hm : t.members[a]? = some m) :
    Derivable (t.withoutMember a) ↔
      m.points.toUInt32 = 0 ∧ (m.checkFlag .isMaster → a = 0) := by
  have htotal := memberPoints_withoutMember hm
  have hrecorded := h.points
  have hpoints : t.points = UInt32.ofNat (memberPoints (t.withoutMember a)) ↔ m.points.toUInt32 = 0 := by
    rw [hrecorded, ← UInt32.toNat_inj, ← UInt32.toNat_inj, UInt32.toNat_ofNat', UInt32.toNat_ofNat',
      UInt64.toNat_toUInt32, UInt32.toNat_zero, htotal]
    omega
  have hmaster : MasterIs (t.withoutMember a) t.masterAccountId ↔ (m.checkFlag .isMaster → a = 0) := by
    by_cases hflag : m.checkFlag .isMaster
    · have hhas := hasMaster_of_flag hm hflag h.master
      have hrecord : t.masterAccountId = a := h.master.unique (.inl hhas)
      rw [(noMaster_withoutMember hhas).masterIs_iff, hrecord]
      exact ⟨fun hzero _ => hzero, fun hzero => hzero hflag⟩
    · exact iff_of_true (masterIs_withoutMember hm hflag h.master) fun hset => absurd hset hflag
  constructor
  · rintro ⟨hp, hmas⟩
    exact ⟨hpoints.mp hp, hmaster.mp hmas⟩
  · rintro ⟨hp, hmas⟩
    exact ⟨hpoints.mpr hp, hmaster.mpr hmas⟩

theorem wellFormed_created (teamId : UInt32) (name : String) (a : UInt32) (masterName : String) :
    WellFormed (.created teamId name a masterName) :=
  ⟨(valid_created teamId name a masterName).keys, a, .inl (hasMaster_created teamId name a masterName)⟩

theorem derivable_created_iff (teamId : UInt32) (name : String) (a : UInt32) (masterName : String) :
    Derivable (.created teamId name a masterName) ↔ a = 0 := by
  have hmaster : MasterIs (.created teamId name a masterName) a :=
    .inl (hasMaster_created teamId name a masterName)
  constructor
  · intro hderivable
    exact hmaster.unique hderivable.master
  · rintro rfl
    refine ⟨?_, hmaster⟩
    have htotal : memberPoints (.created teamId name 0 masterName) = 0 :=
      memberPoints_withMember Std.ExtTreeMap.not_mem_empty
    rw [htotal]
    rfl

end HuntersGuild.TeamFiles
