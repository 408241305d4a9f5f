import HuntersGuild.Accounts

/-!
The accounts and the licenses in the index over whole runs of the operations.
-/

namespace HuntersGuild.AccountConsistency

open HuntersGuild.Accounts
open HuntersGuild.Accounts.AccountIndex
open HuntersGuild.Accounts.LicenseKind
open HuntersGuild.OrderedMaps
open HuntersGuild.StatefulPrograms

/-! What is to hold. -/

def Indexed (s : AccountIndex) (p : Pointer) : Prop := ∃ id : UInt32, s.byAccountId[id]? = some p

/-- Each license is in its table under its own key. -/
def Keyed (a : Account) : Prop :=
  ∀ kind key license, (a.licenses kind)[key]? = some license → kind.keyOf license = key

/-- The maps by license hold the licenses of the accounts in the map by ID. -/
structure Consistent (s : AccountIndex) : Prop where
  licenses : ∀ kind key p, (s.byLicense kind)[key]? = some p ↔
    Indexed s p ∧ key ∈ (s.accounts p).licenses kind
  ids : ∀ (id : UInt32) p, s.byAccountId[id]? = some p →
    (s.accounts p).accountId = id ∧ id ≠ 0 ∧ id ≠ 0xFFFFFFFF
  keyed : ∀ p, Indexed s p → Keyed (s.accounts p)
  allocated : ∀ p, Indexed s p → p < s.allocated

/-- The maps are the same, and so are the licenses of the accounts in them. -/
structure Unchanged (s s' : AccountIndex) : Prop where
  byAccountId : s'.byAccountId = s.byAccountId
  byLicense : s'.byLicense = s.byLicense
  ids : ∀ p, Indexed s p → (s'.accounts p).accountId = (s.accounts p).accountId
  licenses : ∀ p, Indexed s p → (s'.accounts p).licenses = (s.accounts p).licenses
  allocated : s.allocated ≤ s'.allocated

/-- No ID that the search comes by is free. -/
def AllTaken (s : AccountIndex) : Prop :=
  ∀ id : UInt32, 1 ≤ id → id ≤ 0x7FFFFFFF → id ∈ s.byAccountId

/-! ## The search for an ID -/

section Search

variable {s : AccountIndex}

theorem toNat_nextId (id : UInt32) : (nextId id).toNat = (id.toNat + 1) % 2 ^ 31 := by
  have hmask : (nextId id).toNat = (id + 1).toNat &&& (2 ^ 31 - 1) := UInt32.toNat_and _ _
  rw [hmask, Nat.and_two_pow_sub_one_eq_mod, UInt32.toNat_add]
  exact Nat.mod_mod_of_dvd _ (by decide)

theorem toNat_iterate_nextId (id : UInt32) (n : Nat) :
    (nextId^[n + 1] id).toNat = (id.toNat + (n + 1)) % 2 ^ 31 := by
  induction n with
  | zero => exact toNat_nextId id
  | succ n ih =>
      rw [Function.iterate_succ_apply', toNat_nextId, ih]
      omega

/-- From every ID the search comes by each ID up to the mask. -/
theorem exists_iterate_nextId (start id : UInt32) (h : id ≤ 0x7FFFFFFF) :
    ∃ n, n + 1 < searchRounds ∧ nextId^[n + 1] start = id := by
  have hid : id.toNat ≤ 0x7FFFFFFF := UInt32.le_iff_toNat_le.mp h
  refine ⟨(id.toNat + 2 ^ 32 - 1 - start.toNat) % 2 ^ 31, ?_, UInt32.toNat_inj.mp ?_⟩
  · unfold searchRounds
    omega
  · have hstart := start.toNat_lt
    rw [toNat_iterate_nextId]
    omega

theorem isUnusable_iff {id : UInt32} :
    s.isUnusable id = true ↔ id ∈ s.byAccountId ∨ id = 0 ∨ id = 0xFFFFFFFF := by
  simp only [isUnusable, Bool.or_eq_true, Std.ExtTreeMap.contains_iff_mem, decide_eq_true_eq, or_assoc]

theorem findId_eq_none_iff (rounds : Nat) (start : UInt32) :
    s.findId rounds start = none ↔ ∀ n < rounds, s.isUnusable (nextId^[n] start) = true := by
  induction rounds generalizing start with
  | zero => exact ⟨fun _ n hn => absurd hn n.not_lt_zero, fun _ => rfl⟩
  | succ rounds ih =>
      rw [findId, Nat.forall_lt_succ_left]
      split_ifs with h
      · rw [ih]
        exact (and_iff_right h).symm
      · constructor
        · intro hsome
          cases hsome
        · intro hall
          exact absurd hall.1 h

theorem findId_spec {rounds : Nat} {start id : UInt32} (h : s.findId rounds start = some id) :
    id ∉ s.byAccountId ∧ id ≠ 0 ∧ id ≠ 0xFFFFFFFF := by
  induction rounds generalizing start with
  | zero => cases h
  | succ rounds ih =>
      rw [findId] at h
      split_ifs at h with hunusable
      · exact ih h
      · obtain rfl := Option.some.inj h
        rwa [isUnusable_iff, not_or, not_or] at hunusable

theorem allTaken_of_findId_eq_none {start : UInt32} (h : s.findId searchRounds start = none) :
    AllTaken s := by
  intro id hone hmask
  obtain ⟨n, hn, rfl⟩ := exists_iterate_nextId start id hmask
  rcases isUnusable_iff.mp ((findId_eq_none_iff _ _).mp h _ hn) with hmem | hzero | hlast
  · exact hmem
  · rw [hzero] at hone
    exact absurd hone (by decide)
  · rw [hlast] at hmask
    exact absurd hmask (by decide)

/-- A search that is not over after those rounds is never over. -/
theorem findId_eq_none_of_searchRounds {start : UInt32} (h : s.findId searchRounds start = none)
    (rounds : Nat) : s.findId rounds start = none := by
  refine (findId_eq_none_iff _ _).mpr ?_
  rintro (_ | n) -
  · exact (findId_eq_none_iff _ _).mp h 0 (by decide)
  · have htoNat := toNat_iterate_nextId start n
    have hle : nextId^[n + 1] start ≤ 0x7FFFFFFF := by
      refine UInt32.le_iff_toNat_le.mpr ?_
      change _ ≤ 0x7FFFFFFF
      omega
    refine isUnusable_iff.mpr ?_
    by_cases hzero : nextId^[n + 1] start = 0
    · exact .inr (.inl hzero)
    · have hone : 1 ≤ nextId^[n + 1] start := by
        refine UInt32.le_iff_toNat_le.mpr ?_
        exact Nat.one_le_iff_ne_zero.mpr fun h0 => hzero (UInt32.toNat_inj.mp h0)
      exact .inl (allTaken_of_findId_eq_none h _ hone hle)

theorem exists_findId {id : UInt32} (hone : 1 ≤ id) (hmask : id ≤ 0x7FFFFFFF)
    (hfree : id ∉ s.byAccountId) (start : UInt32) : ∃ found, s.findId searchRounds start = some found := by
  refine Option.ne_none_iff_exists'.mp fun hnone => ?_
  exact hfree (allTaken_of_findId_eq_none hnone id hone hmask)

end Search

/-! ## States that agree on what is indexed -/

section Frames

variable {s s' s'' : AccountIndex} {p : Pointer}

theorem Unchanged.refl (s : AccountIndex) : Unchanged s s :=
  ⟨rfl, rfl, fun _ _ => rfl, fun _ _ => rfl, Nat.le_refl _⟩

theorem Unchanged.indexed_iff (h : Unchanged s s') : Indexed s' p ↔ Indexed s p := by
  unfold Indexed
  rw [h.byAccountId]

theorem Unchanged.trans (h : Unchanged s s') (h' : Unchanged s' s'') : Unchanged s s'' where
  byAccountId := h'.byAccountId.trans h.byAccountId
  byLicense := h'.byLicense.trans h.byLicense
  ids p hp := (h'.ids p (h.indexed_iff.mpr hp)).trans (h.ids p hp)
  licenses p hp := (h'.licenses p (h.indexed_iff.mpr hp)).trans (h.licenses p hp)
  allocated := Nat.le_trans h.allocated h'.allocated

theorem Consistent.of_unchanged (hs : Consistent s) (h : Unchanged s s') : Consistent s' where
  licenses kind key p := by
    rw [h.byLicense, hs.licenses, h.indexed_iff]
    refine and_congr_right fun hp => ?_
    rw [h.licenses p hp]
  ids id p hid := by
    rw [h.byAccountId] at hid
    rw [h.ids p ⟨id, hid⟩]
    exact hs.ids id p hid
  keyed p hp := by
    rw [h.indexed_iff] at hp
    unfold Keyed
    rw [h.licenses p hp]
    exact hs.keyed p hp
  allocated p hp := Nat.lt_of_lt_of_le (hs.allocated p (h.indexed_iff.mp hp)) h.allocated

/-- An account that is not in the index may change, and so may what the index
does not look at in one that is. -/
theorem unchanged_change {f : Account → Account}
    (h : Indexed s p → (f (s.accounts p)).accountId = (s.accounts p).accountId ∧
      (f (s.accounts p)).licenses = (s.accounts p).licenses) : Unchanged s (s.change p f) where
  byAccountId := rfl
  byLicense := rfl
  ids q hq := by
    by_cases heq : q = p
    · subst heq
      exact (congrArg Account.accountId (Function.update_self ..)).trans (h hq).1
    · exact congrArg Account.accountId (Function.update_of_ne heq ..)
  licenses q hq := by
    by_cases heq : q = p
    · subst heq
      exact (congrArg Account.licenses (Function.update_self ..)).trans (h hq).2
    · exact congrArg Account.licenses (Function.update_of_ne heq ..)
  allocated := Nat.le_refl _

theorem Consistent.not_indexed_allocated (hs : Consistent s) : ¬ Indexed s s.allocated :=
  fun h => Nat.lt_irrefl _ (hs.allocated _ h)

theorem Consistent.unchanged_allocate (hs : Consistent s) (a : Account) :
    Unchanged s (s.allocate a) := by
  have hother (q : Pointer) (hq : Indexed s q) : (s.allocate a).accounts q = s.accounts q :=
    Function.update_of_ne (Nat.ne_of_lt (hs.allocated q hq)) ..
  refine ⟨rfl, rfl, fun q hq => ?_, fun q hq => ?_, Nat.le_succ _⟩
  · rw [hother q hq]
  · rw [hother q hq]

/-- An account is in the index under one ID. -/
theorem Consistent.id_eq (hs : Consistent s) {id id' : UInt32} (h : s.byAccountId[id]? = some p)
    (h' : s.byAccountId[id']? = some p) : id = id' :=
  (hs.ids id p h).1.symm.trans (hs.ids id' p h').1

/-- No license belongs to two accounts. -/
theorem Consistent.account_eq (hs : Consistent s) {q : Pointer} {kind : LicenseKind} {key : Key kind}
    (hp : Indexed s p) (hpk : key ∈ (s.accounts p).licenses kind) (hq : Indexed s q)
    (hqk : key ∈ (s.accounts q).licenses kind) : p = q :=
  Option.some.inj (((hs.licenses kind key p).mpr ⟨hp, hpk⟩).symm.trans
    ((hs.licenses kind key q).mpr ⟨hq, hqk⟩))

theorem Keyed.mem_ownKeys {a : Account} (h : Keyed a) {kind : LicenseKind} {key : Key kind} :
    key ∈ a.ownKeys kind ↔ key ∈ a.licenses kind := by
  rw [Account.ownKeys, List.mem_map, mem_iff_exists]
  constructor
  · rintro ⟨⟨k, license⟩, hmem, rfl⟩
    have hlookup := Std.ExtTreeMap.mem_toList_iff_getElem?_eq_some.mp hmem
    rw [h kind k license hlookup]
    exact ⟨license, hlookup⟩
  · rintro ⟨license, hlookup⟩
    exact ⟨(key, license), Std.ExtTreeMap.mem_toList_iff_getElem?_eq_some.mpr hlookup,
      h kind key license hlookup⟩

end Frames

/-! ## States after an operation -/

section Changes

variable {s : AccountIndex} {p q : Pointer} {id : UInt32} {kind : LicenseKind}

/-- The loops over the tables of an account, one table after the other. -/
theorem foldl_withMap (g : (Pointer → Account) → (kind : LicenseKind) →
      Std.ExtTreeMap (Key kind) Pointer → Std.ExtTreeMap (Key kind) Pointer) (s : AccountIndex) :
    LicenseKind.all.foldl (fun s kind => s.withMap kind (g s.accounts kind (s.byLicense kind))) s =
      { s with byLicense := fun kind => g s.accounts kind (s.byLicense kind) } := by
  refine congrArg (fun byLicense => { s with byLicense := byLicense }) ?_
  funext kind
  cases kind <;> rfl

/-- An account is entered under an ID. -/
def entered (p : Pointer) (id : UInt32) (s : AccountIndex) : AccountIndex :=
  { s.change p (.withId id) with
    byAccountId := s.byAccountId.insert id p
    byLicense := fun kind =>
      ((s.accounts p).ownKeys kind).foldl (fun map key => map.insert key p) (s.byLicense kind) }

/-- An account is taken out. -/
def left (p : Pointer) (id : UInt32) (s : AccountIndex) : AccountIndex :=
  { s with
    byAccountId := s.byAccountId.erase id
    byLicense := fun kind =>
      ((s.accounts p).ownKeys kind).foldl (fun map key => map.erase key) (s.byLicense kind) }

def licensed (p : Pointer) (kind : LicenseKind) (license : License kind) (s : AccountIndex) :
    AccountIndex :=
  (s.withMap kind ((s.byLicense kind).insertIfNew (kind.keyOf license) p)).change p
    (.withLicense kind license)

def unlicensed (p : Pointer) (kind : LicenseKind) (key : Key kind) (s : AccountIndex) : AccountIndex :=
  (s.withMap kind ((s.byLicense kind).erase key)).change p (.withoutLicense kind key)

theorem foldl_withLicenses (p : Pointer) (id : UInt32) (s : AccountIndex) :
    LicenseKind.all.foldl (fun s kind => s.withLicenses p kind)
      (AccountIndex.withId p (s.change p (.withId id))) = entered p id s := by
  have hself : (s.change p (.withId id)).accounts p = (s.accounts p).withId id := Function.update_self ..
  refine (foldl_withMap (fun accounts kind map =>
    ((accounts p).ownKeys kind).foldl (fun map key => map.insert key p) map) _).trans ?_
  unfold entered AccountIndex.withId
  simp only [hself]
  rfl

theorem foldl_withoutLicenses (p : Pointer) (id : UInt32) (s : AccountIndex) :
    LicenseKind.all.foldl (fun s kind => s.withoutLicenses p kind) (s.withoutId id) = left p id s :=
  foldl_withMap (fun accounts kind map =>
    ((accounts p).ownKeys kind).foldl (fun map key => map.erase key) map) _

theorem lookup_entered (a : UInt32) :
    (entered p id s).byAccountId[a]? = if id = a then some p else s.byAccountId[a]? := by
  refine (Std.ExtTreeMap.getElem?_insert).trans (if_congr ?_ rfl rfl)
  exact Std.LawfulEqCmp.compare_eq_iff_eq

theorem indexed_entered_iff (hfree : id ∉ s.byAccountId) :
    Indexed (entered p id s) q ↔ q = p ∨ Indexed s q := by
  constructor
  · rintro ⟨a, ha⟩
    rw [lookup_entered] at ha
    split_ifs at ha with heq
    · exact .inl (Option.some.inj ha).symm
    · exact .inr ⟨a, ha⟩
  · rintro (rfl | ⟨a, ha⟩)
    · exact ⟨id, by rw [lookup_entered, if_pos rfl]⟩
    · refine ⟨a, ?_⟩
      rw [lookup_entered, if_neg]
      · exact ha
      · rintro rfl
        exact hfree (mem_iff_exists.mpr ⟨q, ha⟩)

theorem accounts_entered_self : (entered p id s).accounts p = (s.accounts p).withId id :=
  Function.update_self ..

theorem accounts_entered_of_ne (h : q ≠ p) : (entered p id s).accounts q = s.accounts q :=
  Function.update_of_ne h ..

theorem licenses_entered : ((entered p id s).accounts q).licenses = (s.accounts q).licenses := by
  by_cases heq : q = p
  · subst heq
    rw [accounts_entered_self]
    rfl
  · rw [accounts_entered_of_ne heq]

/-- An account with licenses and an ID of its own may be entered. -/
theorem Consistent.entered (hs : Consistent s) (hp : ¬ Indexed s p) (hlt : p < s.allocated)
    (hkeyed : Keyed (s.accounts p))
    (hlicenses : ∀ kind, ∀ key ∈ (s.accounts p).licenses kind, key ∉ s.byLicense kind)
    (hfree : id ∉ s.byAccountId) (hid : id ≠ 0 ∧ id ≠ 0xFFFFFFFF) : Consistent (entered p id s) where
  licenses kind key q := by
    have hlookup : ((AccountConsistency.entered p id s).byLicense kind)[key]? =
        if key ∈ (s.accounts p).licenses kind then some p else (s.byLicense kind)[key]? :=
      (lookup_foldl_insert _ _ _ _).trans (if_congr hkeyed.mem_ownKeys rfl rfl)
    rw [hlookup, indexed_entered_iff hfree, licenses_entered]
    split_ifs with hmem
    · constructor
      · intro heq
        obtain rfl := Option.some.inj heq
        exact ⟨.inl rfl, hmem⟩
      · rintro ⟨rfl | hq, hkey⟩
        · rfl
        · exact absurd (mem_iff_exists.mpr ⟨q, (hs.licenses kind key q).mpr ⟨hq, hkey⟩⟩)
            (hlicenses kind key hmem)
    · rw [hs.licenses]
      refine and_congr_left fun hkey => ?_
      rw [or_iff_right]
      rintro rfl
      exact hmem hkey
  ids a q ha := by
    rw [lookup_entered] at ha
    split_ifs at ha with heq
    · obtain rfl := Option.some.inj ha
      subst heq
      rw [accounts_entered_self]
      exact ⟨rfl, hid⟩
    · have hne : q ≠ p := by
        rintro rfl
        exact hp ⟨a, ha⟩
      rw [accounts_entered_of_ne hne]
      exact hs.ids a q ha
  keyed q hq := by
    unfold Keyed
    rw [licenses_entered]
    rcases (indexed_entered_iff hfree).mp hq with rfl | hq
    · exact hkeyed
    · exact hs.keyed q hq
  allocated q hq := by
    rcases (indexed_entered_iff hfree).mp hq with rfl | hq
    · exact hlt
    · exact hs.allocated q hq

theorem Consistent.indexed_left_iff (hs : Consistent s) (h : s.byAccountId[id]? = some p) :
    Indexed (left p id s) q ↔ q ≠ p ∧ Indexed s q := by
  constructor
  · rintro ⟨a, ha⟩
    obtain ⟨hne, hold⟩ := lookup_erase_eq_some.mp ha
    refine ⟨?_, a, hold⟩
    rintro rfl
    exact hne (hs.id_eq h hold)
  · rintro ⟨hne, a, ha⟩
    refine ⟨a, lookup_erase_eq_some.mpr ⟨?_, ha⟩⟩
    rintro rfl
    exact hne (Option.some.inj (ha.symm.trans h))

theorem Consistent.left (hs : Consistent s) (h : s.byAccountId[id]? = some p) :
    Consistent (left p id s) where
  licenses kind key q := by
    have hlookup : ((AccountConsistency.left p id s).byLicense kind)[key]? = some q ↔
        key ∉ (s.accounts p).licenses kind ∧ (s.byLicense kind)[key]? = some q :=
      (lookup_foldl_erase _ _ _ _).trans
        (and_congr_left' (not_congr (hs.keyed p ⟨id, h⟩).mem_ownKeys))
    rw [hlookup, hs.indexed_left_iff h, hs.licenses]
    change _ ↔ _ ∧ key ∈ (s.accounts q).licenses kind
    constructor
    · rintro ⟨hnot, hq, hkey⟩
      refine ⟨⟨?_, hq⟩, hkey⟩
      rintro rfl
      exact hnot hkey
    · rintro ⟨⟨hne, hq⟩, hkey⟩
      exact ⟨fun hmem => hne (hs.account_eq hq hkey ⟨id, h⟩ hmem), hq, hkey⟩
  ids a q ha := hs.ids a q (lookup_erase_eq_some.mp ha).2
  keyed q hq := hs.keyed q ((hs.indexed_left_iff h).mp hq).2
  allocated q hq := hs.allocated q ((hs.indexed_left_iff h).mp hq).2

end Changes

section Licenses

variable {s : AccountIndex} {p q : Pointer} {a : Account} {kind other : LicenseKind} {key : Key kind}
  {license : License kind}

theorem mem_licenses_withLicense :
    key ∈ (a.withLicense kind license).licenses kind ↔
      kind.keyOf license = key ∨ key ∈ a.licenses kind := by
  have hself : (a.withLicense kind license).licenses kind =
      (a.licenses kind).insertIfNew (kind.keyOf license) license := Function.update_self ..
  rw [hself, Std.ExtTreeMap.mem_insertIfNew, Std.LawfulEqCmp.compare_eq_iff_eq]

theorem licenses_withLicense_of_ne (h : other ≠ kind) :
    (a.withLicense kind license).licenses other = a.licenses other := Function.update_of_ne h ..

theorem mem_licenses_withoutLicense {k : Key kind} :
    k ∈ (a.withoutLicense kind key).licenses kind ↔ key ≠ k ∧ k ∈ a.licenses kind := by
  have hself : (a.withoutLicense kind key).licenses kind = (a.licenses kind).erase key :=
    Function.update_self ..
  rw [hself, Std.ExtTreeMap.mem_erase]
  exact and_congr_left' (not_congr Std.LawfulEqCmp.compare_eq_iff_eq)

theorem licenses_withoutLicense_of_ne (h : other ≠ kind) :
    (a.withoutLicense kind key).licenses other = a.licenses other := Function.update_of_ne h ..

theorem Keyed.withLicense (h : Keyed a) : Keyed (a.withLicense kind license) := by
  intro k key l hlookup
  by_cases heq : k = kind
  · subst heq
    have hself : (a.withLicense k license).licenses k =
        (a.licenses k).insertIfNew (k.keyOf license) license := Function.update_self ..
    rw [hself, Std.ExtTreeMap.getElem?_insertIfNew] at hlookup
    split_ifs at hlookup with hcmp
    · obtain rfl := Option.some.inj hlookup
      exact Std.LawfulEqCmp.compare_eq_iff_eq.mp hcmp.1
    · exact h k key l hlookup
  · rw [licenses_withLicense_of_ne heq] at hlookup
    exact h k key l hlookup

theorem Keyed.withoutLicense (h : Keyed a) : Keyed (a.withoutLicense kind key) := by
  intro k key' l hlookup
  by_cases heq : k = kind
  · subst heq
    have hself : (a.withoutLicense k key).licenses k = (a.licenses k).erase key :=
      Function.update_self ..
    rw [hself] at hlookup
    exact h k key' l (lookup_erase_eq_some.mp hlookup).2
  · rw [licenses_withoutLicense_of_ne heq] at hlookup
    exact h k key' l hlookup

theorem accounts_change_self {f : Account → Account} : (s.change p f).accounts p = f (s.accounts p) :=
  Function.update_self ..

theorem accounts_change_of_ne {f : Account → Account} (h : q ≠ p) :
    (s.change p f).accounts q = s.accounts q :=
  Function.update_of_ne h ..

theorem byLicense_withMap_self {map : Std.ExtTreeMap (Key kind) Pointer} :
    (s.withMap kind map).byLicense kind = map :=
  Function.update_self ..

theorem byLicense_withMap_of_ne {map : Std.ExtTreeMap (Key kind) Pointer} (h : other ≠ kind) :
    (s.withMap kind map).byLicense other = s.byLicense other :=
  Function.update_of_ne h ..

/-- A change of one table of an account and of one map. -/
theorem Consistent.relicensed (hs : Consistent s) (map : Std.ExtTreeMap (Key kind) Pointer)
    (f : Account → Account) (hid : ∀ a, (f a).accountId = a.accountId)
    (hkeyed : Keyed (s.accounts p) → Keyed (f (s.accounts p)))
    (hother : ∀ a other, other ≠ kind → (f a).licenses other = a.licenses other)
    (hmap : ∀ (key : Key kind) (q : Pointer), map[key]? = some q ↔
      Indexed s q ∧ key ∈ ((s.change p f).accounts q).licenses kind) :
    Consistent ((s.withMap kind map).change p f) := by
  have haccount (q : Pointer) : ((s.withMap kind map).change p f).accounts q =
      (s.change p f).accounts q := rfl
  refine ⟨fun k key q => ?_, fun id q hq => ?_, fun q hq => ?_, hs.allocated⟩
  · rw [haccount]
    change ((s.withMap kind map).byLicense k)[key]? = some q ↔ Indexed s q ∧ _
    by_cases heq : k = kind
    · subst heq
      rw [byLicense_withMap_self, hmap]
    · rw [byLicense_withMap_of_ne heq, hs.licenses]
      refine and_congr_right fun hq => ?_
      by_cases hqp : q = p
      · rw [hqp, accounts_change_self, hother _ _ heq]
      · rw [accounts_change_of_ne hqp]
  · rw [haccount]
    obtain ⟨hself, hne⟩ := hs.ids id q hq
    refine ⟨?_, hne⟩
    by_cases hqp : q = p
    · subst hqp
      rw [accounts_change_self, hid]
      exact hself
    · rw [accounts_change_of_ne hqp]
      exact hself
  · rw [haccount]
    by_cases hqp : q = p
    · subst hqp
      rw [accounts_change_self]
      exact hkeyed (hs.keyed q hq)
    · rw [accounts_change_of_ne hqp]
      exact hs.keyed q hq

theorem Consistent.licensed (hs : Consistent s) (hp : Indexed s p)
    (hfree : kind.keyOf license ∉ s.byLicense kind) : Consistent (licensed p kind license s) := by
  refine hs.relicensed _ _ (fun _ => rfl) Keyed.withLicense
    (fun _ _ => licenses_withLicense_of_ne) fun key q => ?_
  rw [lookup_insertIfNew hfree]
  have hnew (h : kind.keyOf license = key) (hq : Indexed s q)
      (hmem : key ∈ (s.accounts q).licenses kind) : False := by
    subst h
    exact hfree (mem_iff_exists.mpr ⟨q, (hs.licenses kind _ q).mpr ⟨hq, hmem⟩⟩)
  by_cases hqp : q = p
  · subst hqp
    rw [accounts_change_self, mem_licenses_withLicense]
    split_ifs with heq
    · exact iff_of_true rfl ⟨hp, .inl heq⟩
    · rw [hs.licenses, or_iff_right heq]
  · rw [accounts_change_of_ne hqp]
    split_ifs with heq
    · exact iff_of_false (fun h => hqp (Option.some.inj h).symm) fun h => hnew heq h.1 h.2
    · exact hs.licenses kind key q

theorem Consistent.unlicensed (hs : Consistent s) (hp : Indexed s p)
    (hmem : key ∈ (s.accounts p).licenses kind) : Consistent (unlicensed p kind key s) := by
  refine hs.relicensed _ _ (fun _ => rfl) Keyed.withoutLicense
    (fun _ _ => licenses_withoutLicense_of_ne) fun k q => ?_
  rw [lookup_erase_eq_some, hs.licenses]
  by_cases hqp : q = p
  · subst hqp
    rw [accounts_change_self, mem_licenses_withoutLicense]
    exact and_left_comm
  · rw [accounts_change_of_ne hqp, and_iff_right_iff_imp]
    rintro ⟨hq, hk⟩ rfl
    exact hqp (hs.account_eq hq hk hp hmem)

end Licenses

/-! ## The operations -/

section Programs

variable {α : Type} {s s' s'' : AccountIndex} {p : Pointer} {kind : LicenseKind} {x y : Program Login}

/-- What a call that does not return a result leaves behind. -/
def Aborted (s : AccountIndex) (e : Exception) (s' : AccountIndex) : Prop :=
  Unchanged s s' ∧ (e = .endless → AllTaken s)

/-- A call keeps the index consistent, or aborts. -/
def Safe (x : Program α) : Prop :=
  ∀ s, Consistent s → Finishes Consistent (Aborted s) (x.run s)

theorem aborted_self {e : Exception} (h : e ≠ .endless) : Aborted s e s :=
  ⟨.refl s, fun heq => absurd heq h⟩

theorem Aborted.of_unchanged {e : Exception} (h : Unchanged s s') (h' : Aborted s' e s'') :
    Aborted s e s'' := by
  refine ⟨h.trans h'.1, fun heq => ?_⟩
  unfold AllTaken
  rw [← h.byAccountId]
  exact h'.2 heq

theorem checkThat_ne_endless {condition : Bool} {e : Exception} (h : e ≠ .endless) :
    checkThat condition e ≠ .error .endless := by
  cases condition
  · exact fun heq => h (Except.error.inj heq)
  · exact fun heq => nomatch heq

/-- Either no license of an account is in the index, or one is found there. -/
theorem run_checkUnregistered (p : Pointer) (s : AccountIndex) (kinds : List LicenseKind) :
    (kinds.forM (checkUnregistered p)).run s = .ok ⟨⟩ s ∧
        (∀ kind ∈ kinds, ∀ key ∈ (s.accounts p).ownKeys kind, key ∉ s.byLicense kind) ∨
      ∃ what, (kinds.forM (checkUnregistered p)).run s = .error (.runtimeError what) s := by
  induction kinds with
  | nil => exact .inl ⟨rfl, fun kind h => absurd h List.not_mem_nil⟩
  | cons kind kinds ih =>
      have hhead : (checkUnregistered p kind).run s = (fromExcept (checkThat
          (((s.accounts p).ownKeys kind).all fun key => key ∉ s.byLicense kind)
          (.runtimeError kind.alreadyExists))).run s := rfl
      change (checkUnregistered p kind >>= fun _ => kinds.forM (checkUnregistered p)).run s = _ ∧ _ ∨
        ∃ what, (checkUnregistered p kind >>= fun _ => kinds.forM (checkUnregistered p)).run s = _
      rcases hall : ((s.accounts p).ownKeys kind).all fun key => key ∉ s.byLicense kind
      · rw [hall] at hhead
        exact .inr ⟨_, run_bind_of_error hhead⟩
      · rw [hall] at hhead
        rw [run_bind_of_ok hhead]
        refine ih.imp_left fun h => ⟨h.1, ?_⟩
        refine List.forall_mem_cons.mpr ⟨?_, h.2⟩
        simpa using hall

theorem finishes_addLocked (hs : Consistent s) (hp : ¬ Indexed s p) (hlt : p < s.allocated)
    (hkeyed : Keyed (s.accounts p)) :
    Finishes Consistent (Aborted s) ((addLocked p).run s) := by
  obtain ⟨mid, hmid, hrun⟩ : ∃ mid,
      (mid = s ∨ mid = s.change p .asTemporary) ∧ mid =
        if s.forceAllTemporary then s.change p .asTemporary else s := by
    by_cases h : s.forceAllTemporary
    · exact ⟨_, .inr rfl, (if_pos h).symm⟩
    · exact ⟨_, .inl rfl, (if_neg h).symm⟩
  have hunchanged : Unchanged s mid := by
    rcases hmid with rfl | rfl
    · exact .refl _
    · exact unchanged_change fun h => absurd h hp
  have hkeyedMid : Keyed (mid.accounts p) := by
    rcases hmid with rfl | rfl
    · exact hkeyed
    · rw [accounts_change_self]
      exact hkeyed
  have hconsistent := hs.of_unchanged hunchanged
  unfold addLocked
  rw [run_modify_bind, ← hrun]
  rcases run_checkUnregistered p mid LicenseKind.all with ⟨hok, hfree⟩ | ⟨what, herror⟩
  · rw [run_bind_of_ok hok, run_get_bind]
    rcases hfind : mid.findId searchRounds (mid.accounts p).accountId with _ | id
    · exact Aborted.of_unchanged hunchanged
        ⟨.refl mid, fun _ => allTaken_of_findId_eq_none hfind⟩
    · obtain ⟨hid, hne⟩ := findId_spec hfind
      change Consistent (LicenseKind.all.foldl _ (AccountIndex.withId p (mid.change p (.withId id))))
      rw [foldl_withLicenses]
      refine hconsistent.entered (fun h => hp (hunchanged.indexed_iff.mp h))
        (Nat.lt_of_lt_of_le hlt hunchanged.allocated) hkeyedMid (fun kind key hkey => ?_) hid hne
      exact hfree kind (by cases kind <;> decide) key (hkeyedMid.mem_ownKeys.mpr hkey)
  · rw [run_bind_of_error herror]
    exact Aborted.of_unchanged hunchanged (aborted_self (by simp))

theorem safe_remove (id : UInt32) : Safe (remove id) := by
  intro s hs
  unfold remove
  rw [run_get_bind]
  rcases hlookup : s.byAccountId[id]? with _ | p
  · exact aborted_self (by simp)
  · change Consistent (LicenseKind.all.foldl _ (s.withoutId id))
    rw [foldl_withoutLicenses]
    exact hs.left hlookup

theorem finishes_addLicense (hs : Consistent s) (hp : Indexed s p) (license : License kind) :
    Finishes Consistent (Aborted s) ((addLicense kind p license).run s) := by
  unfold addLicense
  rw [run_get_bind]
  by_cases hindexed : (s.byLicense kind).contains (kind.keyOf license) = true
  · rw [if_pos hindexed]
    exact aborted_self (by simp)
  · rw [if_neg hindexed]
    have hfree : kind.keyOf license ∉ s.byLicense kind := fun h =>
      hindexed (Std.ExtTreeMap.contains_iff_mem.mpr h)
    have hnot : ¬ ((s.accounts p).licenses kind).contains (kind.keyOf license) = true := fun h =>
      hfree (mem_iff_exists.mpr ⟨p, (hs.licenses kind _ p).mpr
        ⟨hp, Std.ExtTreeMap.contains_iff_mem.mp h⟩⟩)
    rw [if_neg hnot]
    exact hs.licensed hp hfree

theorem finishes_removeLicense (hs : Consistent s) (hp : Indexed s p) (key : Key kind) :
    Finishes Consistent (Aborted s) ((removeLicense kind p key).run s) := by
  unfold removeLicense
  rw [run_get_bind]
  rcases hlookup : ((s.accounts p).licenses kind)[key]? with _ | license
  · exact aborted_self (by simp)
  · obtain rfl := hs.keyed p hp kind key license hlookup
    have hmem : kind.keyOf license ∈ (s.accounts p).licenses kind := mem_iff_exists.mpr ⟨_, hlookup⟩
    have hindexed : (s.byLicense kind).contains (kind.keyOf license) = true :=
      Std.ExtTreeMap.contains_iff_mem.mpr
        (mem_iff_exists.mpr ⟨p, (hs.licenses kind _ p).mpr ⟨hp, hmem⟩⟩)
    dsimp only
    rw [if_pos hindexed]
    exact hs.unlicensed hp hmem

/-! Logging in. -/

theorem authenticate_ne_endless {key : Key kind} {now : UInt64}
    {check : Account → License kind → Except Exception Unit}
    (hcheck : ∀ a license, check a license ≠ .error .endless) :
    s.authenticate kind key now check ≠ .error .endless := by
  unfold authenticate
  rcases (s.byLicense kind)[key]? with _ | p
  · exact fun h => nomatch h
  · dsimp only
    rcases ((s.accounts p).licenses kind)[key]? with _ | license
    · exact fun h => nomatch h
    · dsimp only
      rcases hresult : check (s.accounts p) license with e | _
      · exact fun h => hcheck _ _ (hresult.trans (congrArg Except.error (Except.error.inj h)))
      · have hbanned : checkThat (!(s.accounts p).isBanned now) .accountBanned ≠ .error .endless :=
          checkThat_ne_endless (by simp)
        rcases hthat : checkThat (!(s.accounts p).isBanned now) .accountBanned with e | _
        · exact fun h => hbanned (hthat.trans (congrArg Except.error (Except.error.inj h)))
        · exact fun h => nomatch h

/-- A login with a license that the index has changes nothing. -/
theorem finishes_logIn {key : Key kind} {now : UInt64}
    {check : Account → License kind → Except Exception Unit}
    (hcheck : ∀ a license, check a license ≠ .error .endless) (s : AccountIndex) :
    Finishes (fun s' => s' = s) (Aborted s) ((logIn kind key now check).run s) := by
  unfold logIn
  rw [run_get_bind]
  rcases hresult : s.authenticate kind key now check with e | ⟨account, license⟩
  · refine aborted_self ?_
    rintro rfl
    exact authenticate_ne_endless hcheck hresult
  · exact rfl

theorem safe_logIn {key : Key kind} {now : UInt64}
    {check : Account → License kind → Except Exception Unit}
    (hcheck : ∀ a license, check a license ≠ .error .endless) : Safe (logIn kind key now check) := by
  intro s hs
  refine (finishes_logIn hcheck s).mono ?_ fun _ _ h => h
  rintro s' rfl
  exact hs

theorem safe_separateIfShared (fnv1a32 : Fnv1a32) (variationData : String) (login : Login) :
    Safe (separateIfShared fnv1a32 variationData login) := by
  intro s hs
  unfold separateIfShared
  rw [run_get_bind]
  by_cases hshared : (s.accounts login.account).checkFlag .isSharedAccount = true
  · rw [if_pos hshared]
    exact hs.of_unchanged (hs.unchanged_allocate _)
  · rw [if_neg hshared]
    exact hs

theorem safe_logInSeparately {key : Key kind} {now : UInt64} {fnv1a32 : Fnv1a32}
    {variationData : String} {check : Account → License kind → Except Exception Unit}
    (hcheck : ∀ a license, check a license ≠ .error .endless) :
    Safe (do
      let login ← logIn kind key now check
      separateIfShared fnv1a32 variationData login) := by
  intro s hs
  refine (finishes_logIn hcheck s).bind ?_
  rintro login s' rfl
  exact safe_separateIfShared fnv1a32 variationData login s' hs

theorem checkAccessKey_ne_endless (expected accessKey : String) :
    checkAccessKey expected accessKey ≠ .error .endless :=
  checkThat_ne_endless (by simp)

theorem checkAccessKeyUnlessShared_ne_endless (a : Account) (expected accessKey : String) :
    checkAccessKeyUnlessShared a expected accessKey ≠ .error .endless := by
  unfold checkAccessKeyUnlessShared
  split_ifs
  · exact fun h => nomatch h
  · exact checkAccessKey_ne_endless expected accessKey

theorem checkPassword_ne_endless (expected : String) (password : Option String) :
    checkPassword expected password ≠ .error .endless := by
  cases password with
  | none => exact fun h => nomatch h
  | some password => exact checkThat_ne_endless (by simp)

theorem checkGc_ne_endless (a : Account) (license : GcLicense) (accessKey : String)
    (password : Option String) :
    (do
      checkAccessKeyUnlessShared a license.accessKey accessKey
      checkPassword license.password password) ≠ .error .endless := by
  rcases hkey : checkAccessKeyUnlessShared a license.accessKey accessKey with e | _
  · exact fun h => checkAccessKeyUnlessShared_ne_endless a license.accessKey accessKey (hkey.trans h)
  · exact checkPassword_ne_endless license.password password

theorem Safe.unlessOutOfRange (hx : Safe x) (hy : Safe y) : Safe (unlessOutOfRange x y) := by
  intro s hs
  unfold Accounts.unlessOutOfRange
  rw [run_tryCatch]
  have hfirst := hx s hs
  rcases hrun : x.run s with ⟨login, s'⟩ | ⟨e, s'⟩
  · rw [hrun] at hfirst
    exact hfirst
  · rw [hrun] at hfirst
    have hsecond : Finishes Consistent (Aborted s) (y.run s') :=
      (hy s' (hs.of_unchanged hfirst.1)).mono (fun _ h => h) fun _ _ h => h.of_unchanged hfirst.1
    cases e with
    | outOfRange what => exact hsecond
    | _ => exact hfirst

theorem safe_throw {e : Exception} (h : e ≠ .endless) : Safe (throw e : Program α) :=
  fun _ _ => aborted_self h

theorem keyed_new : Keyed .new := by
  intro kind key license h
  cases h.symm.trans (Std.ExtTreeMap.getElem?_empty (a := key))

theorem safe_createAccount (accountId : UInt32) (isTemporary : Bool) (license : License kind) :
    Safe (createAccount accountId isTemporary kind license) := by
  intro s hs
  let a : Account := { Account.new with accountId := accountId, isTemporary := isTemporary }
  have hunchanged := hs.unchanged_allocate (a.withLicense kind license)
  have hkeyed : Keyed ((s.allocate (a.withLicense kind license)).accounts s.allocated) := by
    have hself : (s.allocate (a.withLicense kind license)).accounts s.allocated =
        a.withLicense kind license := Function.update_self ..
    rw [hself]
    exact Keyed.withLicense keyed_new
  have hadd := finishes_addLocked (hs.of_unchanged hunchanged)
    (fun h => hs.not_indexed_allocated (hunchanged.indexed_iff.mp h)) (Nat.lt_succ_self _) hkeyed
  change Finishes _ _ ((addLocked s.allocated >>= fun _ =>
    (pure ⟨true, s.allocated, kind, license⟩ : Program Login)).run (s.allocate (a.withLicense kind license)))
  refine Finishes.bind (hadd.mono (fun _ h => h) fun _ _ h => h.of_unchanged hunchanged) ?_
  exact fun _ _ h => h

theorem Safe.fromCredentials {allowCreate : Bool} (hx : Safe x) (hy : Safe y) :
    Safe (fromCredentials x allowCreate y) := by
  refine hx.unlessOutOfRange (hx.unlessOutOfRange ?_)
  cases allowCreate
  · exact safe_throw (by simp)
  · exact hy

theorem safe_ite {condition : Prop} [Decidable condition] {e : Exception} (he : e ≠ .endless)
    (hx : Safe x) : Safe (if condition then throw e else x) := by
  split_ifs
  · exact safe_throw he
  · exact hx

end Programs

/-! ## Runs -/

/-- The calls. The clock and the random source give any values. -/
inductive Op where
  | make (account : Account)
  | edit (account : Pointer) (value : Account)
  | add (account : Pointer)
  | remove (accountId : UInt32)
  | addDcNteLicense (account : Pointer) (license : DcNteLicense)
  | addDcLicense (account : Pointer) (license : V1V2License)
  | addPcLicense (account : Pointer) (license : V1V2License)
  | addGcLicense (account : Pointer) (license : GcLicense)
  | addXbLicense (account : Pointer) (license : XbLicense)
  | addBbLicense (account : Pointer) (license : BbLicense)
  | removeDcNteLicense (account : Pointer) (serialNumber : String)
  | removeDcLicense (account : Pointer) (serialNumber : UInt32)
  | removePcLicense (account : Pointer) (serialNumber : UInt32)
  | removeGcLicense (account : Pointer) (serialNumber : UInt32)
  | removeXbLicense (account : Pointer) (userId : UInt64)
  | removeBbLicense (account : Pointer) (username : String)
  | fromDcNteCredentials (now : UInt64) (serialNumber accessKey : String) (allowCreate : Bool)
  | fromDcCredentials (now : UInt64) (serialNumber : UInt32) (accessKey characterName : String)
      (allowCreate : Bool)
  | fromPcNteCredentials (random guildCardNumber : UInt32) (allowCreate : Bool)
  | fromPcCredentials (now : UInt64) (serialNumber : UInt32) (accessKey characterName : String)
      (allowCreate : Bool)
  | fromGcCredentials (now : UInt64) (serialNumber : UInt32) (accessKey : String)
      (password : Option String) (characterName : String) (allowCreate : Bool)
  | fromXbCredentials (now : UInt64) (gamertag : String) (userId accountId : UInt64)
      (allowCreate : Bool)
  | fromBbCredentials (now : UInt64) (username : String) (password : Option String)
      (allowCreate : Bool)

/-- Only the credentials give a result, which the index is done with. -/
def done (x : Program Login) : Program Unit := do
  let _ ← x

def program (fnv1a32 : Fnv1a32) : Op → Program Unit
  | .make account => modify (allocate account)
  | .edit account value => modify (change account fun _ => value)
  | .add account => add account
  | .remove accountId => remove accountId
  | .addDcNteLicense account license => addDcNteLicense account license
  | .addDcLicense account license => addDcLicense account license
  | .addPcLicense account license => addPcLicense account license
  | .addGcLicense account license => addGcLicense account license
  | .addXbLicense account license => addXbLicense account license
  | .addBbLicense account license => addBbLicense account license
  | .removeDcNteLicense account serialNumber => removeDcNteLicense account serialNumber
  | .removeDcLicense account serialNumber => removeDcLicense account serialNumber
  | .removePcLicense account serialNumber => removePcLicense account serialNumber
  | .removeGcLicense account serialNumber => removeGcLicense account serialNumber
  | .removeXbLicense account userId => removeXbLicense account userId
  | .removeBbLicense account username => removeBbLicense account username
  | .fromDcNteCredentials now serialNumber accessKey allowCreate =>
    done (fromDcNteCredentials fnv1a32 now serialNumber accessKey allowCreate)
  | .fromDcCredentials now serialNumber accessKey characterName allowCreate =>
    done (fromDcCredentials fnv1a32 now serialNumber accessKey characterName allowCreate)
  | .fromPcNteCredentials random guildCardNumber allowCreate =>
    done (fromPcNteCredentials random guildCardNumber allowCreate)
  | .fromPcCredentials now serialNumber accessKey characterName allowCreate =>
    done (fromPcCredentials fnv1a32 now serialNumber accessKey characterName allowCreate)
  | .fromGcCredentials now serialNumber accessKey password characterName allowCreate =>
    done (fromGcCredentials fnv1a32 now serialNumber accessKey password characterName allowCreate)
  | .fromXbCredentials now gamertag userId accountId allowCreate =>
    done (fromXbCredentials fnv1a32 now gamertag userId accountId allowCreate)
  | .fromBbCredentials now username password allowCreate =>
    done (fromBbCredentials fnv1a32 now username password allowCreate)

/-- The calls that the operations are made for. The ID and the licenses of an
account in the index are left to the index. -/
def Permitted (s : AccountIndex) : Op → Prop
  | .edit p value => Indexed s p →
    value.accountId = (s.accounts p).accountId ∧ value.licenses = (s.accounts p).licenses
  | .add p => p < s.allocated ∧ ¬ Indexed s p ∧ Keyed (s.accounts p)
  | .addDcNteLicense p _ => Indexed s p
  | .addDcLicense p _ => Indexed s p
  | .addPcLicense p _ => Indexed s p
  | .addGcLicense p _ => Indexed s p
  | .addXbLicense p _ => Indexed s p
  | .addBbLicense p _ => Indexed s p
  | .removeDcNteLicense p _ => Indexed s p
  | .removeDcLicense p _ => Indexed s p
  | .removePcLicense p _ => Indexed s p
  | .removeGcLicense p _ => Indexed s p
  | .removeXbLicense p _ => Indexed s p
  | .removeBbLicense p _ => Indexed s p
  | _ => True

/-- The states that calls lead to, which may return or throw. -/
inductive Reachable (fnv1a32 : Fnv1a32) (forceAllTemporary : Bool) : AccountIndex → Prop where
  | empty : Reachable fnv1a32 forceAllTemporary (.empty forceAllTemporary)
  | call (op : Op) {s : AccountIndex} : Reachable fnv1a32 forceAllTemporary s → Permitted s op →
      Reachable fnv1a32 forceAllTemporary (finalState ((program fnv1a32 op).run s))

section Runs

variable {s : AccountIndex}

theorem Safe.done {x : Program Login} (h : Safe x) : Safe (done x) := by
  intro s hs
  exact (h s hs).bind fun _ _ hmid => hmid

theorem finishes_program (fnv1a32 : Fnv1a32) (op : Op) (hs : Consistent s) (hop : Permitted s op) :
    Finishes Consistent (Aborted s) ((program fnv1a32 op).run s) := by
  cases op with
  | make a => exact hs.of_unchanged (hs.unchanged_allocate a)
  | edit p value => exact hs.of_unchanged (unchanged_change hop)
  | add p => exact finishes_addLocked hs hop.2.1 hop.1 hop.2.2
  | remove id => exact safe_remove id s hs
  | addDcNteLicense p license => exact finishes_addLicense hs hop _
  | addDcLicense p license => exact finishes_addLicense hs hop _
  | addPcLicense p license => exact finishes_addLicense hs hop _
  | addGcLicense p license => exact finishes_addLicense hs hop _
  | addXbLicense p license => exact finishes_addLicense hs hop _
  | addBbLicense p license => exact finishes_addLicense hs hop _
  | removeDcNteLicense p key => exact finishes_removeLicense hs hop _
  | removeDcLicense p key => exact finishes_removeLicense hs hop _
  | removePcLicense p key => exact finishes_removeLicense hs hop _
  | removeGcLicense p key => exact finishes_removeLicense hs hop _
  | removeXbLicense p key => exact finishes_removeLicense hs hop _
  | removeBbLicense p key => exact finishes_removeLicense hs hop _
  | fromDcNteCredentials now serialNumber accessKey allowCreate =>
      refine (safe_ite (by simp) (Safe.fromCredentials (safe_logIn ?_) ?_)).done s hs
      · exact fun _ license => checkAccessKey_ne_endless license.accessKey accessKey
      · exact safe_createAccount _ _ _
  | fromDcCredentials now serialNumber accessKey characterName allowCreate =>
      refine (safe_ite (by simp) (Safe.fromCredentials (safe_logInSeparately ?_) ?_)).done s hs
      · exact fun a license => checkAccessKeyUnlessShared_ne_endless a license.accessKey accessKey
      · exact safe_createAccount _ _ _
  | fromPcNteCredentials random guildCardNumber allowCreate =>
      exact (safe_ite (by simp) (safe_createAccount _ _ _)).done s hs
  | fromPcCredentials now serialNumber accessKey characterName allowCreate =>
      refine (safe_ite (by simp) (Safe.fromCredentials (safe_logInSeparately ?_) ?_)).done s hs
      · exact fun a license => checkAccessKeyUnlessShared_ne_endless a license.accessKey accessKey
      · exact safe_createAccount _ _ _
  | fromGcCredentials now serialNumber accessKey password characterName allowCreate =>
      refine (safe_ite (by simp) (Safe.fromCredentials (safe_logInSeparately ?_) ?_)).done s hs
      · exact fun a license => checkGc_ne_endless a license accessKey password
      · exact safe_createAccount _ _ _
  | fromXbCredentials now gamertag userId accountId allowCreate =>
      refine (safe_ite (by simp) (Safe.fromCredentials (safe_logIn ?_) ?_)).done s hs
      · exact fun _ _ h => nomatch h
      · exact safe_createAccount _ _ _
  | fromBbCredentials now username password allowCreate =>
      refine (safe_ite (by simp) (Safe.fromCredentials (safe_logIn ?_) ?_)).done s hs
      · exact fun _ license => checkPassword_ne_endless license.password password
      · exact safe_createAccount _ _ _

theorem consistent_empty (forceAllTemporary : Bool) : Consistent (.empty forceAllTemporary) := by
  have hnone (p : Pointer) : ¬ Indexed (.empty forceAllTemporary) p := by
    rintro ⟨id, h⟩
    cases h.symm.trans (Std.ExtTreeMap.getElem?_empty (a := id))
  refine ⟨fun kind key p => ?_, fun id p h => absurd ⟨id, h⟩ (hnone p),
    fun p h => absurd h (hnone p), fun p h => absurd h (hnone p)⟩
  refine iff_of_false (fun h => ?_) fun h => hnone p h.1
  cases h.symm.trans (Std.ExtTreeMap.getElem?_empty (a := key))

theorem consistent_of_reachable {fnv1a32 : Fnv1a32} {forceAllTemporary : Bool}
    (h : Reachable fnv1a32 forceAllTemporary s) : Consistent s := by
  induction h with
  | empty => exact consistent_empty forceAllTemporary
  | call op _ hop ih =>
      have hend := finishes_program fnv1a32 op ih hop
      rcases hrun : (program fnv1a32 op).run _ with ⟨_, s'⟩ | ⟨e, s'⟩
      · rw [hrun] at hend
        exact hend
      · rw [hrun] at hend
        exact ih.of_unchanged hend.1

/-- What holds in every state that calls lead to. -/
theorem index_of_reachable {fnv1a32 : Fnv1a32} {forceAllTemporary : Bool}
    (h : Reachable fnv1a32 forceAllTemporary s) :
    (∀ kind key p, (s.byLicense kind)[key]? = some p ↔
        Indexed s p ∧ ∃ license, ((s.accounts p).licenses kind)[key]? = some license ∧
          kind.keyOf license = key) ∧
      (∀ (id : UInt32) p, s.byAccountId[id]? = some p →
        (s.accounts p).accountId = id ∧ id ≠ 0 ∧ id ≠ 0xFFFFFFFF) ∧
      (∀ op, Permitted s op → ∀ e s', (program fnv1a32 op).run s = .error e s' → Unchanged s s') ∧
      (∀ free : UInt32, 1 ≤ free → free ≤ 0x7FFFFFFF → free ∉ s.byAccountId →
        (∀ start, ∃ id, s.findId searchRounds start = some id) ∧
          ∀ op, Permitted s op → ∀ s', (program fnv1a32 op).run s ≠ .error .endless s') := by
  have hs := consistent_of_reachable h
  have hthrown {op : Op} (hop : Permitted s op) {e : Exception} {s' : AccountIndex}
      (hrun : (program fnv1a32 op).run s = .error e s') : Aborted s e s' := by
    have hend := finishes_program fnv1a32 op hs hop
    rw [hrun] at hend
    exact hend
  refine ⟨fun kind key p => ?_, hs.ids, fun op hop e s' hrun => (hthrown hop hrun).1, ?_⟩
  · rw [hs.licenses, mem_iff_exists]
    refine and_congr_right fun hp => exists_congr fun license => ?_
    exact (and_iff_left_of_imp fun hlookup => hs.keyed p hp kind key license hlookup).symm
  · intro free hone hmask hfree
    refine ⟨exists_findId hone hmask hfree, fun op hop s' hrun => ?_⟩
    exact hfree ((hthrown hop hrun).2 rfl free hone hmask)

/-- The hash function of the library. -/
def sampleFnv1a32 : Fnv1a32 := fun data hash =>
  data.foldl (fun h b => (h ^^^ b.toUInt32) * 0x01000193) (hash.getD 0x811C9DC5)

/-- A player logs in, and the account gets a second license. -/
def sampleIndex : AccountIndex :=
  finalState ((program sampleFnv1a32 (.addBbLicense 0 ⟨"user", "password"⟩)).run
    (finalState ((program sampleFnv1a32 (.fromDcCredentials 0 5 "key" "name" true)).run
      (.empty false))))

theorem reachable_sampleIndex : Reachable sampleFnv1a32 false sampleIndex := by
  refine .call _ (.call _ .empty trivial) ?_
  exact ⟨5, by decide +kernel⟩

theorem index_of_reachable_sampleIndex :
    sampleIndex.byBbUsername["user"]? = some 0 ∧
      (∀ op, Permitted sampleIndex op → ∀ e s', (program sampleFnv1a32 op).run sampleIndex = .error e s' →
        Unchanged sampleIndex s') ∧
      ∀ start, ∃ id, sampleIndex.findId searchRounds start = some id := by
  obtain ⟨-, -, hthrown, hsearch⟩ := index_of_reachable reachable_sampleIndex
  exact ⟨by decide +kernel, hthrown,
    (hsearch 1 (by decide) (by decide) (by decide +kernel)).1⟩

end Runs

end HuntersGuild.AccountConsistency
