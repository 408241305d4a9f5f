import Mathlib.Data.List.Basic

/-!
Lookups in ordered maps after a change, and the first entry of a map.
-/

namespace HuntersGuild.OrderedMaps

universe u v

variable {κ : Type u} {ν : Type v} {cmp : κ → κ → Ordering} [Std.TransCmp cmp]
  {m : Std.ExtTreeMap κ ν cmp} {k a : κ} {v : ν}

/-- The value at the least key. -/
def first? (m : Std.ExtTreeMap κ ν cmp) : Option ν := m.minKey?.bind (m[·]?)

/-- The entry at the greatest key up to `k`. -/
def floor? (m : Std.ExtTreeMap κ ν cmp) (k : κ) : Option (κ × ν) :=
  (m.toList.filter fun entry => (cmp entry.1 k).isLE).getLast?

theorem mem_iff_exists : k ∈ m ↔ ∃ v, m[k]? = some v := by
  rw [Std.ExtTreeMap.mem_iff_isSome_getElem?, Option.isSome_iff_exists]

theorem lookup_eq_none_iff : m[k]? = none ↔ k ∉ m := by
  rw [mem_iff_exists, Option.eq_none_iff_forall_not_mem, not_exists]
  exact Iff.rfl

theorem size_erase_lt (h : k ∈ m) : (m.erase k).size < m.size := by
  have hpos : m.size ≠ 0 := by
    intro hzero
    rw [← Std.ExtTreeMap.eq_empty_iff_size_eq_zero] at hzero
    rw [hzero] at h
    exact Std.ExtTreeMap.not_mem_empty h
  rw [Std.ExtTreeMap.size_erase, if_pos (Std.ExtTreeMap.contains_iff_mem.mpr h)]
  omega

theorem exists_first? (h : 0 < m.size) : ∃ v, first? m = some v := by
  have hne : m ≠ ∅ := by
    intro hempty
    rw [hempty, Std.ExtTreeMap.size_empty] at h
    exact Nat.lt_irrefl 0 h
  obtain ⟨k, hk⟩ := Option.isSome_iff_exists.mp (Std.ExtTreeMap.isSome_minKey?_iff_ne_empty.mpr hne)
  obtain ⟨v, hv⟩ := mem_iff_exists.mp (Std.ExtTreeMap.minKey?_mem hk)
  exact ⟨v, by rw [first?, hk]; exact hv⟩

/-- In an ordered list the last entry of a part is the greatest one. -/
theorem isLE_of_getLast? {entries : List (κ × ν)} (p : κ × ν → Bool)
    (hordered : entries.Pairwise fun x y => cmp x.1 y.1 = .lt) {entry : κ × ν}
    (hlast : (entries.filter p).getLast? = some entry) {other : κ × ν}
    (hother : other ∈ entries.filter p) : (cmp other.1 entry.1).isLE := by
  obtain ⟨before, hsplit⟩ := List.getLast?_eq_some_iff.mp hlast
  have hordered := hordered.filter p
  rw [hsplit] at hother hordered
  rcases List.mem_append.mp hother with hbefore | hself
  · have hlt := (List.pairwise_append.mp hordered).2.2 other hbefore entry List.mem_cons_self
    rw [hlt]
    rfl
  · have heq : cmp entry.1 entry.1 = .eq := Std.ReflCmp.compare_self
    rw [List.mem_singleton.mp hself, heq]
    rfl

variable [Std.LawfulEqCmp cmp]

theorem lookup_insertIfNew [DecidableEq κ] (hfree : k ∉ m) :
    (m.insertIfNew k v)[a]? = if k = a then some v else m[a]? := by
  rw [Std.ExtTreeMap.getElem?_insertIfNew]
  refine if_congr ?_ rfl rfl
  rw [Std.LawfulEqCmp.compare_eq_iff_eq]
  exact and_iff_left hfree

theorem lookup_erase_eq_some :
    (m.erase k)[a]? = some v ↔ k ≠ a ∧ m[a]? = some v := by
  have heq : cmp k a = .eq ↔ k = a := Std.LawfulEqCmp.compare_eq_iff_eq
  rw [Std.ExtTreeMap.getElem?_erase]
  split_ifs with h
  · simp [heq.mp h]
  · simp [mt heq.mpr h]

theorem keys_nodup (m : Std.ExtTreeMap κ ν cmp) : (m.toList.map (·.1)).Nodup := by
  change (m.toList.map Prod.fst).Nodup
  rw [Std.ExtTreeMap.map_fst_toList_eq_keys]
  refine m.distinct_keys.imp ?_
  intro a b hab heq
  exact hab (Std.LawfulEqCmp.compare_eq_iff_eq.mpr heq)

theorem first?_eq_some :
    first? m = some v ↔ ∃ k, m[k]? = some v ∧ ∀ a ∈ m, (cmp k a).isLE := by
  constructor
  · intro h
    obtain ⟨k, hk, hv⟩ := Option.bind_eq_some_iff.mp h
    exact ⟨k, hv, (Std.ExtTreeMap.minKey?_eq_some_iff_mem_and_forall.mp hk).2⟩
  · rintro ⟨k, hv, hleast⟩
    have hk : m.minKey? = some k :=
      Std.ExtTreeMap.minKey?_eq_some_iff_mem_and_forall.mpr ⟨mem_iff_exists.mpr ⟨v, hv⟩, hleast⟩
    rw [first?, hk]
    exact hv

theorem mem_filter_toList {entry : κ × ν} :
    (entry ∈ m.toList.filter fun e => (cmp e.1 k).isLE) ↔
      m[entry.1]? = some entry.2 ∧ (cmp entry.1 k).isLE := by
  rw [List.mem_filter, Std.ExtTreeMap.mem_toList_iff_getElem?_eq_some]

theorem floor?_spec {entry : κ × ν} (h : floor? m k = some entry) :
    m[entry.1]? = some entry.2 ∧ (cmp entry.1 k).isLE ∧
      ∀ a ∈ m, (cmp a k).isLE → (cmp a entry.1).isLE := by
  obtain ⟨hlookup, hle⟩ := mem_filter_toList.mp (List.mem_of_getLast? h)
  refine ⟨hlookup, hle, ?_⟩
  intro a ha hak
  obtain ⟨v, hv⟩ := mem_iff_exists.mp ha
  exact isLE_of_getLast? _ m.ordered_keys_toList h (mem_filter_toList.mpr ⟨hv, hak⟩ : (a, v) ∈ _)

theorem exists_floor? (ha : a ∈ m) (hak : (cmp a k).isLE) : ∃ entry, floor? m k = some entry := by
  obtain ⟨v, hv⟩ := mem_iff_exists.mp ha
  have hmem : (a, v) ∈ m.toList.filter fun e => (cmp e.1 k).isLE :=
    mem_filter_toList.mpr ⟨hv, hak⟩
  exact Option.ne_none_iff_exists'.mp fun hnone =>
    List.ne_nil_of_mem hmem (List.getLast?_eq_none_iff.mp hnone)

theorem map_find?_toList [DecidableEq κ] (m : Std.ExtTreeMap κ ν cmp) (a : κ) :
    (m.toList.find? fun entry => entry.1 = a).map Prod.snd = m[a]? := by
  rcases hfind : m.toList.find? (fun entry => entry.1 = a) with _ | entry
  · rw [hfind]
    refine (lookup_eq_none_iff.mpr ?_).symm
    intro hmem
    obtain ⟨v, hv⟩ := mem_iff_exists.mp hmem
    have := List.find?_eq_none.mp hfind (a, v)
      (Std.ExtTreeMap.mem_toList_iff_getElem?_eq_some.mpr hv)
    rw [decide_eq_true_eq] at this
    exact this rfl
  · have hkey := List.find?_some hfind
    rw [decide_eq_true_eq] at hkey
    have hlookup := Std.ExtTreeMap.mem_toList_iff_getElem?_eq_some.mp
      (List.mem_of_find?_eq_some hfind)
    rw [hfind, Option.map_some, ← hkey, hlookup]

/-- In a map that is filled from a list the first entry for a key counts. -/
theorem lookup_foldl_insertIfNew {ι : Type} [DecidableEq κ] (key : ι → κ) (value : ι → ν)
    (items : List ι) (m : Std.ExtTreeMap κ ν cmp) (a : κ) :
    (items.foldl (fun m item => m.insertIfNew (key item) (value item)) m)[a]? =
      m[a]?.or ((items.find? fun item => key item = a).map value) := by
  induction items generalizing m with
  | nil => exact Option.or_none.symm
  | cons item items ih =>
      rw [List.foldl_cons, ih, List.find?_cons]
      by_cases hmem : key item ∈ m
      · have hsame : (m.insertIfNew (key item) (value item))[a]? = m[a]? := by
          rw [Std.ExtTreeMap.getElem?_insertIfNew, if_neg fun h => h.2 hmem]
        rw [hsame]
        by_cases heq : key item = a
        · obtain ⟨v, hv⟩ := mem_iff_exists.mp (heq ▸ hmem)
          rw [hv]
          rfl
        · rw [decide_eq_false heq]
      · rw [lookup_insertIfNew hmem]
        by_cases heq : key item = a
        · have hnone : m[a]? = none := lookup_eq_none_iff.mpr (heq ▸ hmem)
          rw [if_pos heq, decide_eq_true heq, hnone]
          rfl
        · rw [if_neg heq, decide_eq_false heq]

theorem lookup_foldl_insert [DecidableEq κ] (keys : List κ) (m : Std.ExtTreeMap κ ν cmp) (v : ν)
    (a : κ) :
    (keys.foldl (fun m key => m.insert key v) m)[a]? = if a ∈ keys then some v else m[a]? := by
  induction keys generalizing m with
  | nil => exact (if_neg List.not_mem_nil).symm
  | cons key keys ih =>
      rw [List.foldl_cons, ih, Std.ExtTreeMap.getElem?_insert]
      by_cases hmem : a ∈ keys
      · rw [if_pos hmem, if_pos (List.mem_cons_of_mem key hmem)]
      · rw [if_neg hmem]
        refine if_congr ?_ rfl rfl
        rw [Std.LawfulEqCmp.compare_eq_iff_eq, List.mem_cons, or_iff_left hmem, eq_comm]

theorem lookup_foldl_erase (keys : List κ) (m : Std.ExtTreeMap κ ν cmp) (a : κ) (v : ν) :
    (keys.foldl (fun m key => m.erase key) m)[a]? = some v ↔ a ∉ keys ∧ m[a]? = some v := by
  induction keys generalizing m with
  | nil => simp
  | cons key keys ih =>
      rw [List.foldl_cons, ih, lookup_erase_eq_some, List.mem_cons, not_or, ne_comm]
      exact ⟨fun h => ⟨⟨h.2.1, h.1⟩, h.2.2⟩, fun h => ⟨h.1.2, h.1.1, h.2⟩⟩

/-! The entries of a map after a change. -/

theorem insertIfNew_of_mem [DecidableEq κ] (hmem : k ∈ m) : m.insertIfNew k v = m := by
  refine Std.ExtTreeMap.ext_getElem? ?_
  intro a
  rw [Std.ExtTreeMap.getElem?_insertIfNew, if_neg fun h => h.2 hmem]

theorem lookup_modify [DecidableEq κ] (f : ν → ν) :
    (m.modify k f)[a]? = if k = a then m[a]?.map f else m[a]? := by
  rw [Std.ExtTreeMap.getElem?_modify]
  by_cases heq : k = a
  · subst heq
    rw [if_pos Std.ReflCmp.compare_self, if_pos rfl]
  · rw [if_neg (mt Std.LawfulEqCmp.compare_eq_iff_eq.mp heq), if_neg heq]

theorem toList_nodup (m : Std.ExtTreeMap κ ν cmp) : m.toList.Nodup := by
  have hkeys := keys_nodup m
  rw [List.Nodup, List.pairwise_map] at hkeys
  exact hkeys.imp fun hne heq => hne (congrArg Prod.fst heq)

theorem toList_perm_iff {entries : List (κ × ν)} (hnodup : entries.Nodup) :
    m.toList.Perm entries ↔ ∀ entry, m[entry.1]? = some entry.2 ↔ entry ∈ entries := by
  rw [List.perm_ext_iff_of_nodup (toList_nodup m) hnodup]
  refine forall_congr' fun entry => ?_
  rw [Std.ExtTreeMap.mem_toList_iff_getElem?_eq_some]

theorem notMem_toList_erase (m : Std.ExtTreeMap κ ν cmp) (k : κ) (v : ν) :
    (k, v) ∉ (m.erase k).toList := by
  rw [Std.ExtTreeMap.mem_toList_iff_getElem?_eq_some, lookup_erase_eq_some]
  exact fun h => h.1 rfl

theorem toList_perm_erase (h : m[k]? = some v) : m.toList.Perm ((k, v) :: (m.erase k).toList) := by
  refine (toList_perm_iff (List.nodup_cons.mpr ⟨notMem_toList_erase m k v, toList_nodup _⟩)).mpr ?_
  rintro ⟨a, w⟩
  rw [List.mem_cons, Std.ExtTreeMap.mem_toList_iff_getElem?_eq_some, lookup_erase_eq_some, Prod.mk.injEq]
  constructor
  · intro hentry
    by_cases heq : k = a
    · subst heq
      exact .inl ⟨rfl, Option.some.inj (hentry.symm.trans h)⟩
    · exact .inr ⟨heq, hentry⟩
  · rintro (⟨rfl, rfl⟩ | ⟨-, hentry⟩)
    · exact h
    · exact hentry

theorem erase_modify [DecidableEq κ] (f : ν → ν) : (m.modify k f).erase k = m.erase k := by
  refine Std.ExtTreeMap.ext_getElem? fun a => Option.ext fun w => ?_
  rw [lookup_erase_eq_some, lookup_erase_eq_some, lookup_modify]
  refine and_congr_right fun hne => ?_
  rw [if_neg hne]

theorem toList_modify_perm [DecidableEq κ] (f : ν → ν) (h : m[k]? = some v) :
    (m.modify k f).toList.Perm ((k, f v) :: (m.erase k).toList) := by
  have hlookup : (m.modify k f)[k]? = some (f v) := by rw [lookup_modify, if_pos rfl, h]; rfl
  have hperm := toList_perm_erase hlookup
  rwa [erase_modify] at hperm

theorem toList_insertIfNew_perm [DecidableEq κ] (hfree : k ∉ m) :
    (m.insertIfNew k v).toList.Perm ((k, v) :: m.toList) := by
  have hnot : (k, v) ∉ m.toList := by
    rw [Std.ExtTreeMap.mem_toList_iff_getElem?_eq_some]
    exact fun h => hfree (mem_iff_exists.mpr ⟨v, h⟩)
  refine (toList_perm_iff (List.nodup_cons.mpr ⟨hnot, toList_nodup m⟩)).mpr ?_
  rintro ⟨a, w⟩
  rw [List.mem_cons, Std.ExtTreeMap.mem_toList_iff_getElem?_eq_some, Prod.mk.injEq,
    lookup_insertIfNew hfree]
  split_ifs with heq
  · subst heq
    constructor
    · exact fun h => .inl ⟨rfl, (Option.some.inj h).symm⟩
    · rintro (⟨-, rfl⟩ | h)
      · rfl
      · exact absurd (mem_iff_exists.mpr ⟨w, h⟩) hfree
  · exact ⟨.inr, fun h => h.resolve_left fun hpair => heq hpair.1.symm⟩

end HuntersGuild.OrderedMaps
