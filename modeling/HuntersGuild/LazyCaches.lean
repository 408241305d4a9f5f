import HuntersGuild.StatefulPrograms

/-!
Tables whose entries are parsed when they are first looked up, and lookups
that give what the table holds whatever was looked up before.
-/

namespace HuntersGuild.LazyCaches

open HuntersGuild.StatefulPrograms

universe u

variable {ε κ α : Type u}

/-- The same entry, or exceptions of the same kind. -/
def Agree (kind : ε → ε → Prop) : Except ε α → Except ε α → Prop
  | .ok a, .ok b => a = b
  | .error e, .error f => kind e f
  | _, _ => False

theorem Agree.trans {kind : ε → ε → Prop} (hkind : ∀ e f g, kind e f → kind f g → kind e g)
    {x y z : Except ε α} (hxy : Agree kind x y) (hyz : Agree kind y z) : Agree kind x z := by
  cases x <;> cases y <;> cases z
  all_goals first | exact hxy.elim | exact hyz.elim | skip
  · exact hkind _ _ _ hxy hyz
  · exact Eq.trans hxy hyz

theorem Agree.symm {kind : ε → ε → Prop} (hkind : ∀ e f, kind e f → kind f e)
    {x y : Except ε α} (h : Agree kind x y) : Agree kind y x := by
  cases x <;> cases y
  · exact hkind _ _ h
  · exact h.elim
  · exact h.elim
  · exact Eq.symm h

theorem agree_refl {kind : ε → ε → Prop} {x : Except ε α}
    (hkind : ∀ e, x = .error e → kind e e) : Agree kind x x := by
  cases x with
  | ok a => exact rfl
  | error e => exact hkind e rfl

/-! ## Lists that grow up to the index that is looked up -/

section Growing

variable {read : Nat → Except ε α} {blank : α} {placeholder : List α} {populated : α → Bool}

/-- Reads `count` more entries. The placeholder is in the list while an entry
is read, and stays there when that throws. -/
def grow (read : Nat → Except ε α) (placeholder : List α) : Nat → EStateM ε (List α) PUnit
  | 0 => pure ⟨⟩
  | count + 1 => do
      let cache ← get
      set (cache ++ placeholder)
      let entry ← fromExcept (read cache.length)
      set (cache ++ [entry])
      grow read placeholder count

/-- An entry that is there and populated is the result. Otherwise the list
grows until it has the index. -/
def lookup (read : Nat → Except ε α) (blank : α) (placeholder : List α) (populated : α → Bool)
    (idx : Nat) : EStateM ε (List α) α := do
  let cache ← get
  match cache[idx]?.filter populated with
  | some entry => return entry
  | none => do
      grow read placeholder (idx + 1 - cache.length)
      let cache ← get
      return cache.getD idx blank

/-- The entries that can be read come first. -/
def Initial (read : Nat → Except ε α) : Prop :=
  ∀ i j a, i ≤ j → read j = .ok a → ∃ b, read i = .ok b

/-- Where the table has an entry, the list has the same one. -/
def Faithful (read : Nat → Except ε α) (cache : List α) : Prop :=
  ∀ i x a, cache[i]? = some x → read i = .ok a → x = a

/-- The list holds entries of the table only. -/
def Exact (read : Nat → Except ε α) (cache : List α) : Prop :=
  ∀ i x, cache[i]? = some x → read i = .ok x

theorem grow_run (read : Nat → Except ε α) (placeholder : List α) (count : Nat)
    (cache : List α) :
    ∃ entries : List α,
      (∀ k x, entries[k]? = some x → read (cache.length + k) = .ok x) ∧
      ((grow read placeholder count).run cache = .ok ⟨⟩ (cache ++ entries) ∧
          entries.length = count ∨
        ∃ e, (grow read placeholder count).run cache = .error e (cache ++ entries ++ placeholder) ∧
          entries.length < count ∧ read (cache.length + entries.length) = .error e) := by
  induction count generalizing cache with
  | zero =>
      refine ⟨[], fun k x hx => (nomatch hx), .inl ⟨?_, rfl⟩⟩
      rw [List.append_nil]
      rfl
  | succ count ih =>
      have hrun : (grow read placeholder (count + 1)).run cache =
          (fromExcept (read cache.length) >>= fun entry =>
            set (cache ++ [entry]) >>= fun _ => grow read placeholder count).run
              (cache ++ placeholder) := rfl
      cases hread : read cache.length with
      | error e =>
          rw [hread] at hrun
          refine ⟨[], fun k x hx => (nomatch hx), .inr ⟨e, ?_, Nat.succ_pos _, hread⟩⟩
          rw [List.append_nil]
          exact hrun
      | ok entry =>
          rw [hread] at hrun
          obtain ⟨entries, hentries, hend⟩ := ih (cache ++ [entry])
          have hlength : (cache ++ [entry]).length = cache.length + 1 := by simp
          rw [hlength] at hentries hend
          have hgrow : (grow read placeholder (count + 1)).run cache =
              (grow read placeholder count).run (cache ++ [entry]) := hrun
          refine ⟨entry :: entries, ?_, ?_⟩
          · rintro (_ | k) x hx
            · obtain rfl := Option.some.inj hx
              exact hread
            · rw [← hentries k x hx, Nat.add_right_comm]
              rfl
          · rw [hgrow, List.append_cons cache entry entries, List.length_cons]
            rcases hend with ⟨hok, hcount⟩ | ⟨e, herror, hcount, hread'⟩
            · exact .inl ⟨hok, by rw [hcount]⟩
            · refine .inr ⟨e, herror, Nat.succ_lt_succ hcount, ?_⟩
              rw [← hread', Nat.add_right_comm]
              rfl

theorem lookup_of_some {cache : List α} {idx : Nat} {x : α} (h : cache[idx]? = some x) :
    (lookup read blank placeholder populated idx).run cache = .ok x cache := by
  unfold lookup
  rw [run_get_bind, h]
  cases hpopulated : populated x with
  | true =>
      rw [Option.filter_some, if_pos hpopulated]
      rfl
  | false =>
      have hlt : idx < cache.length := (List.getElem?_eq_some_iff.mp h).1
      have hdone : idx + 1 - cache.length = 0 := by omega
      have hget : cache.getD idx blank = x := by rw [List.getD_eq_getElem?_getD, h]; rfl
      rw [Option.filter_some, hpopulated, if_neg Bool.false_ne_true, hdone]
      simp only [grow]
      exact congrArg (fun x => EStateM.Result.ok x cache) hget

/-- The two ways in which a lookup past the end of the list can go. -/
theorem lookup_of_le (read : Nat → Except ε α) (blank : α) (placeholder : List α)
    (populated : α → Bool) {cache : List α} {idx : Nat} (h : cache.length ≤ idx) :
    ∃ entries : List α,
      (∀ k x, entries[k]? = some x → read (cache.length + k) = .ok x) ∧
      ((∃ x, (lookup read blank placeholder populated idx).run cache = .ok x (cache ++ entries) ∧
          read idx = .ok x) ∨
        ∃ e i, (lookup read blank placeholder populated idx).run cache =
            .error e (cache ++ entries ++ placeholder) ∧ i ≤ idx ∧ read i = .error e ∧
          i = (cache ++ entries).length) := by
  obtain ⟨entries, hentries, hend⟩ :=
    grow_run read placeholder (idx + 1 - cache.length) cache
  refine ⟨entries, hentries, ?_⟩
  have hlookup : (lookup read blank placeholder populated idx).run cache =
      (grow read placeholder (idx + 1 - cache.length) >>= fun _ =>
        get >>= fun cache => pure (cache.getD idx blank)).run cache := by
    unfold lookup
    rw [run_get_bind, List.getElem?_eq_none h]
    rfl
  rw [hlookup]
  rcases hend with ⟨hok, hcount⟩ | ⟨e, herror, hcount, hread⟩
  · have hlt : idx - cache.length < entries.length := by omega
    have hidx : idx = cache.length + (idx - cache.length) := by omega
    have hget : (cache ++ entries)[idx]? = some entries[idx - cache.length] := by
      rw [List.getElem?_append_right h, List.getElem?_eq_getElem hlt]
    refine .inl ⟨entries[idx - cache.length], ?_, ?_⟩
    · rw [run_bind_of_ok hok]
      change EStateM.Result.ok ((cache ++ entries).getD idx blank) _ = _
      rw [List.getD_eq_getElem?_getD, hget]
      rfl
    · have hentry := hentries _ _ (List.getElem?_eq_getElem hlt)
      rwa [← hidx] at hentry
  · refine .inr ⟨e, cache.length + entries.length, run_bind_of_error herror, by omega, hread, ?_⟩
    rw [List.length_append]

theorem Exact.append {cache entries : List α} (hcache : Exact read cache)
    (hentries : ∀ k x, entries[k]? = some x → read (cache.length + k) = .ok x) :
    Exact read (cache ++ entries) := by
  intro i x hx
  by_cases hi : i < cache.length
  · rw [List.getElem?_append_left hi] at hx
    exact hcache i x hx
  · rw [List.getElem?_append_right (Nat.le_of_not_lt hi)] at hx
    have hread := hentries _ x hx
    rwa [Nat.add_sub_cancel' (Nat.le_of_not_lt hi)] at hread

theorem Faithful.append {cache entries : List α} (hcache : Faithful read cache)
    (hentries : ∀ k x, entries[k]? = some x → read (cache.length + k) = .ok x) :
    Faithful read (cache ++ entries) := by
  intro i x a hx ha
  by_cases hi : i < cache.length
  · rw [List.getElem?_append_left hi] at hx
    exact hcache i x a hx ha
  · rw [List.getElem?_append_right (Nat.le_of_not_lt hi)] at hx
    have hread := hentries _ x hx
    rw [Nat.add_sub_cancel' (Nat.le_of_not_lt hi), ha] at hread
    exact (Except.ok.inj hread).symm

/-- What is left behind at an index that cannot be read says nothing wrong. -/
theorem Faithful.append_placeholder {cache : List α} {e : ε} (hcache : Faithful read cache)
    (hread : read cache.length = .error e) : Faithful read (cache ++ [blank]) := by
  intro i x a hx ha
  by_cases hi : i < cache.length
  · rw [List.getElem?_append_left hi] at hx
    exact hcache i x a hx ha
  · have hlt := (List.getElem?_eq_some_iff.mp hx).1
    rw [List.length_append, List.length_singleton] at hlt
    obtain rfl : i = cache.length := by omega
    rw [hread] at ha
    cases ha

theorem keeps_lookup_faithful {idx : Nat} :
    Keeps (Faithful read) (lookup read blank [blank] populated idx) := by
  intro cache hcache
  rcases Nat.lt_or_ge idx cache.length with hlt | hle
  · rw [lookup_of_some (List.getElem?_eq_getElem hlt)]
    exact hcache
  · obtain ⟨entries, hentries, ⟨x, hrun, -⟩ | ⟨e, i, hrun, -, hread, rfl⟩⟩ :=
      lookup_of_le read blank [blank] populated hle
    · rw [hrun]
      exact hcache.append hentries
    · rw [hrun]
      exact (hcache.append hentries).append_placeholder hread

theorem keeps_lookup_exact {idx : Nat} :
    Keeps (Exact read) (lookup read blank [] populated idx) := by
  intro cache hcache
  rcases Nat.lt_or_ge idx cache.length with hlt | hle
  · rw [lookup_of_some (List.getElem?_eq_getElem hlt)]
    exact hcache
  · obtain ⟨entries, hentries, ⟨x, hrun, -⟩ | ⟨e, i, hrun, -, hread, rfl⟩⟩ :=
      lookup_of_le read blank [] populated hle
    · rw [hrun]
      exact hcache.append hentries
    · rw [hrun, finalState_error, List.append_nil]
      exact hcache.append hentries

variable {kind : ε → ε → Prop}

theorem agree_lookup_of_le (hinitial : Initial read)
    (hkind : ∀ i j e f, read i = .error e → read j = .error f → kind e f) {cache : List α}
    {idx : Nat} (h : cache.length ≤ idx) :
    Agree kind (outcome ((lookup read blank placeholder populated idx).run cache)) (read idx) := by
  obtain ⟨entries, -, ⟨x, hrun, hread⟩ | ⟨e, i, hrun, hi, hread, -⟩⟩ :=
    lookup_of_le read blank placeholder populated h
  · rw [hrun, hread]
    exact rfl
  · rw [hrun]
    cases hidx : read idx with
    | ok a =>
        obtain ⟨b, hb⟩ := hinitial i idx a hi hidx
        rw [hread] at hb
        cases hb
    | error f => exact hkind i idx e f hread hidx

/-- A lookup that leaves blanks behind is right when the table has the entry, or
when the list does not have the index yet. -/
theorem agree_lookup_iff (hinitial : Initial read)
    (hkind : ∀ i j e f, read i = .error e → read j = .error f → kind e f) {cache : List α}
    (hcache : Faithful read cache) {idx : Nat} :
    Agree kind (outcome ((lookup read blank placeholder populated idx).run cache)) (read idx) ↔
      (∃ a, read idx = .ok a) ∨ cache.length ≤ idx := by
  rcases Nat.lt_or_ge idx cache.length with hlt | hle
  · have hget := List.getElem?_eq_getElem hlt
    rw [lookup_of_some hget]
    cases hread : read idx with
    | ok a => exact iff_of_true (hcache idx _ a hget hread) (.inl ⟨a, rfl⟩)
    | error e =>
        refine iff_of_false id ?_
        rintro (⟨a, ha⟩ | hle)
        · cases ha
        · omega
  · exact iff_of_true (agree_lookup_of_le hinitial hkind hle) (.inr hle)

theorem agree_lookup_of_exact (hinitial : Initial read)
    (hkind : ∀ i j e f, read i = .error e → read j = .error f → kind e f) {cache : List α}
    (hcache : Exact read cache) {idx : Nat} :
    Agree kind (outcome ((lookup read blank placeholder populated idx).run cache)) (read idx) := by
  rcases Nat.lt_or_ge idx cache.length with hlt | hle
  · have hget := List.getElem?_eq_getElem hlt
    rw [lookup_of_some hget, hcache idx _ hget]
    exact rfl
  · exact agree_lookup_of_le hinitial hkind hle

end Growing

/-! ## Lists that are resized to the index that is looked up -/

section Resizing

variable {read : Nat → Except ε α} {blank : α} {parsed : α → Bool} {kind : ε → ε → Prop}

def resize (blank : α) (size : Nat) (cache : List α) : List α :=
  cache ++ List.replicate (size - cache.length) blank

/-- Entries that the list does not have, and those that are parsed, are read. -/
def lookupResizing (read : Nat → Except ε α) (blank : α) (parsed : α → Bool) (idx : Nat) :
    EStateM ε (List α) α := do
  let cache ← get
  match cache[idx]?.filter (fun entry => !parsed entry) with
  | some entry => return entry
  | none => do
      set (resize blank (idx + 1) cache)
      let entry ← fromExcept (read idx)
      set ((resize blank (idx + 1) cache).set idx entry)
      return entry

theorem lookupResizing_of_parsed {cache : List α} {idx : Nat}
    (h : ∀ x, cache[idx]? = some x → parsed x = true) :
    outcome ((lookupResizing read blank parsed idx).run cache) = read idx := by
  have hfilter : cache[idx]?.filter (fun entry => !parsed entry) = none := by
    rw [Option.filter_eq_none_iff]
    intro x hx
    rw [h x hx]
    exact Bool.false_ne_true
  unfold lookupResizing
  rw [run_get_bind, hfilter]
  cases hread : read idx <;> rfl

theorem lookupResizing_of_not_parsed {cache : List α} {idx : Nat} {x : α}
    (h : cache[idx]? = some x) (hx : parsed x = false) :
    (lookupResizing read blank parsed idx).run cache = .ok x cache := by
  unfold lookupResizing
  rw [run_get_bind, h, Option.filter_some, hx]
  rfl

/-- Looking up an entry that is parsed only puts it there again. -/
theorem finalState_lookupResizing {cache : List α} {idx : Nat} {x : α} (h : cache[idx]? = some x)
    (hx : parsed x = true) :
    finalState ((lookupResizing read blank parsed idx).run cache) =
      match read idx with
      | .ok entry => cache.set idx entry
      | .error _ => cache := by
  have hlt : idx < cache.length := (List.getElem?_eq_some_iff.mp h).1
  have hfilter : cache[idx]?.filter (fun entry => !parsed entry) = none := by
    rw [h, Option.filter_some, hx]
    rfl
  have hresize : resize blank (idx + 1) cache = cache := by
    rw [resize, Nat.sub_eq_zero_of_le hlt, List.replicate_zero, List.append_nil]
  unfold lookupResizing
  rw [run_get_bind, hfilter, hresize]
  cases read idx <;> rfl

/-- Such a lookup is right when it reads, or when what is there happens to be
the entry. -/
theorem agree_lookupResizing_iff {cache : List α} {idx : Nat}
    (hkind : ∀ e, read idx = .error e → kind e e) :
    Agree kind (outcome ((lookupResizing read blank parsed idx).run cache)) (read idx) ↔
      ∀ x, cache[idx]? = some x → parsed x = false → read idx = .ok x := by
  by_cases h : ∃ x, cache[idx]? = some x ∧ parsed x = false
  · obtain ⟨x, hx, hparsed⟩ := h
    rw [lookupResizing_of_not_parsed hx hparsed]
    constructor
    · intro hagree y hy _
      obtain rfl : x = y := Option.some.inj (hx.symm.trans hy)
      cases hread : read idx with
      | ok a =>
          rw [hread] at hagree
          exact congrArg Except.ok (Eq.symm hagree)
      | error e =>
          rw [hread] at hagree
          exact hagree.elim
    · intro hread
      rw [hread x hx hparsed]
      exact rfl
  · have hparsed : ∀ x, cache[idx]? = some x → parsed x = true := fun x hx =>
      (Bool.eq_false_or_eq_true (parsed x)).resolve_right fun hfalse => h ⟨x, hx, hfalse⟩
    rw [lookupResizing_of_parsed hparsed]
    refine iff_of_true (agree_refl hkind) ?_
    intro x hx hfalse
    rw [hparsed x hx] at hfalse
    cases hfalse

end Resizing

/-! ## Maps from keys -/

/-- A key that the map does not have is read. -/
def lookupKeyed [DecidableEq κ] (key : κ) (read : Except ε α) : EStateM ε (κ → Option α) α := do
  let cache ← get
  match cache key with
  | some entry => return entry
  | none => do
      let entry ← fromExcept read
      set (Function.update cache key (some entry))
      return entry

/-- The map holds what the content has under the same key. -/
def Backed (content : κ → Except ε α) (cache : κ → Option α) : Prop :=
  ∀ key a, cache key = some a → content key = .ok a

variable {content : κ → Except ε α}

theorem outcome_lookupKeyed [DecidableEq κ] {cache : κ → Option α} (hcache : Backed content cache)
    (key : κ) : outcome ((lookupKeyed key (content key)).run cache) = content key := by
  unfold lookupKeyed
  rw [run_get_bind]
  cases hkey : cache key with
  | some a =>
      rw [hcache key a hkey]
      rfl
  | none => cases content key <;> rfl

theorem keeps_lookupKeyed [DecidableEq κ] (key : κ) :
    Keeps (Backed content) (lookupKeyed key (content key)) := by
  intro cache hcache
  unfold lookupKeyed
  rw [run_get_bind]
  cases cache key with
  | some a => exact hcache
  | none =>
      cases hread : content key with
      | error e => exact hcache
      | ok a =>
          intro key' b hb
          change Function.update cache key (some a) key' = some b at hb
          by_cases heq : key' = key
          · obtain rfl := heq
            rw [Function.update_self] at hb
            rw [hread, Option.some.inj hb]
          · rw [Function.update_of_ne heq] at hb
            exact hcache key' b hb

end HuntersGuild.LazyCaches
