import Mathlib.Data.List.Nodup

/-!
Lists whose elements have keys, each of which is there once.
-/

namespace HuntersGuild.KeyedLists

universe u v

variable {α : Type u} {κ : Type v} [DecidableEq κ] {key : α → κ} {xs : List α} {x y : α} {n : Nat}

/-- The first element with a key. -/
def lookup (key : α → κ) (xs : List α) (k : κ) : Option α := xs.find? fun x => key x = k

theorem lookup_cons (x : α) (xs : List α) (k : κ) :
    lookup key (x :: xs) k = if key x = k then some x else lookup key xs k := by
  unfold lookup
  rw [List.find?_cons]
  by_cases h : key x = k <;> simp [h]

theorem lookup_eq_none_iff {k : κ} : lookup key xs k = none ↔ k ∉ xs.map key := by
  simp [lookup, List.find?_eq_none]

theorem mem_of_lookup_eq_some {k : κ} (h : lookup key xs k = some x) : x ∈ xs ∧ key x = k := by
  have hfound := List.find?_some h
  exact ⟨List.mem_of_find?_eq_some h, of_decide_eq_true hfound⟩

/-- With distinct keys, every element is found under its key. -/
theorem lookup_key (hkeys : (xs.map key).Nodup) (hx : x ∈ xs) : lookup key xs (key x) = some x := by
  induction xs with
  | nil => cases hx
  | cons z xs ih =>
      obtain ⟨hnot, htail⟩ := List.nodup_cons.mp hkeys
      rw [lookup_cons]
      obtain rfl | hmem := List.mem_cons.mp hx
      · exact if_pos rfl
      · have hne : key z ≠ key x := fun heq => hnot (heq ▸ List.mem_map_of_mem hmem)
        rw [if_neg hne]
        exact ih htail hmem

omit [DecidableEq κ] in
theorem map_set_of_key (hx : xs[n]? = some x) (hy : key y = key x) :
    (xs.set n y).map key = xs.map key := by
  have hset : (xs.map key).set n (key x) = xs.map key := by
    obtain ⟨hlt, rfl⟩ := List.getElem?_eq_some_iff.mp hx
    calc (xs.map key).set n (key xs[n]) = (xs.set n xs[n]).map key := (List.map_set).symm
      _ = xs.map key := by rw [List.set_getElem_self]
  rw [List.map_set, hy, hset]

theorem lookup_set (hkeys : (xs.map key).Nodup) (hx : xs[n]? = some x) (hy : key y = key x)
    (k : κ) : lookup key (xs.set n y) k = if key x = k then some y else lookup key xs k := by
  induction xs generalizing n with
  | nil => cases hx
  | cons z xs ih =>
      obtain ⟨hnot, htail⟩ := List.nodup_cons.mp hkeys
      cases n with
      | zero =>
          obtain rfl : z = x := Option.some.inj hx
          rw [List.set_cons_zero, lookup_cons, lookup_cons, hy]
          split <;> rfl
      | succ n =>
          have hmem : x ∈ xs := List.mem_of_getElem? hx
          have hne : key z ≠ key x := fun heq => hnot (heq ▸ List.mem_map_of_mem hmem)
          rw [List.set_cons_succ, lookup_cons, lookup_cons, ih htail hx]
          split
          · rename_i hz
            rw [if_neg fun hk => hne (hz.trans hk.symm)]
          · rfl

theorem lookup_eraseIdx (hkeys : (xs.map key).Nodup) (hx : xs[n]? = some x) (k : κ) :
    lookup key (xs.eraseIdx n) k = if key x = k then none else lookup key xs k := by
  induction xs generalizing n with
  | nil => cases hx
  | cons z xs ih =>
      obtain ⟨hnot, htail⟩ := List.nodup_cons.mp hkeys
      cases n with
      | zero =>
          obtain rfl : z = x := Option.some.inj hx
          rw [List.eraseIdx_cons_zero, lookup_cons]
          split
          · rename_i hk
            rw [← hk]
            exact lookup_eq_none_iff.mpr hnot
          · rfl
      | succ n =>
          have hmem : x ∈ xs := List.mem_of_getElem? hx
          have hne : key z ≠ key x := fun heq => hnot (heq ▸ List.mem_map_of_mem hmem)
          rw [List.eraseIdx_cons_succ, lookup_cons, lookup_cons, ih htail hx]
          split
          · rename_i hz
            rw [if_neg fun hk => hne (hz.trans hk.symm)]
          · rfl

omit [DecidableEq κ] in
theorem nodup_eraseIdx (hkeys : (xs.map key).Nodup) (n : Nat) :
    ((xs.eraseIdx n).map key).Nodup :=
  hkeys.sublist ((List.eraseIdx_sublist xs n).map key)

end HuntersGuild.KeyedLists
