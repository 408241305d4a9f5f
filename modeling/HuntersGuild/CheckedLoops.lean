import HuntersGuild.ExceptionRules

/-!
Rules for loops over lists whose bodies may throw. The invariants say how many
elements are done.
-/

namespace HuntersGuild.CheckedLoops

open HuntersGuild.ExceptionRules

universe u

variable {ε α β σ : Type u} {xs : List α}

/-- What no round of a loop changes. -/
theorem foldl_keeps {γ : Type u} (g : β → γ) {f : β → α → β} (hf : ∀ b a, g (f b a) = g b)
    (l : List α) (b : β) : g (l.foldl f b) = g b := by
  induction l generalizing b with
  | nil => rfl
  | cons a l ih => exact (ih (f b a)).trans (hf b a)

theorem forM_eq_ok_iff {f : α → Except ε PUnit} :
    xs.forM f = .ok ⟨⟩ ↔ ∀ x ∈ xs, f x = .ok ⟨⟩ := by
  induction xs with
  | nil => exact iff_of_true rfl fun _ hx => nomatch hx
  | cons x xs ih =>
      have hcons : (x :: xs).forM f = (f x >>= fun _ => xs.forM f) := rfl
      rw [hcons, bind_eq_ok, List.forall_mem_cons, ← ih]
      constructor
      · rintro ⟨⟨⟩, hhead, htail⟩
        exact ⟨hhead, htail⟩
      · rintro ⟨hhead, htail⟩
        exact ⟨⟨⟩, hhead, htail⟩

/-- The results of a loop that does not throw, one for each element. -/
theorem mapM_eq_ok_iff {f : α → Except ε β} {ys : List β} :
    xs.mapM f = .ok ys ↔ List.Forall₂ (fun x y => f x = .ok y) xs ys := by
  induction xs generalizing ys with
  | nil =>
      constructor
      · intro h
        obtain rfl := Except.ok.inj h
        exact .nil
      · rintro ⟨⟩
        rfl
  | cons x xs ih =>
      rw [List.mapM_cons, bind_eq_ok]
      constructor
      · rintro ⟨y, hhead, h⟩
        obtain ⟨ys, htail, h⟩ := bind_eq_ok.mp h
        obtain rfl := Except.ok.inj h
        exact .cons hhead (ih.mp htail)
      · intro h
        cases h with
        | cons hhead htail => exact ⟨_, hhead, bind_of_ok (ih.mpr htail) rfl⟩

theorem exists_mapM {f : α → Except ε β} {P : α → β → Prop}
    (h : ∀ x ∈ xs, ∃ y, f x = .ok y ∧ P x y) : ∃ ys, xs.mapM f = .ok ys ∧ List.Forall₂ P xs ys := by
  induction xs with
  | nil => exact ⟨[], rfl, .nil⟩
  | cons x xs ih =>
      obtain ⟨y, hhead, hx⟩ := h x List.mem_cons_self
      obtain ⟨ys, htail, hxs⟩ := ih fun x hx => h x (List.mem_cons_of_mem _ hx)
      refine ⟨y :: ys, ?_, .cons hx hxs⟩
      rw [List.mapM_cons]
      exact bind_of_ok hhead (bind_of_ok htail rfl)

/-- What is at the same place of two lists that are related element by element. -/
theorem getElem?_of_forall₂ {P : α → β → Prop} {ys : List β} (h : List.Forall₂ P xs ys) (i : Nat) :
    (xs[i]? = none ∧ ys[i]? = none) ∨ ∃ x y, xs[i]? = some x ∧ ys[i]? = some y ∧ P x y := by
  induction h generalizing i with
  | nil => exact .inl ⟨rfl, rfl⟩
  | cons hhead _ ih =>
      cases i with
      | zero => exact .inr ⟨_, _, rfl, rfl, hhead⟩
      | succ i => exact ih i

theorem eq_ok_of_mapM {f : α → Except ε β} {ys : List β} (h : xs.mapM f = .ok ys) {x : α}
    (hx : x ∈ xs) : ∃ y, f x = .ok y := by
  obtain ⟨i, hi⟩ := List.mem_iff_getElem?.mp hx
  rcases getElem?_of_forall₂ (mapM_eq_ok_iff.mp h) i with ⟨hnone, -⟩ | ⟨x', y, hx', -, hy⟩
  · rw [hi] at hnone
    cases hnone
  · rw [hi] at hx'
    exact ⟨y, Option.some.inj hx' ▸ hy⟩

/-- What a loop throws, one of its rounds throws. -/
theorem error_of_mapM {f : α → Except ε β} {e : ε} (h : xs.mapM f = .error e) : ∃ x ∈ xs, f x = .error e := by
  induction xs with
  | nil => cases h
  | cons x xs ih =>
      rw [List.mapM_cons, bind_eq_error] at h
      rcases h with h | ⟨y, -, h⟩
      · exact ⟨x, List.mem_cons_self, h⟩
      · rcases bind_eq_error.mp h with h | ⟨ys, -, h⟩
        · obtain ⟨z, hz, hfz⟩ := ih h
          exact ⟨z, List.mem_cons_of_mem x hz, hfz⟩
        · cases h

theorem error_of_foldlM {f : σ → α → Except ε σ} {s : σ} {e : ε} (h : xs.foldlM f s = .error e) :
    ∃ s x, x ∈ xs ∧ f s x = .error e := by
  induction xs generalizing s with
  | nil => cases h
  | cons x xs ih =>
      rw [List.foldlM_cons, bind_eq_error] at h
      rcases h with h | ⟨mid, -, h⟩
      · exact ⟨s, x, List.mem_cons_self, h⟩
      · obtain ⟨s', z, hz, hfz⟩ := ih h
        exact ⟨s', z, List.mem_cons_of_mem x hz, hfz⟩

/-- A loop that does not throw, because no round does. -/
theorem exists_foldlM {f : σ → α → Except ε σ} (I : Nat → σ → Prop)
    (step : ∀ i x s, xs[i]? = some x → I i s → ∃ s', f s x = .ok s' ∧ I (i + 1) s')
    {s : σ} (hs : I 0 s) : ∃ s', xs.foldlM f s = .ok s' ∧ I xs.length s' := by
  induction xs generalizing s I with
  | nil => exact ⟨s, rfl, hs⟩
  | cons x xs ih =>
      obtain ⟨mid, hhead, hmid⟩ := step 0 x s rfl hs
      obtain ⟨s', htail, hend⟩ := ih (fun i => I (i + 1)) (fun i => step (i + 1)) hmid
      exact ⟨s', bind_of_ok hhead htail, hend⟩

/-- What a loop that does not throw keeps, and what it says of each element. -/
theorem foldlM_spec {f : σ → α → Except ε σ} (I : Nat → σ → Prop) {P : Nat → α → Prop}
    (step : ∀ i x s s', xs[i]? = some x → I i s → f s x = .ok s' → I (i + 1) s' ∧ P i x)
    {s s' : σ} (hs : I 0 s) (hrun : xs.foldlM f s = .ok s') :
    I xs.length s' ∧ ∀ i x, xs[i]? = some x → P i x := by
  induction xs generalizing s I P with
  | nil =>
      obtain rfl := Except.ok.inj hrun
      exact ⟨hs, fun i x hx => nomatch hx⟩
  | cons x xs ih =>
      obtain ⟨mid, hhead, htail⟩ := bind_eq_ok.mp hrun
      obtain ⟨hmid, hx⟩ := step 0 x s mid rfl hs hhead
      obtain ⟨hend, hrest⟩ := ih (fun i => I (i + 1)) (fun i => step (i + 1)) hmid htail
      refine ⟨hend, ?_⟩
      rintro (_ | i) y hy
      · obtain rfl := Option.some.inj hy
        exact hx
      · exact hrest i y hy

theorem getElem?_zipIdx_eq_some {it : α × Nat} {i : Nat} :
    xs.zipIdx[i]? = some it ↔ xs[i]? = some it.1 ∧ it.2 = i := by
  rw [List.getElem?_zipIdx, Option.map_eq_some_iff]
  constructor
  · rintro ⟨x, hx, rfl⟩
    exact ⟨hx, Nat.zero_add i⟩
  · rintro ⟨hx, rfl⟩
    exact ⟨it.1, hx, by rw [Nat.zero_add]⟩

end HuntersGuild.CheckedLoops
