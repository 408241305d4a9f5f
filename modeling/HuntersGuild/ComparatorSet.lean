import Mathlib.Order.Basic
import Mathlib.Data.List.Basic
import Mathlib.Order.Lattice

/-!
Ordered sets given by a comparator, as `std::set` has them: a list in the
order of the comparator, in which no two elements are equivalent. The results
are for a comparator that agrees with the order of some key.
-/

namespace HuntersGuild.ComparatorSet

universe u v

variable {α : Type u} (lt : α → α → Bool)

/-- Insert an element unless an equivalent one is there. -/
def emplace (x : α) : List α → List α
  | [] => [x]
  | y :: ys =>
      if lt x y then x :: y :: ys
      else if lt y x then y :: emplace x ys
      else y :: ys

/-- Remove the element equivalent to `x`. -/
def erase (x : α) (ys : List α) : List α :=
  ys.filter fun y => lt x y || lt y x

/-- The elements before the first one that comes after `x`, and the rest. -/
def upperBound (x : α) (ys : List α) : List α × List α :=
  (ys.takeWhile fun y => !lt x y, ys.dropWhile fun y => !lt x y)

variable {β : Type v} [LinearOrder β] {lt} {key : α → β} {dom : α → Prop}

/-- On `dom` the comparator compares keys, and keys tell elements apart. -/
structure ComparesBy (lt : α → α → Bool) (key : α → β) (dom : α → Prop) : Prop where
  lt_iff : ∀ {a b}, dom a → dom b → (lt a b = true ↔ key a < key b)
  key_inj : ∀ {a b}, dom a → dom b → key a = key b → a = b

/-- The list represents a set: its keys increase. -/
def Sorted (key : α → β) (ys : List α) : Prop :=
  ys.Pairwise (key · < key ·)

theorem ComparesBy.mem_emplace (hlt : ComparesBy lt key dom) {x y : α} {ys : List α}
    (hx : dom x) (hys : ∀ z ∈ ys, dom z) : y ∈ emplace lt x ys ↔ y = x ∨ y ∈ ys := by
  induction ys with
  | nil => simp [emplace]
  | cons z zs ih =>
      have hz : dom z := hys z (by simp)
      have ih := ih fun w hw => hys w (by simp [hw])
      simp only [emplace]
      split
      · simp
      · rename_i hxz
        split
        · simp only [List.mem_cons, ih]
          tauto
        · rename_i hzx
          rw [hlt.lt_iff hx hz] at hxz
          rw [hlt.lt_iff hz hx] at hzx
          have hxeq : x = z := hlt.key_inj hx hz (le_antisymm (not_lt.mp hzx) (not_lt.mp hxz))
          simp [hxeq]

theorem ComparesBy.sorted_emplace (hlt : ComparesBy lt key dom) {x : α} {ys : List α}
    (hx : dom x) (hys : ∀ z ∈ ys, dom z) (hsorted : Sorted key ys) :
    Sorted key (emplace lt x ys) := by
  induction ys with
  | nil => simp [emplace, Sorted]
  | cons z zs ih =>
      have hz : dom z := hys z (by simp)
      have hzs : ∀ w ∈ zs, dom w := fun w hw => hys w (by simp [hw])
      obtain ⟨hhead, htail⟩ := List.pairwise_cons.mp hsorted
      simp only [emplace]
      split
      · rename_i hxz
        rw [hlt.lt_iff hx hz] at hxz
        refine List.pairwise_cons.mpr ⟨?_, hsorted⟩
        intro w hw
        rcases List.mem_cons.mp hw with rfl | hw
        · exact hxz
        · exact hxz.trans (hhead w hw)
      · split
        · rename_i hzx
          rw [hlt.lt_iff hz hx] at hzx
          refine List.pairwise_cons.mpr ⟨?_, ih hzs htail⟩
          intro w hw
          rcases (hlt.mem_emplace hx hzs).mp hw with rfl | hw
          · exact hzx
          · exact hhead w hw
        · exact hsorted

theorem ComparesBy.mem_erase (hlt : ComparesBy lt key dom) {x y : α} {ys : List α}
    (hx : dom x) (hys : ∀ z ∈ ys, dom z) : y ∈ erase lt x ys ↔ y ∈ ys ∧ y ≠ x := by
  simp only [erase, List.mem_filter, Bool.or_eq_true]
  refine and_congr_right fun hy => ?_
  rw [hlt.lt_iff hx (hys y hy), hlt.lt_iff (hys y hy) hx]
  constructor
  · rintro (h | h) rfl
    · exact lt_irrefl _ h
    · exact lt_irrefl _ h
  · intro hne
    have hkey : key y ≠ key x := fun h => hne (hlt.key_inj (hys y hy) hx h)
    exact (lt_or_gt_of_ne hkey).symm

theorem sorted_erase {x : α} {ys : List α} (hsorted : Sorted key ys) :
    Sorted key (erase lt x ys) :=
  List.Pairwise.filter _ hsorted

/-- The elements before the bound are those that do not come after `x`. -/
theorem ComparesBy.mem_upperBound_fst (hlt : ComparesBy lt key dom) {x y : α} {ys : List α}
    (hx : dom x) (hys : ∀ z ∈ ys, dom z) (hsorted : Sorted key ys) :
    y ∈ (upperBound lt x ys).1 ↔ y ∈ ys ∧ key y ≤ key x := by
  induction ys with
  | nil => simp [upperBound]
  | cons z zs ih =>
      have hz : dom z := hys z (by simp)
      obtain ⟨hhead, htail⟩ := List.pairwise_cons.mp hsorted
      have ih := ih (fun w hw => hys w (by simp [hw])) htail
      have hiff := hlt.lt_iff hx hz
      simp only [upperBound, List.takeWhile_cons] at ih ⊢
      by_cases hxz : lt x z = true
      · have hbelow : ∀ w ∈ z :: zs, key x < key w := by
          intro w hw
          rcases List.mem_cons.mp hw with rfl | hw
          · exact hiff.mp hxz
          · exact (hiff.mp hxz).trans (hhead w hw)
        simp only [hxz, Bool.not_true, Bool.false_eq_true, if_false, List.not_mem_nil, false_iff]
        rintro ⟨hy, hle⟩
        exact absurd (hbelow y hy) (not_lt.mpr hle)
      · have hzx : key z ≤ key x := not_lt.mp fun h => hxz (hiff.mpr h)
        simp only [hxz, Bool.not_false, if_true, List.mem_cons, ih]
        constructor
        · rintro (rfl | ⟨hy, hle⟩)
          · exact ⟨.inl rfl, hzx⟩
          · exact ⟨.inr hy, hle⟩
        · rintro ⟨rfl | hy, hle⟩
          · exact .inl rfl
          · exact .inr ⟨hy, hle⟩

/-- The elements from the bound on are those that come after `x`. -/
theorem ComparesBy.mem_upperBound_snd (hlt : ComparesBy lt key dom) {x y : α} {ys : List α}
    (hx : dom x) (hys : ∀ z ∈ ys, dom z) (hsorted : Sorted key ys) :
    y ∈ (upperBound lt x ys).2 ↔ y ∈ ys ∧ key x < key y := by
  have hfst : y ∈ (upperBound lt x ys).1 ↔ y ∈ ys ∧ key y ≤ key x :=
    hlt.mem_upperBound_fst hx hys hsorted
  have happ : (upperBound lt x ys).1 ++ (upperBound lt x ys).2 = ys :=
    List.takeWhile_append_dropWhile
  rw [← happ] at hsorted
  constructor
  · intro hy
    have hmem : y ∈ ys := by
      rw [← happ]
      exact List.mem_append_right _ hy
    refine ⟨hmem, not_le.mp fun hle => ?_⟩
    have hlt' := (List.pairwise_append.mp hsorted).2.2 y (hfst.mpr ⟨hmem, hle⟩) y hy
    exact lt_irrefl _ hlt'
  · rintro ⟨hy, hxy⟩
    rw [← happ] at hy
    rcases List.mem_append.mp hy with hy | hy
    · exact absurd (hfst.mp hy).2 (not_le.mpr hxy)
    · exact hy

theorem Sorted.le_getLast {ys : List α} (hsorted : Sorted key ys) {y p : α}
    (hy : y ∈ ys) (hp : ys.getLast? = some p) : key y ≤ key p := by
  obtain ⟨init, rfl⟩ := List.getLast?_eq_some_iff.mp hp
  rcases List.mem_append.mp hy with hy | hy
  · exact ((List.pairwise_append.mp hsorted).2.2 y hy p (by simp)).le
  · rw [List.mem_singleton.mp hy]

theorem Sorted.head_le {ys : List α} (hsorted : Sorted key ys) {y s : α}
    (hy : y ∈ ys) (hs : ys.head? = some s) : key s ≤ key y := by
  obtain ⟨rest, rfl⟩ := List.head?_eq_some_iff.mp hs
  rcases List.mem_cons.mp hy with rfl | hy
  · exact le_rfl
  · exact ((List.pairwise_cons.mp hsorted).1 y hy).le

/-- The last element before the bound lies between `x` and every element that
does not come after `x`. -/
theorem ComparesBy.exists_pred (hlt : ComparesBy lt key dom) {x y : α} {ys : List α}
    (hx : dom x) (hys : ∀ z ∈ ys, dom z) (hsorted : Sorted key ys)
    (hy : y ∈ ys) (hle : key y ≤ key x) :
    ∃ p, (upperBound lt x ys).1.getLast? = some p ∧ p ∈ ys ∧ key y ≤ key p ∧ key p ≤ key x := by
  have hmem := (hlt.mem_upperBound_fst hx hys hsorted).mpr ⟨hy, hle⟩
  obtain ⟨p, hp⟩ := Option.ne_none_iff_exists'.mp
    (mt List.getLast?_eq_none_iff.mp (List.ne_nil_of_mem hmem))
  obtain ⟨hpmem, hpx⟩ := (hlt.mem_upperBound_fst hx hys hsorted).mp (List.mem_of_getLast? hp)
  have hbefore : Sorted key (upperBound lt x ys).1 :=
    List.Pairwise.sublist (List.takeWhile_sublist _) hsorted
  exact ⟨p, hp, hpmem, hbefore.le_getLast hmem hp, hpx⟩

/-- The bound lies between `x` and every element that comes after `x`. -/
theorem ComparesBy.exists_succ (hlt : ComparesBy lt key dom) {x y : α} {ys : List α}
    (hx : dom x) (hys : ∀ z ∈ ys, dom z) (hsorted : Sorted key ys)
    (hy : y ∈ ys) (hxy : key x < key y) :
    ∃ s, (upperBound lt x ys).2.head? = some s ∧ s ∈ ys ∧ key x < key s ∧ key s ≤ key y := by
  have hmem := (hlt.mem_upperBound_snd hx hys hsorted).mpr ⟨hy, hxy⟩
  obtain ⟨s, hs⟩ := Option.ne_none_iff_exists'.mp
    (mt List.head?_eq_none_iff.mp (List.ne_nil_of_mem hmem))
  obtain ⟨hsmem, hxs⟩ := (hlt.mem_upperBound_snd hx hys hsorted).mp (List.mem_of_head? hs)
  have hafter : Sorted key (upperBound lt x ys).2 :=
    List.Pairwise.sublist (List.dropWhile_sublist _) hsorted
  exact ⟨s, hs, hsmem, hxs, hafter.head_le hmem hs⟩

end HuntersGuild.ComparatorSet
