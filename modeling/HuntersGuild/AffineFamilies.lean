import Mathlib.Tactic.Ring
import Mathlib.Data.List.GetD

/-!
Values and tables that are affine in a parameter, such as the state of a
linear generator in its seed: two parameters tell what they are for all others.
-/

namespace HuntersGuild.AffineFamilies

universe u v w

variable {R : Type u} [CommRing R]

/-- The value is a multiple of the parameter and a constant. -/
def IsAffine (f : R → R) : Prop :=
  ∃ a b, ∀ x, f x = a * x + b

namespace IsAffine

theorem const (b : R) : IsAffine fun _ : R => b :=
  ⟨0, b, fun x => by rw [zero_mul, zero_add]⟩

theorem id : IsAffine fun x : R => x :=
  ⟨1, 0, fun x => by rw [one_mul, add_zero]⟩

theorem sub {f g : R → R} (hf : IsAffine f) (hg : IsAffine g) : IsAffine fun x => f x - g x := by
  rcases hf with ⟨a, b, hf⟩
  rcases hg with ⟨c, d, hg⟩
  refine ⟨a - c, b - d, ?_⟩
  intro x
  dsimp only
  rw [hf, hg]
  ring

/-- The parameters `0` and `1` determine the value. -/
theorem eq_of_zero_one {f : R → R} (hf : IsAffine f) (x : R) : f x = (f 1 - f 0) * x + f 0 := by
  rcases hf with ⟨a, b, hf⟩
  rw [hf x, hf 0, hf 1]
  ring

end IsAffine

/-- The entries of the table are affine, and their number is fixed. -/
structure AffineTable (table : R → List R) : Prop where
  length_eq : ∀ x y, (table x).length = (table y).length
  getD : ∀ z, IsAffine fun x => (table x).getD z 0

namespace AffineTable

theorem const (table : List R) : AffineTable fun _ : R => table :=
  ⟨fun _ _ => rfl, fun z => IsAffine.const (table.getD z 0)⟩

theorem set {table : R → List R} {value : R → R} (htable : AffineTable table)
    (hvalue : IsAffine value) (z : Nat) : AffineTable fun x => (table x).set z (value x) := by
  constructor
  · intro x y
    rw [List.length_set, List.length_set]
    exact htable.length_eq x y
  · intro k
    by_cases hset : k = z ∧ z < (table 0).length
    · rcases hset with ⟨rfl, hlt⟩
      have hget (x : R) : ((table x).set k (value x)).getD k 0 = value x := by
        have hltx : k < (table x).length := by rwa [htable.length_eq x 0]
        rw [List.getD_eq_getElem?_getD, List.getElem?_set_self hltx, Option.getD_some]
      simpa only [hget] using hvalue
    · have hget (x : R) : ((table x).set z (value x)).getD k 0 = (table x).getD k 0 := by
        have hkeep : ¬ (z = k ∧ k < (table x).length) := by
          rw [htable.length_eq x 0]
          rintro ⟨rfl, hlt⟩
          exact hset ⟨rfl, hlt⟩
        rw [List.getD_eq_getElem?_getD, List.getElem?_set, List.getD_eq_getElem?_getD]
        split_ifs with hz hlt
        · exact absurd ⟨hz, hz ▸ hlt⟩ hkeep
        · rw [← hz, List.getElem?_eq_none (not_lt.mp hlt)]
        · rfl
      simpa only [hget] using htable.getD k

end AffineTable

/-- A loop whose rounds keep a property of families of states keeps it over the whole run. -/
theorem foldl_family {ι : Type u} {α : Type v} {σ : Type w} {P : (ι → σ) → Prop} {f : σ → α → σ}
    (hstep : ∀ s a, P s → P fun x => f (s x) a) (l : List α) {s : ι → σ} (hs : P s) :
    P fun x => l.foldl f (s x) := by
  induction l generalizing s with
  | nil => exact hs
  | cons a l ih => exact ih (hstep s a hs)

end HuntersGuild.AffineFamilies
