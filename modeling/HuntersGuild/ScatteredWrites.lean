import Mathlib.Data.List.Basic

/-!
Loops that write to a buffer, each round at a position of its own.
-/

namespace HuntersGuild.ScatteredWrites

universe u v

variable {ι : Type u} {α : Type v}

/-- Write `val k` at `pos k` for each `k` of the list. -/
def scatter (pos : ι → Nat) (val : ι → α) (l : List ι) (dest : List α) : List α :=
  l.foldl (fun dest k => dest.set (pos k) (val k)) dest

variable {pos : ι → Nat} {val : ι → α} {l : List ι} {dest : List α}

@[simp] theorem length_scatter : (scatter pos val l dest).length = dest.length := by
  induction l generalizing dest with
  | nil => rfl
  | cons k l ih =>
      rw [scatter, List.foldl_cons]
      exact ih.trans List.length_set

theorem getElem?_scatter_of_ne {p : Nat} (h : ∀ k ∈ l, pos k ≠ p) :
    (scatter pos val l dest)[p]? = dest[p]? := by
  induction l generalizing dest with
  | nil => rfl
  | cons k l ih =>
      rw [List.forall_mem_cons] at h
      rw [scatter, List.foldl_cons]
      exact (ih h.2).trans (List.getElem?_set_ne h.1)

/-- A position is written, where all rounds that write it agree on the value. -/
theorem getElem?_scatter_of_eq {p : Nat} {v : α} (hagree : ∀ k ∈ l, pos k = p → val k = v)
    (hlt : p < dest.length) (h : dest[p]? = some v ∨ ∃ k ∈ l, pos k = p) :
    (scatter pos val l dest)[p]? = some v := by
  induction l generalizing dest with
  | nil =>
      rcases h with h | ⟨k, hk, -⟩
      · exact h
      · exact absurd hk List.not_mem_nil
  | cons j l ih =>
      rw [List.forall_mem_cons] at hagree
      rw [scatter, List.foldl_cons]
      apply ih hagree.2 (by rwa [List.length_set])
      rcases eq_or_ne (pos j) p with hj | hj
      · left
        rw [hj, List.getElem?_set_self hlt, hagree.1 hj]
      · rcases h with h | ⟨k, hk, hkp⟩
        · left
          rw [List.getElem?_set_ne hj, h]
        · right
          rcases List.mem_cons.mp hk with rfl | hk
          · exact absurd hkp hj
          · exact ⟨k, hk, hkp⟩

theorem getElem?_scatter {k : ι} (hk : k ∈ l) (hagree : ∀ j ∈ l, pos j = pos k → val j = val k)
    (hlt : pos k < dest.length) : (scatter pos val l dest)[pos k]? = some (val k) :=
  getElem?_scatter_of_eq hagree hlt (.inr ⟨k, hk, rfl⟩)

end HuntersGuild.ScatteredWrites
