import Mathlib.Data.Fintype.Basic
import Mathlib.Data.List.Nodup

/-!
A pile of items beside a status for every item. Two predicates on statuses
relate the views: the status of an item on the pile is one an item `may` have
there, and an item whose status says it `must` be on the pile is on it.
-/

namespace HuntersGuild.PileTracking

universe u v

variable {ι : Type u} {σ : Type v}

structure Tracks (may must : σ → Prop) (status : ι → σ) (pile : List ι) : Prop where
  nodup : pile.Nodup
  may_of_mem : ∀ i ∈ pile, may (status i)
  mem_of_must : ∀ i, must (status i) → i ∈ pile

variable {may must : σ → Prop} {status : ι → σ} {pile pile' : List ι}

theorem Tracks.perm (h : Tracks may must status pile) (hperm : pile'.Perm pile) :
    Tracks may must status pile' where
  nodup := hperm.nodup_iff.mpr h.nodup
  may_of_mem i hi := h.may_of_mem i (hperm.mem_iff.mp hi)
  mem_of_must i hi := hperm.mem_iff.mpr (h.mem_of_must i hi)

/-- Without slack between the two predicates the pile is determined. -/
theorem Tracks.mem_iff (h : Tracks must must status pile) {i : ι} :
    i ∈ pile ↔ must (status i) :=
  ⟨h.may_of_mem i, h.mem_of_must i⟩

/-- The pile of all items that must be on it. -/
theorem tracks_filter [DecidablePred must] {items : List ι} (hnodup : items.Nodup)
    (hall : ∀ i, i ∈ items) (hmay : ∀ v, must v → may v) (status : ι → σ) :
    Tracks may must status (items.filter fun i => must (status i)) := by
  refine ⟨hnodup.filter _, ?_, ?_⟩
  · intro i hi
    exact hmay _ (by simpa using (List.mem_filter.mp hi).2)
  · intro i hi
    exact List.mem_filter.mpr ⟨hall i, by simpa using hi⟩

variable [DecidableEq ι]

/-- One item changes its status and may come on or off the pile. -/
theorem Tracks.update (h : Tracks may must status pile) {i : ι} {v : σ}
    (hnodup : pile'.Nodup) (hother : ∀ j, j ≠ i → (j ∈ pile' ↔ j ∈ pile))
    (hmay : i ∈ pile' → may v) (hmust : must v → i ∈ pile') :
    Tracks may must (Function.update status i v) pile' := by
  refine ⟨hnodup, ?_, ?_⟩
  · intro j hj
    rcases eq_or_ne j i with rfl | hne
    · rw [Function.update_self]
      exact hmay hj
    · rw [Function.update_of_ne hne]
      exact h.may_of_mem j ((hother j hne).mp hj)
  · intro j hj
    rcases eq_or_ne j i with rfl | hne
    · rw [Function.update_self] at hj
      exact hmust hj
    · rw [Function.update_of_ne hne] at hj
      exact (hother j hne).mpr (h.mem_of_must j hj)

theorem Tracks.relabel (h : Tracks may must status pile) {i : ι} {v : σ}
    (hmay : i ∈ pile → may v) (hmust : must v → i ∈ pile) :
    Tracks may must (Function.update status i v) pile :=
  h.update h.nodup (fun _ _ => Iff.rfl) hmay hmust

theorem Tracks.push (h : Tracks may must status pile) {i : ι} {v : σ} (hi : i ∉ pile)
    (hmay : may v) : Tracks may must (Function.update status i v) (i :: pile) :=
  h.update (List.nodup_cons.mpr ⟨hi, h.nodup⟩) (fun _ hne => by simp [hne])
    (fun _ => hmay) (fun _ => List.mem_cons_self)

/-- An item leaves the pile, from wherever it was. -/
theorem Tracks.remove {above below : List ι} {i : ι} {v : σ}
    (h : Tracks may must status (above ++ i :: below)) (hv : ¬ must v) :
    Tracks may must (Function.update status i v) (above ++ below) := by
  have hnodup := List.nodup_middle.mp h.nodup
  rw [List.nodup_cons] at hnodup
  refine h.update hnodup.2 ?_ (fun hi => absurd hi hnodup.1) (fun hi => absurd hi hv)
  intro j hne
  simp [hne]

end HuntersGuild.PileTracking
