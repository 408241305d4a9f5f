import Mathlib.Data.List.Basic
import Mathlib.Data.Nat.ModEq

/-!
A ring of cells that holds the later part of a log: the value of index `i` is
in the cell `i + shift`, counted round the ring.
-/

namespace HuntersGuild.RingBuffer

universe u

variable {α : Type u}

/-- The ring holds the values of the log from index `lo` on. -/
def Remembers (shift lo : Nat) (ring log : List α) : Prop :=
  ∀ i, lo ≤ i → i < log.length → ring[(i + shift) % ring.length]? = log[i]?

theorem remembers_nil (shift lo : Nat) (ring : List α) : Remembers shift lo ring [] := by
  intro i _ hi
  simp at hi

/-- Indices less than a full turn apart have different cells. -/
theorem mod_ne_mod {n i j : Nat} (hlt : i < j) (hturn : j < i + n) : i % n ≠ j % n := by
  intro heq
  have hdvd : n ∣ j - i := (Nat.modEq_iff_dvd' hlt.le).mp heq
  have hle := Nat.le_of_dvd (by omega) hdvd
  omega

/-- Writing the next value forgets what is a full turn behind it. -/
theorem Remembers.push {shift lo : Nat} {ring log : List α} (h : Remembers shift lo ring log)
    (lo' : Nat) (hlo : lo ≤ lo') (hturn : log.length < lo' + ring.length) (hpos : 0 < ring.length) (v : α) :
    Remembers shift lo' (ring.set ((log.length + shift) % ring.length) v) (log ++ [v]) := by
  intro i hi hlt
  have hcell : (log.length + shift) % ring.length < ring.length := Nat.mod_lt _ hpos
  rw [List.length_set]
  rcases Nat.lt_or_eq_of_le (Nat.le_of_lt_succ (by simpa using hlt)) with hlt | rfl
  · have hne : (i + shift) % ring.length ≠ (log.length + shift) % ring.length :=
      mod_ne_mod (by omega) (by omega)
    rw [List.getElem?_set_ne hne.symm, List.getElem?_append_left hlt,
      h i (Nat.le_trans hlo hi) hlt]
  · rw [List.getElem?_set_self hcell, List.getElem?_concat_length]

end HuntersGuild.RingBuffer
