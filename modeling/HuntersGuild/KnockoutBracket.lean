import Mathlib.Logic.Function.Iterate
import Mathlib.Logic.Function.Basic
import Mathlib.Data.Nat.Find
import Mathlib.Order.Basic

/-!
Knockout brackets whose nodes are numbered in the order of their creation: the
entrants first, then the matches round by round, so that match `m` is fed by
the nodes `2 * (m - n)` and `2 * (m - n) + 1`. The number of matches that each
entrant has won determines all results.
-/

namespace HuntersGuild.KnockoutBracket

/-- The match that the winner of a node plays next. -/
def follow (n m : Nat) : Nat := n + m / 2

def feederA (n m : Nat) : Nat := 2 * (m - n)

def feederB (n m : Nat) : Nat := 2 * (m - n) + 1

/-- The match of an entrant in each round, as long as there are rounds. -/
def path (n t k : Nat) : Nat := (follow n)^[k] t

section Numbering

variable {n m f : Nat}

@[simp] theorem follow_feederA (hm : n ≤ m) : follow n (feederA n m) = m := by
  unfold follow feederA
  omega

@[simp] theorem follow_feederB (hm : n ≤ m) : follow n (feederB n m) = m := by
  unfold follow feederB
  omega

theorem eq_feeder_of_follow (h : follow n f = m) : f = feederA n m ∨ f = feederB n m := by
  unfold follow at h
  unfold feederA feederB
  omega

theorem feederA_lt (hm : n ≤ m) (hlt : m < 2 * n - 1) : feederA n m < m := by
  unfold feederA
  omega

theorem feederB_lt (hm : n ≤ m) (hlt : m < 2 * n - 1) : feederB n m < m := by
  unfold feederB
  omega

theorem feederA_ne_feederB (n m : Nat) : feederA n m ≠ feederB n m := by
  unfold feederA feederB
  omega

theorem lt_follow (hm : m < 2 * n - 1) : m < follow n m := by
  unfold follow
  omega

theorem le_follow (n m : Nat) : n ≤ follow n m := by
  unfold follow
  omega

theorem follow_lt (hm : m < 2 * n - 2) : follow n m < 2 * n - 1 := by
  unfold follow
  omega

@[simp] theorem path_zero (n t : Nat) : path n t 0 = t := rfl

@[simp] theorem path_succ (n t k : Nat) : path n t (k + 1) = follow n (path n t k) :=
  Function.iterate_succ_apply' _ _ _

theorem path_lt_path {t j : Nat} (hj : path n t j < 2 * n - 1) (d : Nat) :
    path n t j < path n t (j + d + 1) := by
  induction d with
  | zero =>
      rw [Nat.add_zero, path_succ]
      exact lt_follow hj
  | succ d ih =>
      rw [path_succ]
      by_cases hlt : path n t (j + d + 1) < 2 * n - 1
      · exact ih.trans (lt_follow hlt)
      · unfold follow
        rw [← Nat.add_assoc]
        omega

/-- An entrant meets a match in one round only. -/
theorem path_injective {t j k : Nat} (hj : path n t j < 2 * n - 1)
    (heq : path n t j = path n t k) : j = k := by
  rcases Nat.lt_trichotomy j k with hlt | rfl | hlt
  · obtain ⟨d, rfl⟩ := Nat.exists_eq_add_of_lt hlt
    exact absurd heq (path_lt_path hj d).ne
  · rfl
  · obtain ⟨d, rfl⟩ := Nat.exists_eq_add_of_lt hlt
    exact absurd heq.symm (path_lt_path (heq ▸ hj) d).ne

theorem le_path {t k : Nat} (hlt : path n t k < 2 * n - 1) : k ≤ path n t k := by
  induction k with
  | zero => exact Nat.zero_le _
  | succ k ih =>
      rw [path_succ] at hlt ⊢
      have hbefore : path n t k < 2 * n - 1 := by
        unfold follow at hlt
        omega
      have hless := lt_follow hbefore
      have hk := ih hbefore
      omega

/-- From a node that has a property one comes to the last node on the way to
the final that has it, unless the final has it. -/
theorem exists_frontier {P : Nat → Prop} (hroot : ¬ P (2 * n - 2)) (hlt : f < 2 * n - 1)
    (hf : P f) : ∃ g, (g = f ∨ n ≤ g) ∧ g < 2 * n - 2 ∧ P g ∧ ¬ P (follow n g) := by
  induction hd : 2 * n - 2 - f using Nat.strong_induction_on generalizing f with
  | _ d ih =>
      have hne : f ≠ 2 * n - 2 := fun h => hroot (h ▸ hf)
      by_cases hnext : P (follow n f)
      · have hless := lt_follow hlt
        have hwithin := follow_lt (n := n) (m := f) (by omega)
        obtain ⟨g, hor, hg⟩ := ih _ (by omega) hwithin hnext rfl
        refine ⟨g, .inr ?_, hg⟩
        rcases hor with rfl | hle
        · exact le_follow n f
        · exact hle
      · exact ⟨f, .inl rfl, by omega, hf, hnext⟩

end Numbering

/-- The results of a bracket in progress, and how many matches each entrant
has won. -/
structure Results (n : Nat) (winner : Nat → Option Nat) (rounds : Nat → Nat) : Prop where
  entrant : ∀ z, z < n → winner z = some z
  outside : ∀ m, 2 * n - 1 ≤ m → winner m = none
  fed : ∀ m t, n ≤ m → winner m = some t →
    winner (feederA n m) ≠ none ∧ winner (feederB n m) ≠ none ∧
      (winner (feederA n m) = some t ∨ winner (feederB n m) = some t)
  rounds_iff : ∀ t k, t < n → path n t k < 2 * n - 1 →
    (winner (path n t k) = some t ↔ k ≤ rounds t)
  within : ∀ t, t < n → path n t (rounds t) < 2 * n - 1

section Results

variable {n m f t : Nat} {winner winner' : Nat → Option Nat} {rounds rounds' : Nat → Nat}

theorem Results.lt_of_winner (h : Results n winner rounds) (hw : winner m ≠ none) :
    m < 2 * n - 1 := by
  by_contra hge
  exact hw (h.outside m (by omega))

/-- Before any match is played only the entrants are known. -/
theorem results_initial (hn : 0 < n) :
    Results n (fun m => if m < n then some m else none) (fun _ => 0) := by
  have hpath : ∀ t k, ¬ path n t (k + 1) < n := by
    intro t k
    rw [path_succ]
    exact Nat.not_lt.mpr (le_follow n _)
  refine ⟨?_, ?_, ?_, ?_, ?_⟩
  · intro z hz
    rw [if_pos hz]
  · intro m hm
    rw [if_neg (by omega)]
  · intro m t hm hw
    rw [if_neg (by omega)] at hw
    cases hw
  · intro t k ht _
    cases k with
    | zero => simp [ht]
    | succ k => rw [if_neg (hpath t k)]; simp
  · intro t ht
    rw [path_zero]
    omega

/-- The winner of a match is an entrant that has come there. -/
theorem Results.on_path (h : Results n winner rounds) (hw : winner m = some t) :
    t < n ∧ ∃ k, path n t k = m := by
  induction m using Nat.strong_induction_on with
  | _ m ih =>
      by_cases hm : m < n
      · have hself := h.entrant m hm
        rw [hw, Option.some.injEq] at hself
        exact ⟨by omega, 0, hself⟩
      · have hle : n ≤ m := Nat.le_of_not_lt hm
        have hlt := h.lt_of_winner (by rw [hw]; simp)
        obtain ⟨-, -, hfeeder | hfeeder⟩ := h.fed m t hle hw
        · obtain ⟨ht, k, hk⟩ := ih _ (feederA_lt hle hlt) hfeeder
          exact ⟨ht, k + 1, by rw [path_succ, hk, follow_feederA hle]⟩
        · obtain ⟨ht, k, hk⟩ := ih _ (feederB_lt hle hlt) hfeeder
          exact ⟨ht, k + 1, by rw [path_succ, hk, follow_feederB hle]⟩

theorem Results.ne_none_of_follow (h : Results n winner rounds) (hw : winner (follow n f) ≠ none) :
    winner f ≠ none := by
  obtain ⟨t, ht⟩ := Option.ne_none_iff_exists'.mp hw
  obtain ⟨hA, hB, -⟩ := h.fed (follow n f) t (le_follow n f) ht
  rcases eq_feeder_of_follow (rfl : follow n f = follow n f) with heq | heq
  · rwa [heq]
  · rwa [heq]

/-- An entrant whose next match is undecided has won all matches before it. -/
theorem Results.path_rounds (h : Results n winner rounds) (hw : winner f = some t)
    (hnone : winner (follow n f) = none) (hlt : follow n f < 2 * n - 1) :
    t < n ∧ path n t (rounds t) = f := by
  obtain ⟨ht, k, rfl⟩ := h.on_path hw
  refine ⟨ht, ?_⟩
  have hk : k ≤ rounds t :=
    (h.rounds_iff t k ht (h.lt_of_winner (by rw [hw]; simp))).mp hw
  have hnext : ¬ k + 1 ≤ rounds t := by
    rw [← h.rounds_iff t (k + 1) ht (by rwa [path_succ]), path_succ, hnone]
    simp
  rw [show rounds t = k by omega]

theorem Results.winners_ne (h : Results n winner rounds) (hm : n ≤ m) (hlt : m < 2 * n - 1)
    {t' : Nat} (hA : winner (feederA n m) = some t) (hB : winner (feederB n m) = some t') :
    t ≠ t' := by
  rintro rfl
  obtain ⟨-, j, hj⟩ := h.on_path hA
  obtain ⟨-, k, hk⟩ := h.on_path hB
  have hnext : path n t (j + 1) = path n t (k + 1) := by
    rw [path_succ, path_succ, hj, hk, follow_feederA hm, follow_feederB hm]
  have heq := path_injective (by rwa [path_succ, hj, follow_feederA hm]) hnext
  rw [Nat.succ.inj heq, hk] at hj
  exact feederA_ne_feederB n m hj.symm

/-- Deciding a match for one of the two entrants that have come to it. -/
theorem Results.decide (h : Results n winner rounds) (hm : n ≤ m) (hlt : m < 2 * n - 1)
    (hnone : winner m = none) (hA : winner (feederA n m) ≠ none)
    (hB : winner (feederB n m) ≠ none) (hf : follow n f = m) (ht : winner f = some t) :
    Results n (Function.update winner m (some t))
      (Function.update rounds t (rounds t + 1)) := by
  have hlast := (h.path_rounds ht (by rwa [hf]) (by rwa [hf])).2
  have hmeet : path n t (rounds t + 1) = m := by rw [path_succ, hlast, hf]
  have hkeep : ∀ g, winner g ≠ none → Function.update winner m (some t) g = winner g := by
    intro g hg
    rw [Function.update_of_ne]
    rintro rfl
    exact hg hnone
  refine ⟨?_, ?_, ?_, ?_, ?_⟩
  · intro z hz
    rw [Function.update_of_ne (by omega), h.entrant z hz]
  · intro g hg
    rw [Function.update_of_ne (by omega), h.outside g hg]
  · intro g t' hg hwinner
    rcases eq_or_ne g m with rfl | hne
    · rw [Function.update_self, Option.some.injEq] at hwinner
      subst hwinner
      rw [hkeep _ hA, hkeep _ hB]
      refine ⟨hA, hB, ?_⟩
      rcases eq_feeder_of_follow hf with rfl | rfl
      · exact .inl ht
      · exact .inr ht
    · rw [Function.update_of_ne hne] at hwinner
      obtain ⟨hA', hB', hor⟩ := h.fed g t' hg hwinner
      rw [hkeep _ hA', hkeep _ hB']
      exact ⟨hA', hB', hor⟩
  · intro t' k ht' hk
    rcases eq_or_ne (path n t' k) m with heq | hne
    · rw [heq, Function.update_self, Option.some.injEq]
      rcases eq_or_ne t' t with rfl | hne
      · rw [Function.update_self]
        have hround := path_injective hk (heq.trans hmeet.symm)
        simp [hround]
      · rw [Function.update_of_ne hne, ← h.rounds_iff t' k ht' hk, heq, hnone]
        simp [hne.symm]
    · rw [Function.update_of_ne hne, h.rounds_iff t' k ht' hk]
      rcases eq_or_ne t' t with rfl | hne'
      · rw [Function.update_self]
        have hround : k ≠ rounds t' + 1 := fun h => hne (h ▸ hmeet)
        omega
      · rw [Function.update_of_ne hne']
  · intro t' ht'
    rcases eq_or_ne t' t with rfl | hne
    · rw [Function.update_self, hmeet]
      exact hlt
    · rw [Function.update_of_ne hne]
      exact h.within t' ht'

/-- What is left of the count of an entrant, after the matches of another
bracket state, says whether it wins its next match. -/
theorem Results.winner_iff_lt (h : Results n winner rounds) (h' : Results n winner' rounds')
    (hm : m < 2 * n - 1) (hf : follow n f = m) (hnone : winner' m = none)
    (ht : winner' f = some t) : winner m = some t ↔ rounds' t < rounds t := by
  obtain ⟨htn, hlast⟩ := h'.path_rounds ht (by rwa [hf]) (by rwa [hf])
  have hmeet : path n t (rounds' t + 1) = m := by rw [path_succ, hlast, hf]
  rw [← hmeet, h.rounds_iff t _ htn (by rwa [hmeet])]
  exact Nat.lt_iff_add_one_le.symm

theorem Results.le_of_le (h : Results n winner rounds) (h' : Results n winner' rounds')
    (hle : ∀ t, t < n → rounds' t ≤ rounds t) (hw : winner' m = some t) : winner m = some t := by
  obtain ⟨ht, k, rfl⟩ := h'.on_path hw
  have hlt := h'.lt_of_winner (by rw [hw]; simp)
  rw [h'.rounds_iff t k ht hlt] at hw
  rw [h.rounds_iff t k ht hlt]
  exact hw.trans (hle t ht)

/-- The counts of the two entrants that have come to a match in a bracket
state say what became of the match later. -/
theorem Results.replay_cases (h : Results n winner rounds) (h' : Results n winner' rounds')
    (hle : ∀ t, t < n → rounds' t ≤ rounds t) (hm : n ≤ m) (hlt : m < 2 * n - 1)
    (hnone : winner' m = none) {a b : Nat} (ha : winner' (feederA n m) = some a)
    (hb : winner' (feederB n m) = some b) :
    (winner m = none ∧ rounds a = rounds' a ∧ rounds b = rounds' b) ∨
      (winner m = some a ∧ rounds' a < rounds a ∧ rounds b = rounds' b) ∨
      (winner m = some b ∧ rounds a = rounds' a ∧ rounds' b < rounds b) := by
  have hwinA := h.winner_iff_lt h' hlt (follow_feederA hm) hnone ha
  have hwinB := h.winner_iff_lt h' hlt (follow_feederB hm) hnone hb
  have hleA := hle a (h'.on_path ha).1
  have hleB := hle b (h'.on_path hb).1
  have hA := h.le_of_le h' hle ha
  have hB := h.le_of_le h' hle hb
  have hne := h.winners_ne hm hlt hA hB
  rcases hw : winner m with _ | t
  · rw [hw] at hwinA hwinB
    simp only [reduceCtorEq, false_iff] at hwinA hwinB
    exact .inl ⟨rfl, by omega, by omega⟩
  · rw [hw, Option.some.injEq] at hwinA hwinB
    obtain ⟨-, -, hor⟩ := h.fed m t hm hw
    rw [hA, hB, Option.some.injEq, Option.some.injEq] at hor
    rcases hor with rfl | rfl
    · have hlose : ¬ rounds' b < rounds b := fun hlt => hne (hwinB.mpr hlt)
      exact .inr (.inl ⟨rfl, hwinA.mp rfl, by omega⟩)
    · have hlose : ¬ rounds' a < rounds a := fun hlt => hne (hwinA.mpr hlt).symm
      exact .inr (.inr ⟨rfl, by omega, hwinB.mp rfl⟩)

/-- A state in which no match is left to be replayed has all the results. -/
theorem Results.eq_of_replayed (h : Results n winner rounds) (h' : Results n winner' rounds')
    (hle : ∀ t, t < n → rounds' t ≤ rounds t)
    (hleft : ∀ m, n ≤ m → m < 2 * n - 1 → winner' m = none → winner' (feederA n m) ≠ none →
      winner' (feederB n m) ≠ none → winner m = none) :
    winner' = winner ∧ ∀ t, t < n → rounds' t = rounds t := by
  have hdecided : ∀ m, winner m ≠ none → winner' m ≠ none := by
    intro m hm hnone
    have hex : ∃ m, winner m ≠ none ∧ winner' m = none := ⟨m, hm, hnone⟩
    obtain ⟨hfirst, hfirst'⟩ := Nat.find_spec hex
    have hlt := h.lt_of_winner hfirst
    have hentrant : n ≤ Nat.find hex := by
      by_contra hlow
      rw [h'.entrant _ (by omega)] at hfirst'
      cases hfirst'
    obtain ⟨t, ht⟩ := Option.ne_none_iff_exists'.mp hfirst
    obtain ⟨hA, hB, -⟩ := h.fed _ t hentrant ht
    have hbefore : ∀ f, f < Nat.find hex → winner f ≠ none → winner' f ≠ none :=
      fun f hf hw hw' => Nat.find_min hex hf ⟨hw, hw'⟩
    exact hfirst (hleft _ hentrant hlt hfirst' (hbefore _ (feederA_lt hentrant hlt) hA)
      (hbefore _ (feederB_lt hentrant hlt) hB))
  have hwinner : winner' = winner := by
    funext m
    rcases hw : winner' m with _ | t
    · by_contra hne
      exact hdecided m (fun hnone => hne hnone.symm) hw
    · exact (h.le_of_le h' hle hw).symm
  refine ⟨hwinner, fun t ht => ?_⟩
  have hlast := (h.rounds_iff t (rounds t) ht (h.within t ht)).mpr le_rfl
  rw [← hwinner, h'.rounds_iff t (rounds t) ht (h.within t ht)] at hlast
  exact (hle t ht).antisymm hlast

/-- When the final is decided all matches are. -/
theorem Results.ne_none_of_final (h : Results n winner rounds)
    (hfinal : winner (2 * n - 2) ≠ none) (hm : m < 2 * n - 1) : winner m ≠ none := by
  intro hnone
  obtain ⟨g, -, -, hg, hnext⟩ := exists_frontier (P := fun g => winner g = none) hfinal hm hnone
  exact h.ne_none_of_follow hnext hg

/-- Until the final is decided there is a match to be played. -/
theorem Results.exists_ready (h : Results n winner rounds) (hn : 0 < n)
    (hfinal : winner (2 * n - 2) = none) :
    ∃ m, n ≤ m ∧ m < 2 * n - 1 ∧ winner m = none ∧ winner (feederA n m) ≠ none ∧
      winner (feederB n m) ≠ none := by
  have hex : ∃ m, winner m = none := ⟨2 * n - 2, hfinal⟩
  have hle : Nat.find hex ≤ 2 * n - 2 := Nat.find_min' hex hfinal
  have hm : n ≤ Nat.find hex := by
    by_contra hlt
    have hnone := Nat.find_spec hex
    rw [h.entrant _ (by omega)] at hnone
    cases hnone
  exact ⟨Nat.find hex, hm, by omega, Nat.find_spec hex,
    Nat.find_min hex (feederA_lt hm (by omega)), Nat.find_min hex (feederB_lt hm (by omega))⟩

/-- The entrant has lost the match after those it has won. -/
def Eliminated (n : Nat) (winner : Nat → Option Nat) (rounds : Nat → Nat) (t : Nat) : Prop :=
  winner (path n t (rounds t + 1)) ≠ none

/-- When a match is decided, the entrant that came there by the other feeder
is eliminated. -/
theorem Results.eliminated_decide (h : Results n winner rounds) (hlt : m < 2 * n - 1)
    (hnone : winner m = none) {f' : Nat} (hf : follow n f = m)
    (hf' : follow n f' = m) (hne : f ≠ f') (ht : winner f = some t) {t' : Nat}
    (ht' : winner f' = some t') {s : Nat} (hs : s < n) :
    Eliminated n (Function.update winner m (some t)) (Function.update rounds t (rounds t + 1)) s ↔
      Eliminated n winner rounds s ∨ s = t' := by
  have hlast := (h.path_rounds ht (by rwa [hf]) (by rwa [hf])).2
  have hlast' := (h.path_rounds ht' (by rwa [hf']) (by rwa [hf'])).2
  have hmeet : path n t (rounds t + 1) = m := by rw [path_succ, hlast, hf]
  have hmeet' : path n t' (rounds t' + 1) = m := by rw [path_succ, hlast', hf']
  have hnext : follow n m ≠ m := (lt_follow hlt).ne'
  have htt : t' ≠ t := by
    rintro rfl
    exact hne (hlast.symm.trans hlast')
  unfold Eliminated
  rcases eq_or_ne s t with rfl | hst
  · rw [Function.update_self, path_succ n s (rounds s + 1), hmeet, Function.update_of_ne hnext]
    simp only [hnone, ne_eq, not_true_eq_false, htt.symm, or_self, iff_false, not_not]
    by_contra hdecided
    exact h.ne_none_of_follow hdecided hnone
  · rw [Function.update_of_ne hst]
    rcases eq_or_ne s t' with rfl | hst'
    · rw [hmeet', Function.update_self]
      simp
    · simp only [hst', or_false]
      rw [Function.update_of_ne]
      intro heq
      have hcame : winner (path n s (rounds s)) = some s :=
        (h.rounds_iff s _ hs (h.within s hs)).mpr le_rfl
      rw [path_succ] at heq
      have hfeeder : path n s (rounds s) = f ∨ path n s (rounds s) = f' := by
        have hf := eq_feeder_of_follow hf
        have hf' := eq_feeder_of_follow hf'
        have hg := eq_feeder_of_follow heq
        omega
      rcases hfeeder with hg | hg
      · rw [hg, ht, Option.some.injEq] at hcame
        exact hst hcame.symm
      · rw [hg, ht', Option.some.injEq] at hcame
        exact hst' hcame.symm

end Results

end HuntersGuild.KnockoutBracket
