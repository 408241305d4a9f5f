import Mathlib.Data.List.Basic
import HuntersGuild.KnockoutBracket
import HuntersGuild.FuelLoop
import HuntersGuild.CallTrace
import HuntersGuild.TournamentOperations

/-!
The matches of a started tournament form a knockout bracket, and every
operation on results keeps it one. Pending are the undecided matches that at
least one team has come to.
-/

namespace HuntersGuild.TournamentBracket

open HuntersGuild.ExceptionRules
open HuntersGuild.KnockoutBracket
open HuntersGuild.FuelLoop
open HuntersGuild.CallTrace
open HuntersGuild.JsonValues
open HuntersGuild.TournamentOperations

/-! The bracket that is created. -/

def withoutRound (x : Match) : Match :=
  { x with roundNum := 0 }

/-- Match `m` in the bracket of `n` teams before any match is played. -/
def bracketMatch (n m : Nat) : Match where
  precedingA := if m < n then none else some (feederA n m)
  precedingB := if m < n then none else some (feederB n m)
  following := if m < 2 * n - 2 then some (follow n m) else none
  winnerTeam := if m < n then some m else none
  roundNum := 0

theorem bracketRounds_eq {n : Nat} (hmin : 4 ≤ n) (hmax : n ≤ 32) (hpow : n &&& (n - 1) = 0) :
    ∃ ms, bracketRounds n ((List.range n).map zeroRoundMatch) (List.range n) =
        .ok (ms, [2 * n - 2]) ∧
      ms.map withoutRound = (List.range (2 * n - 1)).map (bracketMatch n) := by
  have hsizes : ∀ k < 33, 4 ≤ k → k &&& (k - 1) = 0 → k = 4 ∨ k = 8 ∨ k = 16 ∨ k = 32 := by
    decide
  have hlinks : (bracketRounds n ((List.range n).map zeroRoundMatch) (List.range n)).toOption.map
        (fun result => (result.1.map withoutRound, result.2)) =
      some ((List.range (2 * n - 1)).map (bracketMatch n), [2 * n - 2]) := by
    obtain rfl | rfl | rfl | rfl := hsizes n (by omega) hmin hpow <;> decide +kernel
  rcases hrun : bracketRounds n ((List.range n).map zeroRoundMatch) (List.range n) with e | ⟨ms, last⟩
  · rw [hrun] at hlinks
    cases hlinks
  · rw [hrun] at hlinks
    simp only [Except.toOption, Option.map_some, Option.some.injEq, Prod.mk.injEq] at hlinks
    exact ⟨ms, by rw [hlinks.2], hlinks.1⟩

/-- The winner of a match, if there is one. -/
def winner (t : Tournament) (m : Nat) : Option Nat :=
  t.allMatches[m]?.bind Match.winnerTeam

/-- The number of rounds a team has cleared. -/
def rounds (t : Tournament) (team : Nat) : Nat :=
  (t.teams[team]?.map Team.numRoundsCleared).getD 0

/-- The tournament has the matches of a bracket of `n` teams. -/
structure Shape (n : Nat) (t : Tournament) : Prop where
  two_le : 2 ≤ n
  length_matches : t.allMatches.length = 2 * n - 1
  length_teams : t.teams.length = n
  links : ∀ m x, t.allMatches[m]? = some x →
    x.precedingA = (if m < n then none else some (feederA n m)) ∧
    x.precedingB = (if m < n then none else some (feederB n m)) ∧
    x.following = if m < 2 * n - 2 then some (follow n m) else none
  finalMatch_eq : t.finalMatch = some (2 * n - 2)
  zeroRoundMatches_eq : t.zeroRoundMatches = List.range n

/-- The results are those of a bracket in progress, and the teams that have
lost are inactive. -/
structure Standing (n : Nat) (t : Tournament) : Prop extends Shape n t where
  results : Results n (winner t) (rounds t)
  active : ∀ team x, t.teams[team]? = some x →
    (x.isActive = false ↔ Eliminated n (winner t) (rounds t) team)

/-- What no match result changes. -/
structure SameEntries (t t' : Tournament) : Prop where
  comDeckIndex_eq : t'.comDeckIndex = t.comDeckIndex
  mapNumber_eq : t'.mapNumber = t.mapNumber
  name_eq : t'.name = t.name
  rules_eq : t'.rules = t.rules
  flags_eq : t'.flags = t.flags
  teams_eq : t'.teams.map (fun x => (x.maxPlayers, x.players, x.name, x.password)) =
    t.teams.map (fun x => (x.maxPlayers, x.players, x.name, x.password))

theorem SameEntries.refl (t : Tournament) : SameEntries t t :=
  ⟨rfl, rfl, rfl, rfl, rfl, rfl⟩

theorem SameEntries.trans {t t' t'' : Tournament} (h : SameEntries t t')
    (h' : SameEntries t' t'') : SameEntries t t'' :=
  ⟨h'.comDeckIndex_eq.trans h.comDeckIndex_eq, h'.mapNumber_eq.trans h.mapNumber_eq,
    h'.name_eq.trans h.name_eq, h'.rules_eq.trans h.rules_eq, h'.flags_eq.trans h.flags_eq,
    h'.teams_eq.trans h.teams_eq⟩

section Access

variable {n : Nat} {t : Tournament}

theorem Shape.exists_match (h : Shape n t) {m : Nat} (hm : m < 2 * n - 1) :
    ∃ x, t.allMatches[m]? = some x ∧ t.getMatch m = .ok x ∧ x.winnerTeam = winner t m := by
  have hlt : m < t.allMatches.length := by rwa [h.length_matches]
  have hget := List.getElem?_eq_getElem hlt
  exact ⟨_, hget, by simp [Tournament.getMatch, hget], by simp [winner, hget]⟩

theorem Shape.getMatch_feeders (h : Shape n t) {m : Nat} (hm : n ≤ m) (hlt : m < 2 * n - 1) :
    ∃ x a b, t.getMatch m = .ok x ∧ t.allMatches[m]? = some x ∧
      x.precedingA = some (feederA n m) ∧
      x.precedingB = some (feederB n m) ∧ x.winnerTeam = winner t m ∧
      t.getMatch (feederA n m) = .ok a ∧ a.winnerTeam = winner t (feederA n m) ∧
      t.getMatch (feederB n m) = .ok b ∧ b.winnerTeam = winner t (feederB n m) := by
  obtain ⟨x, hget, hx, hwinner⟩ := h.exists_match hlt
  obtain ⟨a, -, ha, hwinnerA⟩ := h.exists_match ((feederA_lt hm hlt).trans hlt)
  obtain ⟨b, -, hb, hwinnerB⟩ := h.exists_match ((feederB_lt hm hlt).trans hlt)
  obtain ⟨hA, hB, -⟩ := h.links m x hget
  rw [if_neg (by omega)] at hA hB
  exact ⟨x, a, b, hx, hget, hA, hB, hwinner, ha, hwinnerA, hb, hwinnerB⟩

theorem Shape.exists_team (h : Shape n t) {team : Nat} (hteam : team < n) :
    ∃ x, t.teams[team]? = some x ∧ t.getTeam (some team) = .ok x := by
  have hlt : team < t.teams.length := by rwa [h.length_teams]
  have hget := List.getElem?_eq_getElem hlt
  exact ⟨_, hget, by simp [Tournament.getTeam, hget]⟩

end Access

/-! Setting a winner. -/

section SetWinner

variable {n : Nat} {t : Tournament}

/-- The lists of teams after one team has cleared a round and another one has
lost. -/
def advance (teams : List Team) (team loser : Nat) (x y : Team) : List Team :=
  (teams.set team { x with numRoundsCleared := x.numRoundsCleared + 1 }).set loser
    { y with isActive := false }

section Advance

variable {teams : List Team} {team loser : Nat} {x y : Team}

theorem advance_team (hne : team ≠ loser) (hteam : teams[team]? = some x) (y : Team) :
    (advance teams team loser x y)[team]? =
      some { x with numRoundsCleared := x.numRoundsCleared + 1 } := by
  obtain ⟨hlt, -⟩ := List.getElem?_eq_some_iff.mp hteam
  rw [advance, List.getElem?_set_ne hne.symm, List.getElem?_set_self hlt]

theorem advance_loser (hloser : teams[loser]? = some y) (team : Nat) (x : Team) :
    (advance teams team loser x y)[loser]? = some { y with isActive := false } := by
  obtain ⟨hlt, -⟩ := List.getElem?_eq_some_iff.mp hloser
  rw [advance, List.getElem?_set_self (by rwa [List.length_set])]

theorem advance_other {k : Nat} (hteam : k ≠ team) (hloser : k ≠ loser) (x y : Team) :
    (advance teams team loser x y)[k]? = teams[k]? := by
  rw [advance, List.getElem?_set_ne hloser.symm, List.getElem?_set_ne hteam.symm]

/-- Only the counts and the flags change. -/
theorem map_advance {α : Type} (f : Team → α) (hne : team ≠ loser)
    (hteam : teams[team]? = some x) (hloser : teams[loser]? = some y)
    (hx : f { x with numRoundsCleared := x.numRoundsCleared + 1 } = f x)
    (hy : f { y with isActive := false } = f y) :
    (advance teams team loser x y).map f = teams.map f := by
  apply List.ext_getElem?
  intro k
  rw [List.getElem?_map, List.getElem?_map]
  rcases eq_or_ne k loser with rfl | hloser'
  · rw [advance_loser hloser, hloser, Option.map_some, hy, Option.map_some]
  · rcases eq_or_ne k team with rfl | hteam'
    · rw [advance_team hne hteam, hteam, Option.map_some, hx, Option.map_some]
    · rw [advance_other hteam' hloser']

end Advance

theorem setWinnerTeamWithoutTriggers_eq (h : Shape n t) {m : Nat} (hm : n ≤ m)
    (hlt : m < 2 * n - 1) {team loser : Nat} {x y : Team} {matchM : Match}
    (hmatch : t.allMatches[m]? = some matchM)
    (hor : winner t (feederA n m) = some team ∧ winner t (feederB n m) = some loser ∨
      winner t (feederB n m) = some team ∧ winner t (feederA n m) = some loser)
    (hne : team ≠ loser) (hteam : t.teams[team]? = some x) (hloser : t.teams[loser]? = some y) :
    t.setWinnerTeamWithoutTriggers m (some team) = .ok { t with
      allMatches := t.allMatches.set m { matchM with winnerTeam := some team }
      teams := advance t.teams team loser x y } := by
  obtain ⟨x', a, b, hx, hget, hA, hB, -, ha, hwinnerA, hb, hwinnerB⟩ :=
    h.getMatch_feeders hm hlt
  obtain rfl : x' = matchM := by simpa [hget] using hmatch
  have hy : (t.teams.set team { x with numRoundsCleared := x.numRoundsCleared + 1 })[loser]? =
      some y := by
    rw [List.getElem?_set_ne hne, hloser]
  simp only [Tournament.setWinnerTeamWithoutTriggers, hx, ok_bind, hA, hB, ha, hb, hwinnerA,
    hwinnerB]
  rcases hor with ⟨h1, h2⟩ | ⟨h1, h2⟩
  · rw [h1, h2]
    simp [Tournament.getTeam, hteam, hy, pure, Except.pure, advance]
  · rw [h1, h2]
    have hne' : some team ≠ some loser := by simpa using hne
    simp [Tournament.getTeam, hteam, hy, hne', pure, Except.pure, advance]

/-- A match that one team has not come to cannot be decided: the losing team
is not there. -/
theorem setWinnerTeamWithoutTriggers_half (h : Standing n t) {m : Nat} (hm : n ≤ m)
    (hlt : m < 2 * n - 1) {team : Option Nat}
    (hor : team = winner t (feederA n m) ∨ team = winner t (feederB n m))
    (hnone : winner t (feederA n m) = none ∨ winner t (feederB n m) = none) :
    t.setWinnerTeamWithoutTriggers m team = .error .nullTeam := by
  obtain ⟨x, a, b, hx, -, hA, hB, -, ha, hwinnerA, hb, hwinnerB⟩ :=
    h.getMatch_feeders hm hlt
  simp only [Tournament.setWinnerTeamWithoutTriggers, hx, ok_bind, hA, hB, ha, hb, hwinnerA,
    hwinnerB]
  rw [if_neg (by tauto)]
  rcases team with _ | team
  · rfl
  · have hteam : team < n := by
      rcases hor with hor | hor
      · exact (h.results.on_path hor.symm).1
      · exact (h.results.on_path hor.symm).1
    obtain ⟨y, hy, -⟩ := h.exists_team hteam
    have hloser : (if some team = winner t (feederA n m) then winner t (feederB n m)
        else winner t (feederA n m)) = none := by
      rcases hor with hor | hor <;> rcases hnone with hnone | hnone <;> simp_all
    simp only [Tournament.getTeam, Option.bind_some, hy, ok_bind, hloser, Option.bind_none,
      error_bind]

theorem winner_set {m : Nat} {matchM : Match} (hmatch : t.allMatches[m]? = some matchM)
    (team : Nat) (teams : List Team) :
    winner { t with
      allMatches := t.allMatches.set m { matchM with winnerTeam := some team }
      teams := teams } = Function.update (winner t) m (some team) := by
  funext k
  obtain ⟨hlt, -⟩ := List.getElem?_eq_some_iff.mp hmatch
  rcases eq_or_ne k m with rfl | hne
  · simp [winner, hlt]
  · simp [winner, Function.update_of_ne hne, List.getElem?_set_ne hne.symm]

theorem rounds_advance {team loser : Nat} {x y : Team} (hne : team ≠ loser)
    (hteam : t.teams[team]? = some x) (hloser : t.teams[loser]? = some y) (ms : List Match) :
    rounds { t with allMatches := ms, teams := advance t.teams team loser x y } =
      Function.update (rounds t) team (rounds t team + 1) := by
  funext k
  unfold rounds
  rcases eq_or_ne k team with rfl | hteam'
  · rw [Function.update_self, advance_team hne hteam, hteam]
    rfl
  · rw [Function.update_of_ne hteam']
    rcases eq_or_ne k loser with rfl | hloser'
    · rw [advance_loser hloser, hloser]
      rfl
    · rw [advance_other hteam' hloser']

/-- Deciding a match both teams have come to, for one of them. -/
theorem Standing.setWinner (h : Standing n t) {m : Nat} (hm : n ≤ m) (hlt : m < 2 * n - 1)
    (hnone : winner t m = none) {f f' : Nat} (hf : follow n f = m) (hf' : follow n f' = m)
    (hff : f ≠ f') {team loser : Nat} (hteam : winner t f = some team)
    (hloser : winner t f' = some loser) :
    ∃ t', t.setWinnerTeamWithoutTriggers m (some team) = .ok t' ∧ Standing n t' ∧
      winner t' = Function.update (winner t) m (some team) ∧
      rounds t' = Function.update (rounds t) team (rounds t team + 1) ∧
      t'.pendingMatches = t.pendingMatches ∧ t'.currentState = t.currentState ∧
      SameEntries t t' := by
  have hor : winner t (feederA n m) = some team ∧ winner t (feederB n m) = some loser ∨
      winner t (feederB n m) = some team ∧ winner t (feederA n m) = some loser := by
    rcases eq_feeder_of_follow hf with rfl | rfl
    · rcases eq_feeder_of_follow hf' with rfl | rfl
      · exact absurd rfl hff
      · exact .inl ⟨hteam, hloser⟩
    · rcases eq_feeder_of_follow hf' with rfl | rfl
      · exact .inr ⟨hteam, hloser⟩
      · exact absurd rfl hff
  have hne : team ≠ loser := by
    rcases hor with ⟨hA, hB⟩ | ⟨hB, hA⟩
    · exact h.results.winners_ne hm hlt hA hB
    · exact (h.results.winners_ne hm hlt hA hB).symm
  obtain ⟨x, hx, -⟩ := h.exists_team (h.results.on_path hteam).1
  obtain ⟨y, hy, -⟩ := h.exists_team (h.results.on_path hloser).1
  obtain ⟨matchM, hmatch, -, -⟩ := h.exists_match hlt
  have hA : winner t (feederA n m) ≠ none := by
    rcases hor with ⟨hA, hB⟩ | ⟨hB, hA⟩ <;> simp [hA]
  have hB : winner t (feederB n m) ≠ none := by
    rcases hor with ⟨hA, hB⟩ | ⟨hB, hA⟩ <;> simp [hB]
  have hwinner := winner_set hmatch team (advance t.teams team loser x y)
  have hrounds := rounds_advance hne hx hy
    (t.allMatches.set m { matchM with winnerTeam := some team })
  refine ⟨_, setWinnerTeamWithoutTriggers_eq h.toShape hm hlt hmatch hor hne hx hy, ?_, hwinner,
    hrounds, rfl, rfl, rfl, rfl, rfl, rfl, rfl, ?_⟩
  · refine ⟨⟨h.two_le, ?_, ?_, ?_, h.finalMatch_eq, h.zeroRoundMatches_eq⟩, ?_, ?_⟩
    · simp [h.length_matches]
    · simp [advance, h.length_teams]
    · intro k z hz
      rcases eq_or_ne k m with rfl | hkm
      · obtain ⟨hk, -⟩ := List.getElem?_eq_some_iff.mp hmatch
        simp only [List.getElem?_set_self hk, Option.some.injEq] at hz
        subst hz
        exact h.links k matchM hmatch
      · rw [List.getElem?_set_ne hkm.symm] at hz
        exact h.links k z hz
    · rw [hwinner, hrounds]
      exact h.results.decide hm hlt hnone hA hB hf hteam
    · intro k z hz
      have hk : k < n := by
        obtain ⟨hk, -⟩ := List.getElem?_eq_some_iff.mp hz
        simpa [advance, h.length_teams] using hk
      rw [hwinner, hrounds,
        h.results.eliminated_decide hlt hnone hf hf' hff hteam hloser hk]
      rcases eq_or_ne k loser with rfl | hloser'
      · rw [advance_loser hy, Option.some.injEq] at hz
        simp [← hz]
      · simp only [hloser', or_false]
        rcases eq_or_ne k team with rfl | hteam'
        · rw [advance_team hne hx, Option.some.injEq] at hz
          rw [← h.active k x hx, ← hz]
        · rw [advance_other hteam' hloser'] at hz
          exact h.active k z hz
  · exact map_advance _ hne hx hy rfl rfl

theorem Standing.setWinner_of_or (h : Standing n t) {m : Nat} (hm : n ≤ m) (hlt : m < 2 * n - 1)
    (hnone : winner t m = none) (hA : winner t (feederA n m) ≠ none)
    (hB : winner t (feederB n m) ≠ none) {team : Nat}
    (hor : winner t (feederA n m) = some team ∨ winner t (feederB n m) = some team) :
    ∃ t', t.setWinnerTeamWithoutTriggers m (some team) = .ok t' ∧ Standing n t' ∧
      winner t' = Function.update (winner t) m (some team) ∧
      rounds t' = Function.update (rounds t) team (rounds t team + 1) ∧
      t'.pendingMatches = t.pendingMatches ∧ t'.currentState = t.currentState ∧
      SameEntries t t' := by
  have hff := feederA_ne_feederB n m
  rcases hor with hteam | hteam
  · obtain ⟨loser, hloser⟩ := Option.ne_none_iff_exists'.mp hB
    exact h.setWinner hm hlt hnone (follow_feederA hm) (follow_feederB hm) hff hteam hloser
  · obtain ⟨loser, hloser⟩ := Option.ne_none_iff_exists'.mp hA
    exact h.setWinner hm hlt hnone (follow_feederB hm) (follow_feederA hm) hff.symm hteam hloser

end SetWinner

/-! The pending matches. -/

/-- The winner of the node is known to the match it plays next. For the
entrants this comes about one by one. -/
def Announced (n : Nat) (zero : Nat → Prop) (t : Tournament) (m : Nat) : Prop :=
  winner t m ≠ none ∧ (n ≤ m ∨ zero m)

/-- The match is undecided and has heard of one of its teams. -/
def Awaits (n : Nat) (t : Tournament) (announced : Nat → Prop) (m : Nat) : Prop :=
  n ≤ m ∧ m < 2 * n - 1 ∧ winner t m = none ∧
    (announced (feederA n m) ∨ announced (feederB n m))

structure Progress (n : Nat) (zero : Nat → Prop) (t : Tournament) : Prop where
  pending_iff : ∀ m, m ∈ t.pendingMatches ↔ Awaits n t (Announced n zero t) m
  complete_iff : t.currentState = .complete ↔ winner t (2 * n - 2) ≠ none
  started : t.currentState ≠ .registration

/-- The state when `on_winner_team_set` is called for a node: its winner is
set but not announced. -/
structure Entering (n : Nat) (zero : Nat → Prop) (m : Nat) (t : Tournament) : Prop where
  decided : winner t m ≠ none
  pending_iff : ∀ f, f ≠ m →
    (f ∈ t.pendingMatches ↔ Awaits n t (fun x => x ≠ m ∧ Announced n zero t x) f)
  complete_iff : t.currentState = .complete ↔ winner t (2 * n - 2) ≠ none ∧ m ≠ 2 * n - 2
  started : t.currentState ≠ .registration

section Progress

variable {n m : Nat} {zero : Nat → Prop} {t : Tournament}

theorem awaits_congr {P Q : Nat → Prop}
    (h : ∀ x, follow n x = m → (P x ↔ Q x)) : Awaits n t P m ↔ Awaits n t Q m := by
  unfold Awaits
  refine and_congr_right fun hm => ?_
  rw [h _ (follow_feederA hm), h _ (follow_feederB hm)]

/-- Announcing a winner adds its next match, if that is undecided. -/
theorem awaits_announce (hm : m < 2 * n - 1) (hdecided : winner t m ≠ none) (f : Nat) :
    Awaits n t (Announced n (fun x => zero x ∨ x = m) t) f ↔
      Awaits n t (fun x => x ≠ m ∧ Announced n zero t x) f ∨
        f = follow n m ∧ f < 2 * n - 1 ∧ winner t f = none := by
  have hannounced : ∀ x, Announced n (fun x => zero x ∨ x = m) t x ↔
      (x ≠ m ∧ Announced n zero t x) ∨ x = m := by
    intro x
    unfold Announced
    rcases eq_or_ne x m with rfl | hne
    · simp [hdecided]
    · simp [hne]
  unfold Awaits
  constructor
  · rintro ⟨hf, hlt, hnone, hor⟩
    rw [hannounced, hannounced] at hor
    rcases hor with (hA | rfl) | (hB | rfl)
    · exact .inl ⟨hf, hlt, hnone, .inl hA⟩
    · exact .inr ⟨(follow_feederA hf).symm, hlt, hnone⟩
    · exact .inl ⟨hf, hlt, hnone, .inr hB⟩
    · exact .inr ⟨(follow_feederB hf).symm, hlt, hnone⟩
  · rintro (⟨hf, hlt, hnone, hor⟩ | ⟨rfl, hlt, hnone⟩)
    · refine ⟨hf, hlt, hnone, ?_⟩
      rw [hannounced, hannounced]
      exact hor.imp .inl .inl
    · refine ⟨le_follow n m, hlt, hnone, ?_⟩
      rw [hannounced, hannounced]
      rcases eq_feeder_of_follow (rfl : follow n m = follow n m) with heq | heq
      · exact .inl (.inr heq.symm)
      · exact .inr (.inr heq.symm)

/-- Once a winner has been announced, a tournament without pending matches
has its final decided. -/
theorem Standing.pending_nil_iff (h : Standing n t)
    (hpending : ∀ f, f ∈ t.pendingMatches ↔ Awaits n t (Announced n zero t) f)
    (hm : Announced n zero t m) : t.pendingMatches = [] ↔ winner t (2 * n - 2) ≠ none := by
  have hlt := h.results.lt_of_winner hm.1
  constructor
  · intro hnil hfinal
    obtain ⟨g, hor, hg, hdecided, hnone⟩ := exists_frontier (P := fun g => winner t g ≠ none)
      (by simpa using hfinal) hlt hm.1
    have hannounced : Announced n zero t g := by
      rcases hor with rfl | hle
      · exact hm
      · exact ⟨hdecided, .inl hle⟩
    have hmem : follow n g ∈ t.pendingMatches := by
      rw [hpending]
      refine ⟨le_follow n g, follow_lt hg, by simpa using hnone, ?_⟩
      rcases eq_feeder_of_follow (rfl : follow n g = follow n g) with heq | heq
      · exact .inl (heq ▸ hannounced)
      · exact .inr (heq ▸ hannounced)
    simp [hnil] at hmem
  · intro hfinal
    apply List.eq_nil_iff_forall_not_mem.mpr
    intro f hf
    obtain ⟨-, hlt, hnone, -⟩ := (hpending f).mp hf
    exact h.results.ne_none_of_final hfinal hlt hnone

theorem Standing.checkComplete (h : Standing n t)
    (hpending : ∀ f, f ∈ t.pendingMatches ↔ Awaits n t (Announced n zero t) f)
    (hm : Announced n zero t m) (hstarted : t.currentState ≠ .registration)
    (hcomplete : t.currentState = .complete → winner t (2 * n - 2) ≠ none) :
    Standing n t.checkComplete ∧ Progress n zero t.checkComplete ∧
      SameEntries t t.checkComplete ∧ winner t.checkComplete = winner t := by
  have hnil := h.pending_nil_iff hpending hm
  unfold Tournament.checkComplete
  split
  · rename_i hempty
    have hfinal := hnil.mp (List.isEmpty_iff.mp hempty)
    exact ⟨⟨⟨h.two_le, h.length_matches, h.length_teams, h.links, h.finalMatch_eq,
      h.zeroRoundMatches_eq⟩, h.results, h.active⟩, ⟨hpending, iff_of_true rfl hfinal, by simp⟩,
      ⟨rfl, rfl, rfl, rfl, rfl, rfl⟩, rfl⟩
  · rename_i hne
    refine ⟨h, ⟨hpending, ⟨hcomplete, fun hfinal => ?_⟩, hstarted⟩, SameEntries.refl t, rfl⟩
    exact absurd (List.isEmpty_iff.mpr (hnil.mpr hfinal)) hne

theorem skipWinner_cases (h : Standing n t) (coin : Nat → Bool) (f : Nat)
    (hA : ∀ x, winner t (feederA n m) = some x → x < n)
    (hB : ∀ x, winner t (feederB n m) = some x → x < n) :
    t.skipWinner coin f (winner t (feederA n m)) (winner t (feederB n m)) = .ok none ∨
      ∃ team, t.skipWinner coin f (winner t (feederA n m)) (winner t (feederB n m)) =
          .ok (some team) ∧
        winner t (feederA n m) ≠ none ∧ winner t (feederB n m) ≠ none ∧
        (winner t (feederA n m) = some team ∨ winner t (feederB n m) = some team) := by
  unfold Tournament.skipWinner
  rcases hwinnerA : winner t (feederA n m) with _ | a
  · exact .inl rfl
  rcases hwinnerB : winner t (feederB n m) with _ | b
  · exact .inl rfl
  obtain ⟨x, -, hx⟩ := h.exists_team (hA a hwinnerA)
  obtain ⟨y, -, hy⟩ := h.exists_team (hB b hwinnerB)
  simp only [reduceCtorEq, or_self, if_false, hx, hy, ok_bind]
  split
  · refine .inr ?_
    split
    · exact ⟨b, rfl, by simp, by simp, .inr rfl⟩
    · exact ⟨a, rfl, by simp, by simp, .inl rfl⟩
  · split
    · refine .inr ?_
      split
      · exact ⟨b, rfl, by simp, by simp, .inr rfl⟩
      · exact ⟨a, rfl, by simp, by simp, .inl rfl⟩
    · exact .inl rfl

theorem resolveIfSkippable_cases (h : Standing n t) (coin : Nat → Bool)
    (setWinner : Nat → Option Nat → Tournament → Except TournamentError Tournament)
    (hm : n ≤ m) (hlt : m < 2 * n - 1) :
    (winner t m ≠ none ∧ t.resolveIfSkippable coin setWinner m = .ok (true, t)) ∨
      (winner t m = none ∧ t.resolveIfSkippable coin setWinner m = .ok (false, t)) ∨
      (winner t m = none ∧ winner t (feederA n m) ≠ none ∧ winner t (feederB n m) ≠ none ∧
        ∃ team, (winner t (feederA n m) = some team ∨ winner t (feederB n m) = some team) ∧
          t.resolveIfSkippable coin setWinner m =
            (setWinner m (some team) t >>= fun t => .ok (true, t))) := by
  obtain ⟨x, a, b, hx, -, hA, hB, hwinner, ha, hwinnerA, hb, hwinnerB⟩ :=
    h.getMatch_feeders hm hlt
  unfold Tournament.resolveIfSkippable
  simp only [hx, ok_bind, hwinner]
  by_cases hdecided : winner t m ≠ none
  · refine .inl ⟨hdecided, ?_⟩
    rw [if_pos hdecided]
    rfl
  · refine .inr ?_
    rw [if_neg hdecided]
    simp only [hA, hB, ha, hb, ok_bind, hwinnerA, hwinnerB]
    have hnone : winner t m = none := by simpa using hdecided
    rcases skipWinner_cases (m := m) h coin m (fun x hx => (h.results.on_path hx).1)
        (fun x hx => (h.results.on_path hx).1) with hskip | ⟨team, hskip, hA', hB', hor⟩
    · refine .inl ⟨hnone, ?_⟩
      rw [hskip]
      rfl
    · refine .inr ⟨hnone, hA', hB', team, hor, ?_⟩
      rw [hskip]
      rfl

/-- After a match has been decided its losing team is there. -/
theorem Standing.unlinkLosingTeam (h : Standing n t) (hm : m < 2 * n - 1) {x : Match}
    (hx : x.precedingA = (if m < n then none else some (feederA n m)) ∧
      x.precedingB = (if m < n then none else some (feederB n m)))
    (hdecided : winner t m ≠ none) : t.unlinkLosingTeam x = .ok () := by
  unfold Tournament.unlinkLosingTeam
  rw [hx.1, hx.2]
  by_cases hleaf : m < n
  · rw [if_pos hleaf]
    rfl
  · have hle : n ≤ m := Nat.le_of_not_lt hleaf
    obtain ⟨team, hteam⟩ := Option.ne_none_iff_exists'.mp hdecided
    obtain ⟨hA, hB, -⟩ := h.results.fed m team hle hteam
    obtain ⟨a, ha⟩ := Option.ne_none_iff_exists'.mp hA
    obtain ⟨b, hb⟩ := Option.ne_none_iff_exists'.mp hB
    obtain ⟨-, xa, xb, -, -, -, -, -, hxa, hwa, hxb, hwb⟩ := h.getMatch_feeders hle hm
    obtain ⟨ya, -, hya⟩ := h.exists_team (h.results.on_path ha).1
    obtain ⟨yb, -, hyb⟩ := h.exists_team (h.results.on_path hb).1
    rw [if_neg hleaf, if_neg hleaf]
    simp only [hxa, hxb, ok_bind, hwa, hwb, ha, hb]
    split
    · rw [hyb]
      rfl
    · rw [hya]
      rfl

/-- A state in which the following match of `m` has been dealt with, but not
yet the end of the tournament. -/
structure Announcing (n : Nat) (zero : Nat → Prop) (m : Nat) (t t' : Tournament) : Prop where
  standing : Standing n t'
  pending_iff : ∀ f, f ∈ t'.pendingMatches ↔
    Awaits n t' (Announced n (fun x => zero x ∨ x = m) t') f
  started : t'.currentState ≠ .registration
  complete : t'.currentState = .complete → winner t' (2 * n - 2) ≠ none
  same : SameEntries t t'
  mono : ∀ x, winner t x ≠ none → winner t' x = winner t x

theorem Standing.removePending (h : Standing n t) (m : Nat) : Standing n (t.removePending m) :=
  ⟨⟨h.two_le, h.length_matches, h.length_teams, h.links, h.finalMatch_eq,
    h.zeroRoundMatches_eq⟩, h.results, h.active⟩

theorem Standing.addPending (h : Standing n t) (m : Nat) : Standing n (t.addPending m) :=
  ⟨⟨h.two_le, h.length_matches, h.length_teams, h.links, h.finalMatch_eq,
    h.zeroRoundMatches_eq⟩, h.results, h.active⟩

theorem Entering.mem_removePending (h : Entering n zero m t) (f : Nat) :
    f ∈ (t.removePending m).pendingMatches ↔
      Awaits n t (fun x => x ≠ m ∧ Announced n zero t x) f := by
  simp only [Tournament.removePending, List.mem_filter, decide_eq_true_eq]
  rcases eq_or_ne f m with rfl | hne
  · simp [Awaits, h.decided]
  · rw [h.pending_iff f hne]
    simp [hne]

theorem Entering.complete (h : Entering n zero m t)
    (hcomplete : t.currentState = .complete) : winner t (2 * n - 2) ≠ none :=
  (h.complete_iff.mp hcomplete).1

/-- Deciding the following match of a node whose winner is set. -/
theorem Entering.deciding (h : Entering n zero m t) (hstanding : Standing n t) {t' : Tournament}
    (hlt : follow n m < 2 * n - 1) (hnone : winner t (follow n m) = none) {team : Nat}
    (hwinner : winner t' = Function.update (winner t) (follow n m) (some team))
    (hpending : t'.pendingMatches = (t.removePending m).pendingMatches)
    (hstate : t'.currentState = t.currentState) :
    Entering n (fun x => zero x ∨ x = m) (follow n m) t' := by
  have hroot : winner t (2 * n - 2) = none := by
    by_contra hfinal
    exact hstanding.results.ne_none_of_final hfinal hlt hnone
  refine ⟨by rw [hwinner, Function.update_self]; simp, ?_, ?_, ?_⟩
  · intro f hf
    rw [hpending, h.mem_removePending]
    have hsame : winner t' f = winner t f := by rw [hwinner, Function.update_of_ne hf]
    unfold Awaits
    rw [hsame]
    refine and_congr_right fun hle => and_congr_right fun _ => and_congr_right fun _ => ?_
    have hfeeder : ∀ x, follow n x = f →
        ((x ≠ m ∧ Announced n zero t x) ↔
          (x ≠ follow n m ∧
            Announced n (fun x => zero x ∨ x = m) t' x)) := by
      intro x hx
      have hne : x ≠ m := by
        rintro rfl
        exact hf hx.symm
      unfold Announced
      rcases eq_or_ne x (follow n m) with rfl | hx'
      · simp [hnone]
      · rw [hwinner, Function.update_of_ne hx']
        simp [hne, hx']
    exact or_congr (hfeeder _ (follow_feederA hle)) (hfeeder _ (follow_feederB hle))
  · rw [hstate, h.complete_iff]
    constructor
    · rintro ⟨hfinal, -⟩
      exact absurd hroot hfinal
    · rintro ⟨hfinal, hne⟩
      rw [hwinner, Function.update_of_ne hne.symm] at hfinal
      exact absurd hroot hfinal
  · rw [hstate]
    exact h.started

/-- Nothing follows, or the following match is decided already. -/
theorem Entering.announcing_of_decided (h : Entering n zero m t) (hstanding : Standing n t)
    (hdecided : follow n m < 2 * n - 1 → winner t (follow n m) ≠ none) :
    Announcing n zero m t (t.removePending m) := by
  refine ⟨hstanding.removePending m, ?_, h.started, h.complete, ⟨rfl, rfl, rfl, rfl, rfl, rfl⟩,
    fun _ _ => rfl⟩
  intro f
  rw [h.mem_removePending]
  refine Iff.trans ?_ (awaits_announce (hstanding.results.lt_of_winner h.decided) h.decided f).symm
  refine (or_iff_left ?_).symm
  rintro ⟨rfl, hlt, hnone⟩
  exact hdecided hlt hnone

/-- The following match becomes pending. -/
theorem Entering.announcing_of_pending (h : Entering n zero m t) (hstanding : Standing n t)
    (hlt : follow n m < 2 * n - 1) (hnone : winner t (follow n m) = none) :
    Announcing n zero m t ((t.removePending m).addPending (follow n m)) := by
  refine ⟨(hstanding.removePending m).addPending _, ?_, h.started, h.complete,
    ⟨rfl, rfl, rfl, rfl, rfl, rfl⟩, fun _ _ => rfl⟩
  intro f
  have hmem : f ∈ ((t.removePending m).addPending (follow n m)).pendingMatches ↔
      f ∈ (t.removePending m).pendingMatches ∨ f = follow n m := by
    unfold Tournament.addPending
    dsimp only
    split
    · rename_i hin
      refine (or_iff_left_of_imp ?_).symm
      rintro rfl
      exact hin
    · simp
  rw [hmem, h.mem_removePending]
  refine Iff.trans ?_ (awaits_announce (hstanding.results.lt_of_winner h.decided) h.decided f).symm
  refine or_congr_right ⟨?_, And.left⟩
  rintro rfl
  exact ⟨rfl, hlt, hnone⟩

/-- What comes of the following match, when deciding it works. -/
theorem Entering.resolveFollowing (h : Entering n zero m t) (hstanding : Standing n t)
    (coin : Nat → Bool)
    (setWinner : Nat → Option Nat → Tournament → Except TournamentError Tournament)
    (hset : ∀ team t1, winner t (follow n m) = none → follow n m < 2 * n - 1 →
      (t.removePending m).setWinnerTeamWithoutTriggers (follow n m) (some team) = .ok t1 →
      Standing n t1 → Entering n (fun x => zero x ∨ x = m) (follow n m) t1 →
      ∃ t', setWinner (follow n m) (some team) (t.removePending m) = .ok t' ∧ Standing n t' ∧
        Progress n (fun x => (zero x ∨ x = m) ∨ x = follow n m) t' ∧ SameEntries t1 t' ∧
        ∀ x, winner t1 x ≠ none → winner t' x = winner t1 x) :
    ∃ t', (t.removePending m).resolveFollowing coin setWinner
        (if m < 2 * n - 2 then some (follow n m) else none) = .ok t' ∧
      Announcing n zero m t t' := by
  have hremoved := hstanding.removePending m
  by_cases hlast : m < 2 * n - 2
  · rw [if_pos hlast]
    have hlt := follow_lt hlast
    have hle := le_follow n m
    unfold Tournament.resolveFollowing
    dsimp only
    rcases resolveIfSkippable_cases hremoved coin setWinner hle hlt with
      ⟨hdecided, hrun⟩ | ⟨hnone, hrun⟩ | ⟨hnone, hA, hB, team, hor, hrun⟩
    · refine ⟨_, ?_, h.announcing_of_decided hstanding fun _ => hdecided⟩
      rw [hrun]
      rfl
    · refine ⟨_, ?_, h.announcing_of_pending hstanding hlt hnone⟩
      rw [hrun]
      rfl
    · obtain ⟨t1, hset1, hstanding1, hwinner, -, hpending, hstate, hsame⟩ :=
        hremoved.setWinner_of_or hle hlt hnone hA hB hor
      have hentering := h.deciding hstanding hlt hnone hwinner hpending hstate
      obtain ⟨t', hrun', hstanding', hprogress, hsame', hmono⟩ :=
        hset team t1 hnone hlt hset1 hstanding1 hentering
      refine ⟨t', ?_, hstanding', ?_, hprogress.started, hprogress.complete_iff.mp, ?_, ?_⟩
      · rw [hrun, hrun']
        rfl
      · intro f
        rw [hprogress.pending_iff]
        apply awaits_congr
        intro x _
        unfold Announced
        refine and_congr_right fun _ => ?_
        constructor
        · rintro (hx | hx | rfl)
          · exact .inl hx
          · exact .inr hx
          · exact .inl hle
        · exact Or.imp_right .inl
      · exact SameEntries.trans ⟨hsame.comDeckIndex_eq, hsame.mapNumber_eq, hsame.name_eq,
          hsame.rules_eq, hsame.flags_eq, hsame.teams_eq⟩ hsame'
      · intro x hx
        have hne : x ≠ follow n m := by
          rintro rfl
          exact hx hnone
        have hx1 : winner t1 x = winner t x := by
          rw [hwinner, Function.update_of_ne hne]
          rfl
        rw [hmono x (by rw [hx1]; exact hx), hx1]
  · rw [if_neg hlast]
    refine ⟨_, rfl, h.announcing_of_decided hstanding fun hlt => ?_⟩
    have hm := hstanding.results.lt_of_winner h.decided
    unfold follow at hlt
    have htwo := hstanding.two_le
    omega

/-- `on_winner_team_set` announces a winner and decides what can be skipped
after it. -/
theorem Standing.onWinnerTeamSet (coin : Nat → Bool) {fuel : Nat} (h : Standing n t)
    (hentering : Entering n zero m t) (hfuel : 2 * n - 1 ≤ m + fuel) :
    ∃ t', Tournament.onWinnerTeamSet coin fuel m t = .ok t' ∧ Standing n t' ∧
      Progress n (fun x => zero x ∨ x = m) t' ∧ SameEntries t t' ∧
      ∀ x, winner t x ≠ none → winner t' x = winner t x := by
  induction fuel generalizing m zero t with
  | zero =>
      have hlt := h.results.lt_of_winner hentering.decided
      omega
  | succ fuel ih =>
      have hlt := h.results.lt_of_winner hentering.decided
      obtain ⟨matchM, hget, hmatch, -⟩ := (h.removePending m).exists_match hlt
      obtain ⟨hA, hB, hfollowing⟩ := (h.removePending m).links m matchM hget
      obtain ⟨t', hrun, hannouncing⟩ : ∃ t', (t.removePending m).resolveFollowing coin
          (fun f team self => do
            let self ← Tournament.setWinnerTeamWithoutTriggers f team self
            Tournament.onWinnerTeamSet coin fuel f self) matchM.following = .ok t' ∧
          Announcing n zero m t t' := by
        rw [hfollowing]
        refine hentering.resolveFollowing h coin _ ?_
        intro team t1 _ _ hset hstanding hentering1
        have hless := lt_follow hlt
        obtain ⟨t', hrun, hrest⟩ := ih hstanding hentering1 (by omega)
        exact ⟨t', by simp only [hset, ok_bind, hrun], hrest⟩
      have hannounced : Announced n (fun x => zero x ∨ x = m) t' m :=
        ⟨by rw [hannouncing.mono m hentering.decided]; exact hentering.decided, .inr (.inr rfl)⟩
      obtain ⟨hstanding, hprogress, hsame, hwinner⟩ := hannouncing.standing.checkComplete
        hannouncing.pending_iff hannounced hannouncing.started hannouncing.complete
      refine ⟨t'.checkComplete, ?_, hstanding, hprogress, hannouncing.same.trans hsame, ?_⟩
      · have hunlink := hstanding.unlinkLosingTeam hlt ⟨hA, hB⟩
          (by rw [hwinner]; exact hannounced.1)
        simp only [Tournament.onWinnerTeamSet, hmatch, ok_bind]
        refine bind_of_ok hrun ?_
        rw [hunlink]
        rfl
      · intro x hx
        rw [hwinner, hannouncing.mono x hx]

end Progress

/-! Operations between matches. -/

/-- A started tournament, between two operations. -/
structure Running (n : Nat) (t : Tournament) : Prop where
  standing : Standing n t
  progress : Progress n (fun _ => True) t

/-- The match waits for a team while another one has come to it already. -/
def HalfReady (n : Nat) (t : Tournament) (m : Nat) : Prop :=
  winner t (feederA n m) = none ∨ winner t (feederB n m) = none

section Running

variable {n m : Nat} {t : Tournament}

theorem Running.awaits (h : Running n t) (hm : m ∈ t.pendingMatches) :
    n ≤ m ∧ m < 2 * n - 1 ∧ winner t m = none := by
  obtain ⟨hle, hlt, hnone, -⟩ := (h.progress.pending_iff m).mp hm
  exact ⟨hle, hlt, hnone⟩

/-- A pending match that both teams have come to is decided for one of them. -/
theorem Running.setWinnerTeam (h : Running n t) (coin : Nat → Bool) (hm : m ∈ t.pendingMatches)
    (hready : ¬ HalfReady n t m) {team : Nat}
    (hor : winner t (feederA n m) = some team ∨ winner t (feederB n m) = some team) :
    ∃ t', t.setWinnerTeam coin m (some team) = .ok t' ∧ Running n t' ∧ SameEntries t t' := by
  obtain ⟨hle, hlt, hnone⟩ := h.awaits hm
  simp only [HalfReady, not_or] at hready
  obtain ⟨t1, hset, hstanding, hwinner, -, hpending, hstate, hsame⟩ :=
    h.standing.setWinner_of_or hle hlt hnone hready.1 hready.2 hor
  have hroot : winner t (2 * n - 2) = none := by
    by_contra hfinal
    exact h.standing.results.ne_none_of_final hfinal hlt hnone
  have hentering : Entering n (fun _ => True) m t1 := by
    refine ⟨by rw [hwinner, Function.update_self]; simp, ?_, ?_, ?_⟩
    · intro f hf
      rw [hpending, h.progress.pending_iff]
      unfold Awaits Announced
      have hfeeder : ∀ x, (winner t x ≠ none ∧ (n ≤ x ∨ True)) ↔
          (x ≠ m ∧ winner t1 x ≠ none ∧ (n ≤ x ∨ True)) := by
        intro x
        rcases eq_or_ne x m with rfl | hne
        · simp [hnone]
        · simp [hwinner, hne]
      simp only [hfeeder]
      rw [hwinner, Function.update_of_ne hf]
    · rw [hstate, h.progress.complete_iff]
      constructor
      · intro hfinal
        exact absurd hroot hfinal
      · rintro ⟨hfinal, hne⟩
        rw [hwinner, Function.update_of_ne hne.symm] at hfinal
        exact absurd hroot hfinal
    · rw [hstate]
      exact h.progress.started
  obtain ⟨t', hrun, hstanding', hprogress, hsame', -⟩ :=
    hstanding.onWinnerTeamSet coin hentering
      (by rw [hstanding.length_matches]; omega : 2 * n - 1 ≤ m + t1.allMatches.length)
  refine ⟨t', ?_, ⟨hstanding', ?_⟩, hsame.trans hsame'⟩
  · simp only [Tournament.setWinnerTeam, hset, ok_bind, hrun]
  · simpa using hprogress

theorem Running.setWinnerTeam_half (h : Running n t) (coin : Nat → Bool)
    (hm : m ∈ t.pendingMatches) (hhalf : HalfReady n t m) (team : Option Nat)
    (hor : team = winner t (feederA n m) ∨ team = winner t (feederB n m)) :
    t.setWinnerTeam coin m team = .error .nullTeam := by
  obtain ⟨hle, hlt, -⟩ := h.awaits hm
  simp only [Tournament.setWinnerTeam,
    setWinnerTeamWithoutTriggers_half h.standing hle hlt hor hhalf, error_bind]

/-- A withdrawal decides at most one match, unless the opponent is not there. -/
theorem Running.forfeit (h : Running n t) (coin : Nat → Bool) (team : Nat)
    {traversal : List Nat} (hall : ∀ m ∈ traversal, m ∈ t.pendingMatches) :
    (∃ t', t.forfeit coin team traversal = .ok t' ∧ Running n t') ∨
      t.forfeit coin team traversal = .error .nullTeam ∧
        ∃ m ∈ traversal, HalfReady n t m ∧
          (winner t (feederA n m) = some team ∨ winner t (feederB n m) = some team) := by
  induction traversal with
  | nil => exact .inl ⟨t, rfl, h⟩
  | cons m rest ih =>
      have hm := hall m List.mem_cons_self
      obtain ⟨hle, hlt, -⟩ := h.awaits hm
      obtain ⟨x, a, b, hx, -, hA, hB, -, ha, hwinnerA, hb, hwinnerB⟩ :=
        h.standing.getMatch_feeders hle hlt
      simp only [Tournament.forfeit, hx, ok_bind, hA, hB, ha, hb, hwinnerA, hwinnerB]
      by_cases hteamA : winner t (feederA n m) = some team
      · rw [if_pos hteamA]
        by_cases hhalf : HalfReady n t m
        · exact .inr ⟨h.setWinnerTeam_half coin hm hhalf _ (.inr rfl), m, List.mem_cons_self,
            hhalf, .inl hteamA⟩
        · obtain ⟨loser, hloser⟩ := Option.ne_none_iff_exists'.mp (not_or.mp hhalf).2
          obtain ⟨t', hrun, ht', -⟩ := h.setWinnerTeam coin hm hhalf (.inr hloser)
          exact .inl ⟨t', by rw [hloser, hrun], ht'⟩
      · rw [if_neg hteamA]
        by_cases hteamB : winner t (feederB n m) = some team
        · rw [if_pos hteamB]
          by_cases hhalf : HalfReady n t m
          · exact .inr ⟨h.setWinnerTeam_half coin hm hhalf _ (.inl rfl), m, List.mem_cons_self,
              hhalf, .inr hteamB⟩
          · obtain ⟨loser, hloser⟩ := Option.ne_none_iff_exists'.mp (not_or.mp hhalf).1
            obtain ⟨t', hrun, ht', -⟩ := h.setWinnerTeam coin hm hhalf (.inl hloser)
            exact .inl ⟨t', by rw [hloser, hrun], ht'⟩
        · rw [if_neg hteamB]
          rcases ih fun m' hm' => hall m' (List.mem_cons_of_mem m hm') with
            hok | ⟨herror, m', hm', hrest⟩
          · exact .inl hok
          · exact .inr ⟨herror, m', List.mem_cons_of_mem m hm', hrest⟩

/-- A change of a team that leaves its count and its flag alone. -/
theorem Running.setTeam (h : Running n t) {team : Nat} {x y : Team}
    (hx : t.teams[team]? = some x) (hcount : y.numRoundsCleared = x.numRoundsCleared)
    (hactive : y.isActive = x.isActive) :
    Running n { t with teams := t.teams.set team y } := by
  obtain ⟨hlt, -⟩ := List.getElem?_eq_some_iff.mp hx
  have hrounds : rounds { t with teams := t.teams.set team y } = rounds t := by
    funext k
    unfold rounds
    rcases eq_or_ne k team with rfl | hne
    · rw [List.getElem?_set_self hlt, hx, Option.map_some, Option.map_some, hcount]
    · rw [List.getElem?_set_ne hne.symm]
  refine ⟨⟨⟨h.standing.two_le, h.standing.length_matches, ?_, h.standing.links,
    h.standing.finalMatch_eq, h.standing.zeroRoundMatches_eq⟩, ?_, ?_⟩,
    ⟨h.progress.pending_iff, h.progress.complete_iff, h.progress.started⟩⟩
  · simp [h.standing.length_teams]
  · rw [hrounds]
    exact h.standing.results
  · intro k z hz
    rw [hrounds]
    rcases eq_or_ne k team with rfl | hne
    · rw [List.getElem?_set_self hlt, Option.some.injEq] at hz
      rw [← hz, hactive]
      exact h.standing.active k x hx
    · rw [List.getElem?_set_ne hne.symm] at hz
      exact h.standing.active k z hz

theorem Running.unregisterPlayer (h : Running n t) (coin : Nat → Bool) {traversal : List Nat}
    (htraversal : traversal.Perm t.pendingMatches) {team : Nat} (hteam : team < n)
    (accountId : UInt32) :
    (∃ b t', t.unregisterPlayer coin traversal team accountId = .ok (b, t') ∧ Running n t') ∨
      t.unregisterPlayer coin traversal team accountId = .error .nullTeam ∧
        ∃ m ∈ t.pendingMatches, HalfReady n t m ∧
          (winner t (feederA n m) = some team ∨ winner t (feederB n m) = some team) := by
  obtain ⟨x, hx, hget⟩ := h.standing.exists_team hteam
  simp only [Tournament.unregisterPlayer, hget, ok_bind]
  split
  · exact .inl ⟨false, t, rfl, h⟩
  · rw [if_pos h.progress.started]
    rename_i index _
    have hset := h.setTeam (y := x.withoutPlayer index) hx rfl rfl
    rcases hset.forfeit coin team (fun m hm => htraversal.mem_iff.mp hm) with
      ⟨t', hrun, ht'⟩ | ⟨herror, m, hm, hhalf, hor⟩
    · refine .inl ⟨true, t', ?_, ht'⟩
      rw [hrun]
      rfl
    · refine .inr ⟨?_, m, htraversal.mem_iff.mp hm, hhalf, hor⟩
      rw [herror]
      rfl

end Running

end HuntersGuild.TournamentBracket
