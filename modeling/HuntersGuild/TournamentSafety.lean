import HuntersGuild.TournamentStart

/-!
What holds of the bracket in every run of results and withdrawals, from the
start of the tournament on.
-/

namespace HuntersGuild.TournamentSafety

open HuntersGuild.ExceptionRules
open HuntersGuild.KnockoutBracket
open HuntersGuild.CallTrace
open HuntersGuild.JsonValues
open HuntersGuild.TournamentOperations
open HuntersGuild.TournamentBracket
open HuntersGuild.TournamentStart

/-! The bracket as its pointers show it. -/

def precedingWinnerA (t : Tournament) (m : Nat) : Option Nat :=
  (t.allMatches[m]?.bind Match.precedingA).bind (winner t)

def precedingWinnerB (t : Tournament) (m : Nat) : Option Nat :=
  (t.allMatches[m]?.bind Match.precedingB).bind (winner t)

/-- The team has come to the match. -/
def Participates (t : Tournament) (m team : Nat) : Prop :=
  precedingWinnerA t m = some team ∨ precedingWinnerB t m = some team

/-- Both teams have come to the match. -/
def BothKnown (t : Tournament) (m : Nat) : Prop :=
  precedingWinnerA t m ≠ none ∧ precedingWinnerB t m ≠ none

/-- Pending are the undecided matches that at least one team has come to, and
the tournament ends with its final match. -/
structure Safe (t : Tournament) : Prop where
  pending_iff : ∀ m, m ∈ t.pendingMatches ↔
    winner t m = none ∧ (precedingWinnerA t m ≠ none ∨ precedingWinnerB t m ≠ none)
  complete_iff : t.currentState = .complete ↔ t.finalMatch.bind (winner t) ≠ none

/-- What happens to a started tournament. A withdrawal traverses the pending
matches in an order of its own. -/
inductive Call where
  | setWinnerTeam (m team : Nat) (coin : Nat → Bool)
  | unregisterPlayer (team : Nat) (accountId : UInt32) (traversal : List Nat)
      (coin : Nat → Bool)

def call : Call → Tournament → Except TournamentError (Bool × Tournament)
  | .setWinnerTeam m team coin, t => do return (true, ← t.setWinnerTeam coin m (some team))
  | .unregisterPlayer team accountId traversal coin, t =>
      t.unregisterPlayer coin traversal team accountId

/-- Results are those of pending matches, for one of the teams. -/
def Legal (t : Tournament) : Call → Prop
  | .setWinnerTeam m team _ => m ∈ t.pendingMatches ∧ Participates t m team
  | .unregisterPlayer team _ traversal _ =>
      team < t.teams.length ∧ traversal.Perm t.pendingMatches

instance (t : Tournament) : DecidablePred (Legal t) := fun op =>
  match op with
  | .setWinnerTeam .. => inferInstanceAs (Decidable (_ ∧ (_ ∨ _)))
  | .unregisterPlayer .. => inferInstanceAs (Decidable (_ ∧ _))

/-- No match that the call decides waits for a team. -/
def Opposed (t : Tournament) : Call → Prop
  | .setWinnerTeam m _ _ => BothKnown t m
  | .unregisterPlayer team _ _ _ => ∀ m ∈ t.pendingMatches, Participates t m team → BothKnown t m

/-- A call leads from one safe state to another, and does not throw if the
opponents are there. -/
structure SafeCall (t : Tournament) (op : Call) : Prop where
  before : Safe t
  returns : Opposed t op → ∃ result, call op t = .ok result
  after : ∀ b t', call op t = .ok (b, t') → Safe t'

section Pointers

variable {n m : Nat} {t : Tournament}

theorem precedingWinner_inside (h : Shape n t) (hm : n ≤ m) (hlt : m < 2 * n - 1) :
    precedingWinnerA t m = winner t (feederA n m) ∧
      precedingWinnerB t m = winner t (feederB n m) := by
  obtain ⟨x, _, _, -, hx, hA, hB, -⟩ := h.getMatch_feeders hm hlt
  simp [precedingWinnerA, precedingWinnerB, hx, hA, hB]

theorem precedingWinner_outside (h : Shape n t) (hm : ¬ (n ≤ m ∧ m < 2 * n - 1)) :
    precedingWinnerA t m = none ∧ precedingWinnerB t m = none := by
  unfold precedingWinnerA precedingWinnerB
  rcases hx : t.allMatches[m]? with _ | x
  · exact ⟨rfl, rfl⟩
  · obtain ⟨hlt, -⟩ := List.getElem?_eq_some_iff.mp hx
    rw [h.length_matches] at hlt
    obtain ⟨hA, hB, -⟩ := h.links m x hx
    rw [if_pos (by omega)] at hA hB
    simp [hA, hB]

theorem safe_of_running (h : Running n t) : Safe t := by
  have hshape := h.standing.toShape
  refine ⟨fun m => ?_, ?_⟩
  · rw [h.progress.pending_iff]
    by_cases hm : n ≤ m ∧ m < 2 * n - 1
    · obtain ⟨hA, hB⟩ := precedingWinner_inside hshape hm.1 hm.2
      simp [Awaits, Announced, hm, hA, hB]
    · obtain ⟨hA, hB⟩ := precedingWinner_outside hshape hm
      refine iff_of_false (fun h => hm ⟨h.1, h.2.1⟩) ?_
      simp [hA, hB]
  · rw [h.progress.complete_iff, hshape.finalMatch_eq, Option.bind_some]

theorem not_halfReady_iff (h : Running n t) (hm : m ∈ t.pendingMatches) :
    ¬ HalfReady n t m ↔ BothKnown t m := by
  obtain ⟨hle, hlt, -⟩ := h.awaits hm
  obtain ⟨hA, hB⟩ := precedingWinner_inside h.standing.toShape hle hlt
  unfold HalfReady BothKnown
  rw [hA, hB, not_or]

theorem participates_iff (h : Running n t) (hm : m ∈ t.pendingMatches) (team : Nat) :
    Participates t m team ↔
      winner t (feederA n m) = some team ∨ winner t (feederB n m) = some team := by
  obtain ⟨hle, hlt, -⟩ := h.awaits hm
  obtain ⟨hA, hB⟩ := precedingWinner_inside h.standing.toShape hle hlt
  unfold Participates
  rw [hA, hB]

end Pointers

/-! Calls. -/

section Calls

variable {n : Nat} {t : Tournament}

theorem running_setWinnerTeam (h : Running n t) {m team : Nat} (coin : Nat → Bool)
    (hm : m ∈ t.pendingMatches) (hteam : Participates t m team) :
    (BothKnown t m → ∃ result, call (.setWinnerTeam m team coin) t = .ok result) ∧
      ∀ b t', call (.setWinnerTeam m team coin) t = .ok (b, t') → Running n t' := by
  rw [participates_iff h hm] at hteam
  rw [← not_halfReady_iff h hm]
  by_cases hhalf : HalfReady n t m
  · have herror := h.setWinnerTeam_half coin hm hhalf (some team)
      (hteam.imp Eq.symm Eq.symm)
    refine ⟨fun hready => absurd hhalf hready, ?_⟩
    intro b t' hrun
    simp only [call, herror, error_bind, reduceCtorEq] at hrun
  · obtain ⟨t1, hrun, hrunning, -⟩ := h.setWinnerTeam coin hm hhalf hteam
    have hcall : call (.setWinnerTeam m team coin) t = .ok (true, t1) := by
      simp only [call, hrun, ok_bind]
      rfl
    refine ⟨fun _ => ⟨_, hcall⟩, ?_⟩
    intro b t' hrun'
    rw [hcall] at hrun'
    cases hrun'
    exact hrunning

theorem running_unregisterPlayer (h : Running n t) {team : Nat} (accountId : UInt32)
    {traversal : List Nat} (coin : Nat → Bool) (hteam : team < t.teams.length)
    (htraversal : traversal.Perm t.pendingMatches) :
    ((∀ m ∈ t.pendingMatches, Participates t m team → BothKnown t m) →
        ∃ result, call (.unregisterPlayer team accountId traversal coin) t = .ok result) ∧
      ∀ b t', call (.unregisterPlayer team accountId traversal coin) t = .ok (b, t') →
        Running n t' := by
  rw [h.standing.length_teams] at hteam
  rcases h.unregisterPlayer coin htraversal hteam accountId with
    ⟨b, t1, hrun, hrunning⟩ | ⟨herror, m, hm, hhalf, hor⟩
  · refine ⟨fun _ => ⟨_, hrun⟩, ?_⟩
    intro b' t' hrun'
    simp only [call, hrun, Except.ok.injEq, Prod.mk.injEq] at hrun'
    rwa [← hrun'.2]
  · refine ⟨fun hopposed => ?_, ?_⟩
    · have hknown := hopposed m hm ((participates_iff h hm team).mpr hor)
      exact absurd hhalf ((not_halfReady_iff h hm).mpr hknown)
    · intro b t' hrun'
      simp only [call, herror, reduceCtorEq] at hrun'

/-- One call keeps the bracket. -/
theorem running_call (h : Running n t) {op : Call} (hlegal : Legal t op) :
    (Opposed t op → ∃ result, call op t = .ok result) ∧
      ∀ b t', call op t = .ok (b, t') → Running n t' := by
  cases op with
  | setWinnerTeam m team coin => exact running_setWinnerTeam h coin hlegal.1 hlegal.2
  | unregisterPlayer team accountId traversal coin =>
      exact running_unregisterPlayer h accountId coin hlegal.1 hlegal.2

theorem safeCall_of_running (h : Running n t) {op : Call} (hlegal : Legal t op) :
    SafeCall t op := by
  obtain ⟨hreturns, hafter⟩ := running_call h hlegal
  exact ⟨safe_of_running h, hreturns, fun b t' hrun => safe_of_running (hafter b t' hrun)⟩

end Calls

/-- A tournament that starts is safe, and stays so in every run of results and
withdrawals. -/
theorem safe_run (comDeckIndex : COMDeckIndex) (name : String) (mapNumber : UInt32)
    (rules : BattleRules.Rules) (flags : UInt8) (registrations : List Registration)
    (choices : Choices) :
    (registering comDeckIndex name mapNumber rules flags registrations).start choices ≠
        .error .nullTeam ∧
      ∀ t, (registering comDeckIndex name mapNumber rules flags registrations).start choices =
          .ok t →
        Safe t ∧ ∀ calls, (∀ c ∈ trace call t calls, Legal c.1 c.2) →
          ∀ c ∈ trace call t calls, SafeCall c.1 c.2 := by
  rcases start_cases choices (t := registering comDeckIndex name mapNumber rules flags registrations)
      rfl (fresh_registering comDeckIndex name mapNumber rules flags registrations) with
    ⟨e, herror, hne⟩ | ⟨n, t, hstart, hstarted⟩
  · rw [herror]
    exact ⟨fun h => hne (Except.error.inj h), fun t h => nomatch h⟩
  · rw [hstart]
    refine ⟨fun h => (nomatch h), ?_⟩
    rintro _ ⟨⟩
    refine ⟨safe_of_running hstarted.running, fun calls hlegal => ?_⟩
    exact forall_trace (Running n) (fun s hs op _ hop => safeCall_of_running hs hop)
      (fun s hs op _ hop r s' => (running_call hs hop).2 r s') hstarted.running hlegal

/-! Four players without COM teams. -/

def fourRegistrations : List Registration :=
  [⟨1, "A", "", [registrantA]⟩, ⟨1, "B", "", [registrantB]⟩,
    ⟨1, "C", "", [registrantC]⟩, ⟨1, "D", "", [registrantD]⟩]

def fourTeams : Tournament :=
  registering ⟨[], List.nodup_nil⟩ "T" 1 BattleRules.Rules.cleared 0 fourRegistrations

def firstChoices : Choices where
  entry _ := 0
  deck _ _ := 0
  coin _ := false

/-- Both first matches are played, then one of their winners withdraws. -/
def playedCalls : List Call :=
  [.setWinnerTeam 4 0 firstChoices.coin, .setWinnerTeam 5 3 firstChoices.coin,
    .unregisterPlayer 0 1 [6] firstChoices.coin]

theorem exists_of_map {α β ε : Type} {x : Except ε α} {f : α → β} {b : β}
    (h : x.toOption.map f = some b) : ∃ a, x = .ok a ∧ f a = b := by
  cases x with
  | error e => cases h
  | ok a => exact ⟨a, rfl, Option.some.inj h⟩

theorem safe_run_playedCalls :
    ∃ t, fourTeams.start firstChoices = .ok t ∧ (trace call t playedCalls).length = 3 ∧
      ∀ c ∈ trace call t playedCalls, Legal c.1 c.2 ∧ SafeCall c.1 c.2 := by
  obtain ⟨t, hstart, hrun⟩ := exists_of_map (x := fourTeams.start firstChoices)
    (f := fun t => decide ((trace call t playedCalls).length = 3 ∧
      ∀ c ∈ trace call t playedCalls, Legal c.1 c.2)) (b := true) (by decide +kernel)
  obtain ⟨hlength, hlegal⟩ := of_decide_eq_true hrun
  refine ⟨t, hstart, hlength, fun c hc => ⟨hlegal c hc, ?_⟩⟩
  exact ((safe_run ⟨[], List.nodup_nil⟩ "T" 1 BattleRules.Rules.cleared 0 fourRegistrations
    firstChoices).2 t hstart).2 playedCalls hlegal c hc

/-- One first match is played, then its winner withdraws. -/
def withdrawnCalls : List Call :=
  [.setWinnerTeam 4 0 firstChoices.coin, .unregisterPlayer 0 1 [5, 6] firstChoices.coin]

/-- The final is pending before the second match is played, and the withdrawal
uses the team that has not come to it. -/
theorem withdrawnCalls_nullTeam :
    ∃ t, fourTeams.start firstChoices = .ok t ∧
      (∀ c ∈ trace call t withdrawnCalls, Legal c.1 c.2) ∧
      ∃ c ∈ trace call t withdrawnCalls,
        6 ∈ c.1.pendingMatches ∧ ¬ BothKnown c.1 6 ∧ call c.2 c.1 = .error .nullTeam := by
  obtain ⟨t, hstart, hrun⟩ := exists_of_map (x := fourTeams.start firstChoices)
    (f := fun t => decide ((∀ c ∈ trace call t withdrawnCalls, Legal c.1 c.2) ∧
      ∃ c ∈ trace call t withdrawnCalls, 6 ∈ c.1.pendingMatches ∧
        (precedingWinnerA c.1 6 = none ∨ precedingWinnerB c.1 6 = none) ∧
        (match call c.2 c.1 with
          | .error e => some e
          | .ok _ => none) = some .nullTeam)) (b := true) (by decide +kernel)
  obtain ⟨hlegal, c, hc, hpending, hunknown, herror⟩ := of_decide_eq_true hrun
  refine ⟨t, hstart, hlegal, c, hc, hpending, ?_, ?_⟩
  · rintro ⟨hA, hB⟩
    exact hunknown.elim hA hB
  · split at herror
    · rename_i e hcall
      rw [hcall, Option.some.inj herror]
    · cases herror

end HuntersGuild.TournamentSafety
