import HuntersGuild.TournamentSafety
import HuntersGuild.TournamentStorage

/-!
A tournament that is saved and loaded again has the same results: the numbers
of rounds cleared determine the bracket, in whatever order the matches are
resolved.
-/

namespace HuntersGuild.TournamentPersistence

open HuntersGuild.ExceptionRules
open HuntersGuild.FuelLoop
open HuntersGuild.CallTrace
open HuntersGuild.KnockoutBracket
open HuntersGuild.JsonValues
open HuntersGuild.BattleRules
open HuntersGuild.TournamentOperations
open HuntersGuild.TournamentBracket
open HuntersGuild.TournamentStart
open HuntersGuild.TournamentSafety
open HuntersGuild.TournamentStorage

/-! Reading the teams back. -/

section ReadBack

variable {comDeckIndex : COMDeckIndex}

theorem deckForName_eq {deck : COMDeckDefinition} (h : deck ∈ comDeckIndex.decks) :
    comDeckIndex.deckForName deck.deckName = some deck := by
  have hsome : (comDeckIndex.deckForName deck.deckName).isSome := by
    unfold COMDeckIndex.deckForName
    rw [List.find?_isSome]
    exact ⟨deck, h, by simp⟩
  obtain ⟨deck', hfind⟩ := Option.isSome_iff_exists.mp hsome
  have hname : deck'.deckName = deck.deckName := by simpa using List.find?_some hfind
  rw [hfind, List.inj_on_of_nodup_map comDeckIndex.names_nodup (List.mem_of_find?_eq_some hfind) h
    hname]

theorem toUInt32_toNat (value : UInt32) : toUInt32 value.toNat = value := by
  apply UInt32.toNat_inj.mp
  have hlt := value.toNat_lt
  rw [toUInt32, UInt32.toNat_ofNat']
  omega

theorem humanEntry_eq (accountId : UInt32) (playerName : String) (hvalid : accountId ≠ 0) :
    humanEntry (toUInt32 accountId.toNat) playerName =
      .ok (.human accountId playerName hvalid) := by
  simp only [humanEntry, toUInt32_toNat, dif_pos hvalid]

theorem playerFromSpec_eq {player : PlayerEntry}
    (h : ∀ deck, player = .com deck → deck ∈ comDeckIndex.decks) :
    playerFromSpec comDeckIndex (playerSpec player) = .ok player := by
  cases player with
  | human accountId playerName valid =>
      by_cases hname : playerName = ""
      · subst hname
        exact humanEntry_eq accountId "" valid
      · simp only [playerSpec, ne_eq, hname, not_false_eq_true, if_true]
        exact humanEntry_eq accountId playerName valid
  | com comDeck =>
      simp only [playerSpec, playerFromSpec, deckForName_eq (h comDeck rfl)]

theorem mapM_playerFromSpec {players : List PlayerEntry}
    (h : ∀ deck, .com deck ∈ players → deck ∈ comDeckIndex.decks) :
    (players.map playerSpec).mapM (playerFromSpec comDeckIndex) = .ok players := by
  induction players with
  | nil => rfl
  | cons player players ih =>
      have hplayer : ∀ deck, player = .com deck → deck ∈ comDeckIndex.decks := by
        rintro deck rfl
        exact h deck List.mem_cons_self
      rw [List.map_cons, List.mapM_cons, playerFromSpec_eq hplayer, ok_bind,
        ih fun deck hdeck => h deck (List.mem_cons_of_mem player hdeck)]
      rfl

theorem toSize_natCast {k : Nat} (hk : k < 2 ^ 64) : toSize k = k := by
  unfold toSize
  omega

theorem teamFromJson_eq {team : Team} (index : Nat)
    (h : ∀ deck, .com deck ∈ team.players → deck ∈ comDeckIndex.decks)
    (hrounds : team.numRoundsCleared < 2 ^ 64) :
    teamFromJson comDeckIndex index (teamJson team) = .ok ({ team with
      index := index
      maxPlayers := toSize team.maxPlayers
      numRoundsCleared := 0
      isActive := true }, team.numRoundsCleared) := by
  unfold teamFromJson
  refine bind_of_ok (a := (team.maxPlayers : Int)) rfl ?_
  refine bind_of_ok (a := team.name) rfl ?_
  refine bind_of_ok (a := team.password) rfl ?_
  refine bind_of_ok (a := (team.numRoundsCleared : Int)) rfl ?_
  refine bind_of_ok (a := team.players.map playerSpec) rfl ?_
  refine bind_of_ok (mapM_playerFromSpec h) ?_
  rw [toSize_natCast hrounds]
  rfl

/-- The teams that loading starts from: the entries and the counts are those
that were saved, and nothing has been played. -/
structure Unplayed (saved : List Team) (loaded : List (Team × Nat)) : Prop where
  players_eq : loaded.map (fun x => x.1.players) = saved.map Team.players
  rounds_eq : loaded.map Prod.snd = saved.map Team.numRoundsCleared
  fresh : ∀ x ∈ loaded, x.1.numRoundsCleared = 0 ∧ x.1.isActive = true

theorem exists_teamsFromJson {teams : List Team} (index : Nat)
    (h : ∀ team ∈ teams, ∀ deck, .com deck ∈ team.players → deck ∈ comDeckIndex.decks)
    (hrounds : ∀ team ∈ teams, team.numRoundsCleared < 2 ^ 64) :
    ∃ loaded, teamsFromJson comDeckIndex index (teams.map teamJson) = .ok loaded ∧
      Unplayed teams loaded := by
  induction teams generalizing index with
  | nil => exact ⟨[], rfl, rfl, rfl, by simp⟩
  | cons team teams ih =>
      rw [List.forall_mem_cons] at h hrounds
      obtain ⟨loaded, hrun, hunplayed⟩ := ih (index + 1) h.2 hrounds.2
      refine ⟨_, bind_of_ok (teamFromJson_eq index h.1 hrounds.1) (bind_of_ok hrun rfl), ?_, ?_, ?_⟩
      · simp [hunplayed.players_eq]
      · simp [hunplayed.rounds_eq]
      · exact List.forall_mem_cons.mpr ⟨⟨rfl, rfl⟩, hunplayed.fresh⟩

end ReadBack

/-! The queue. -/

section Queue

variable {n m : Nat} {t : Tournament}

/-- Both teams have come to the match, and it is undecided. -/
def Resolvable (n : Nat) (t : Tournament) (m : Nat) : Prop :=
  n ≤ m ∧ m < 2 * n - 1 ∧ winner t m = none ∧ winner t (feederA n m) ≠ none ∧
    winner t (feederB n m) ≠ none

theorem winnerBefore_eq (h : Shape n t) (hlt : m < 2 * n - 1) :
    winnerBefore t (some m) = .ok (winner t m) := by
  obtain ⟨x, -, hx, hwinner⟩ := h.exists_match hlt
  simp only [winnerBefore, hx, ok_bind, hwinner]
  rfl

theorem exists_enqueueFollowing (h : Shape n t) (m : Nat) (matchQueue : List Nat) :
    ∃ matchQueue', enqueueFollowing t (if m < 2 * n - 2 then some (follow n m) else none)
        matchQueue = .ok matchQueue' ∧ matchQueue'.length ≤ matchQueue.length + 1 ∧
      ∀ f, f ∈ matchQueue' ↔ f ∈ matchQueue ∨ f = follow n m ∧ m < 2 * n - 2 ∧
        winner t (feederA n f) ≠ none ∧ winner t (feederB n f) ≠ none := by
  by_cases hlast : m < 2 * n - 2
  · have hlt := follow_lt hlast
    have hle := le_follow n m
    obtain ⟨x, a, b, hx, -, hA, hB, -⟩ := h.getMatch_feeders hle hlt
    rw [if_pos hlast]
    refine ⟨if winner t (feederA n (follow n m)) ≠ none ∧ winner t (feederB n (follow n m)) ≠ none
      then matchQueue.insert (follow n m) else matchQueue, ?_, ?_, ?_⟩
    · simp only [enqueueFollowing, hx, ok_bind, hA, hB, winnerBefore_eq h
        ((feederA_lt hle hlt).trans hlt), winnerBefore_eq h ((feederB_lt hle hlt).trans hlt)]
      rfl
    · split
      · rw [List.length_insert]
        split <;> omega
      · omega
    · intro f
      split
      · rename_i hboth
        rw [List.mem_insert_iff, or_comm]
        refine or_congr_right ⟨?_, And.left⟩
        rintro rfl
        exact ⟨rfl, hlast, hboth⟩
      · rename_i hboth
        refine (or_iff_left ?_).symm
        rintro ⟨rfl, -, hknown⟩
        exact hboth hknown
  · rw [if_neg hlast]
    refine ⟨matchQueue, rfl, by omega, fun f => (or_iff_left ?_).symm⟩
    rintro ⟨-, hlt, -⟩
    exact hlast hlt

/-- While the results of `t` are loaded: what has been replayed agrees with
them, the counts are what is left, and every match that can be resolved is on
the queue or known to be unresolvable. -/
structure LoadingInv (n : Nat) (t : Tournament) (l : Loading) : Prop where
  standing : Standing n l.self
  le : ∀ team, team < n → rounds l.self team ≤ rounds t team
  counts : ∀ team, team < n →
    l.roundsCleared[team]? = some (rounds t team - rounds l.self team)
  queue : ∀ f ∈ l.matchQueue, Resolvable n l.self f
  covered : ∀ f, Resolvable n l.self f → f ∈ l.matchQueue ∨ f ∈ l.self.pendingMatches
  pending : ∀ f ∈ l.self.pendingMatches, winner t f = none ∧ Resolvable n l.self f
  state : l.self.currentState = .inProgress
  players : l.self.teams.map Team.players = t.teams.map Team.players

theorem mem_addPending (t : Tournament) (m f : Nat) :
    f ∈ (t.addPending m).pendingMatches ↔ f ∈ t.pendingMatches ∨ f = m := by
  unfold Tournament.addPending
  dsimp only
  split
  · rename_i hin
    refine (or_iff_left_of_imp ?_).symm
    rintro rfl
    exact hin
  · simp

theorem Resolvable.congr {t t' : Tournament} {f : Nat} (h : Resolvable n t f)
    (hself : winner t' f = winner t f)
    (hmono : ∀ x, winner t x ≠ none → winner t' x ≠ none) : Resolvable n t' f :=
  ⟨h.1, h.2.1, hself.trans h.2.2.1, hmono _ h.2.2.2.1, hmono _ h.2.2.2.2⟩

theorem sum_modify_pred {counts : List Nat} {i x : Nat} (hx : counts[i]? = some x) (hpos : 0 < x) :
    (counts.modify i (· - 1)).sum + 1 = counts.sum := by
  induction counts generalizing i with
  | nil => cases hx
  | cons y counts ih =>
      cases i with
      | zero =>
          obtain rfl : y = x := Option.some.inj hx
          simp only [List.modify_zero_cons, List.sum_cons]
          omega
      | succ i =>
          have hrest := ih hx
          simp only [List.modify_succ_cons, List.sum_cons]
          omega

variable {l : Loading}

/-- What is left to do. -/
def remaining (l : Loading) : Nat := l.roundsCleared.sum + l.matchQueue.length

def dequeue (m : Nat) (l : Loading) : Loading :=
  { l with matchQueue := l.matchQueue.filter (· ≠ m) }

theorem length_dequeue (hm : m ∈ l.matchQueue) :
    (dequeue m l).matchQueue.length < l.matchQueue.length :=
  List.length_filter_lt_length_iff_exists.mpr ⟨m, hm, by simp⟩

/-- A match whose teams have no rounds left stays unresolved. -/
theorem LoadingInv.unresolved (h : LoadingInv n t l) (hm : m ∈ l.matchQueue)
    (hnone : winner t m = none) :
    LoadingInv n t { dequeue m l with self := l.self.addPending m } := by
  refine ⟨h.standing.addPending m, h.le, h.counts, ?_, ?_, ?_, h.state, h.players⟩
  · intro f hf
    exact h.queue f (List.mem_filter.mp hf).1
  · intro f hf
    rw [mem_addPending]
    rcases eq_or_ne f m with rfl | hne
    · exact .inr (.inr rfl)
    · rcases h.covered f hf with hqueue | hpending
      · exact .inl (List.mem_filter.mpr ⟨hqueue, by simpa using hne⟩)
      · exact .inr (.inl hpending)
  · intro f hf
    rcases (mem_addPending l.self m f).mp hf with hpending | rfl
    · exact h.pending f hpending
    · exact ⟨hnone, h.queue f hm⟩

/-- A match that one of its teams has won is resolved for that team. -/
theorem LoadingInv.exists_spendRound (h : LoadingInv n t l) (hm : m ∈ l.matchQueue)
    {matchM : Match} (hmatch : l.self.allMatches[m]? = some matchM) {team : Nat}
    (hor : winner l.self (feederA n m) = some team ∨ winner l.self (feederB n m) = some team)
    (hwon : winner t m = some team) (hcount : rounds l.self team < rounds t team) :
    ∃ l', spendRound m matchM team (dequeue m l) = .ok l' ∧ LoadingInv n t l' ∧
      remaining l' < remaining l := by
  obtain ⟨hle, hlt, hnone, hA, hB⟩ := h.queue m hm
  obtain ⟨self', hset, hstanding, hwinner, hrounds, hpending, hstate, hsame⟩ :=
    h.standing.setWinner_of_or hle hlt hnone hA hB hor
  obtain ⟨-, -, hfollowing⟩ := h.standing.links m matchM hmatch
  obtain ⟨queue', hqueue, hlength, hmem⟩ :=
    exists_enqueueFollowing hstanding.toShape m (dequeue m l).matchQueue
  have hteam : team < n := by
    rcases hor with hor | hor <;> exact (h.standing.results.on_path hor).1
  have hkeep : ∀ x, winner l.self x ≠ none → winner self' x ≠ none := by
    intro x hx
    rcases eq_or_ne x m with rfl | hne
    · exact absurd hnone hx
    · rwa [hwinner, Function.update_of_ne hne]
  have hother : ∀ x, x ≠ m → winner self' x = winner l.self x := by
    intro x hx
    rw [hwinner, Function.update_of_ne hx]
  have hcounts := h.counts team hteam
  refine ⟨_, bind_of_ok hset (bind_of_ok (by rw [hfollowing]; exact hqueue) rfl), ?_, ?_⟩
  · refine ⟨hstanding, ?_, ?_, ?_, ?_, ?_, hstate.trans h.state, ?_⟩
    · intro k hk
      dsimp only
      rw [hrounds]
      rcases eq_or_ne k team with rfl | hne
      · rw [Function.update_self]
        exact hcount
      · rw [Function.update_of_ne hne]
        exact h.le k hk
    · intro k hk
      dsimp only [dequeue]
      rw [hrounds, List.getElem?_modify, h.counts k hk]
      rcases eq_or_ne k team with rfl | hne
      · simp only [Function.update_self, if_true, Option.map_eq_map, Option.map_some]
        congr 1
      · simp [Function.update_of_ne hne, hne.symm]
    · intro f hf
      rcases (hmem f).mp hf with hf | ⟨rfl, hlast, hA', hB'⟩
      · obtain ⟨hin, hne⟩ := List.mem_filter.mp hf
        exact (h.queue f hin).congr (hother f (by simpa using hne)) hkeep
      · refine ⟨le_follow n m, follow_lt hlast, ?_, hA', hB'⟩
        rw [hother _ (lt_follow hlt).ne']
        by_contra hdecided
        exact h.standing.results.ne_none_of_follow hdecided hnone
    · rintro f ⟨hlef, hltf, hnonef, hAf, hBf⟩
      have hne : f ≠ m := by
        rintro rfl
        rw [hwinner, Function.update_self] at hnonef
        cases hnonef
      by_cases hnext : f = follow n m
      · refine .inl ((hmem f).mpr (.inr ⟨hnext, ?_, hAf, hBf⟩))
        unfold follow at hnext
        omega
      · have hfA : feederA n f ≠ m := fun heq => hnext (by rw [← heq, follow_feederA hlef])
        have hfB : feederB n f ≠ m := fun heq => hnext (by rw [← heq, follow_feederB hlef])
        rw [hother f hne] at hnonef
        rw [hother _ hfA] at hAf
        rw [hother _ hfB] at hBf
        rcases h.covered f ⟨hlef, hltf, hnonef, hAf, hBf⟩ with hqueue | hin
        · exact .inl ((hmem f).mpr (.inl (List.mem_filter.mpr ⟨hqueue, by simpa using hne⟩)))
        · exact .inr (by rwa [hpending])
    · intro f hf
      rw [hpending] at hf
      obtain ⟨hnonef, hres⟩ := h.pending f hf
      have hne : f ≠ m := by
        rintro rfl
        rw [hwon] at hnonef
        cases hnonef
      exact ⟨hnonef, hres.congr (hother f hne) hkeep⟩
    · rw [← h.players]
      have hplayers := congrArg (List.map fun x : Nat × List PlayerEntry × String × String => x.2.1)
        hsame.teams_eq
      rwa [List.map_map, List.map_map] at hplayers
  · have hsum := sum_modify_pred hcounts (by omega)
    have hless := length_dequeue hm
    unfold remaining
    dsimp only [dequeue] at hsum hlength hless ⊢
    omega

/-- One match of the queue. -/
theorem LoadingInv.exists_resolveFromCounts (h : LoadingInv n t l)
    (hresults : Results n (winner t) (rounds t)) (hm : m ∈ l.matchQueue) :
    ∃ l', resolveFromCounts m (dequeue m l) = .ok l' ∧ LoadingInv n t l' ∧
      remaining l' < remaining l := by
  obtain ⟨hle, hlt, hnone, hA, hB⟩ := h.queue m hm
  obtain ⟨a, ha⟩ := Option.ne_none_iff_exists'.mp hA
  obtain ⟨b, hb⟩ := Option.ne_none_iff_exists'.mp hB
  obtain ⟨x, _, _, hx, hget, hprecedingA, hprecedingB, -⟩ :=
    h.standing.getMatch_feeders hle hlt
  have hwinnerA := winnerBefore_eq h.standing.toShape ((feederA_lt hle hlt).trans hlt)
  have hwinnerB := winnerBefore_eq h.standing.toShape ((feederB_lt hle hlt).trans hlt)
  have hcountA := h.counts a (h.standing.results.on_path ha).1
  have hcountB := h.counts b (h.standing.results.on_path hb).1
  simp only [resolveFromCounts, dequeue, hx, ok_bind, hprecedingA, hprecedingB, hwinnerA, hwinnerB,
    ha, hb, hcountA, hcountB]
  rcases hresults.replay_cases h.standing.results h.le hle hlt hnone ha hb with
    ⟨hundecided, heqA, heqB⟩ | ⟨hwon, hltA, heqB⟩ | ⟨hwon, heqA, hltB⟩
  · refine ⟨{ dequeue m l with self := l.self.addPending m }, ?_, h.unresolved hm hundecided, ?_⟩
    · rw [if_neg (by omega), if_pos (by omega)]
      rfl
    · have hless := length_dequeue hm
      unfold remaining
      dsimp only [dequeue] at hless ⊢
      omega
  · rw [if_neg (by omega), if_neg (by omega), if_pos (by omega)]
    exact h.exists_spendRound hm hget (.inl ha) hwon hltA
  · rw [if_neg (by omega), if_neg (by omega), if_neg (by omega)]
    exact h.exists_spendRound hm hget (.inr hb) hwon hltB

/-- The loop over the queue ends with an empty queue. -/
theorem LoadingInv.exists_processQueue (h : LoadingInv n t l)
    (hresults : Results n (winner t) (rounds t)) (order : Nat → Nat) :
    ∃ l', processQueue order l = .ok l' ∧ LoadingInv n t l' ∧ l'.matchQueue = [] := by
  have hstep : ∀ s : Nat × Loading, LoadingInv n t s.2 →
      (∃ s', queueBody order s = .next s' ∧ LoadingInv n t s'.2 ∧ remaining s'.2 < remaining s.2) ∨
        ∃ result, queueBody order s = .done result ∧
          ∃ l', result = .ok l' ∧ LoadingInv n t l' ∧ l'.matchQueue = [] := by
    rintro ⟨pass, l⟩ h
    rcases hget : l.matchQueue[order pass % l.matchQueue.length]? with _ | m
    · refine .inr ⟨.ok l, by simp only [queueBody, hget], l, rfl, h, ?_⟩
      rw [List.getElem?_eq_none_iff] at hget
      by_contra hne
      exact Nat.not_le.mpr (Nat.mod_lt _ (List.length_pos_of_ne_nil hne)) hget
    · obtain ⟨l', hrun, hl', hless⟩ :=
        h.exists_resolveFromCounts hresults (List.mem_of_getElem? hget)
      refine .inl ⟨(pass + 1, l'), ?_, hl', hless⟩
      simp only [queueBody, hget]
      unfold dequeue at hrun
      rw [hrun]
  obtain ⟨result, hrun, l', rfl, hl'⟩ := exists_run_of_invariant (queueBody order)
    (fun s => LoadingInv n t s.2) (fun s => remaining s.2)
    (fun result => ∃ l', result = .ok l' ∧ LoadingInv n t l' ∧ l'.matchQueue = []) hstep
    (s := (0, l)) h (Nat.lt_succ_self (remaining l))
  refine ⟨l', ?_, hl'⟩
  unfold processQueue
  dsimp only
  unfold remaining at hrun
  rw [hrun]
  rfl

end Queue

/-! Loading. -/

section Load

variable {n : Nat} {t : Tournament}

theorem mapM_following (h : Shape n t) (zs : List Nat) (hzs : ∀ z ∈ zs, z < n) :
    (zs.mapM fun m => do
      let matchM ← t.getMatch m
      return matchM.following) = .ok (zs.map fun z => some (follow n z)) := by
  induction zs with
  | nil => rfl
  | cons z zs ih =>
      rw [List.forall_mem_cons] at hzs
      have htwo := h.two_le
      obtain ⟨x, hget, hx, -⟩ := h.exists_match (m := z) (by omega)
      obtain ⟨-, -, hfollowing⟩ := h.links z x hget
      rw [if_pos (by omega)] at hfollowing
      rw [List.mapM_cons, ih hzs.2]
      simp only [hx, ok_bind, hfollowing, List.map_cons]
      rfl

theorem initialQueue_eq (h : Shape n t) :
    initialQueue t = .ok (((List.range n).map (follow n)).dedup) := by
  have hrun := mapM_following h (List.range n) (by simp)
  unfold initialQueue
  rw [h.zeroRoundMatches_eq]
  refine bind_of_ok hrun ?_
  rw [if_neg (by simp)]
  simp only [List.filterMap_map]
  congr 2
  exact congrFun List.filterMap_eq_map (List.range n)

/-- The state in which the queue is processed first. -/
theorem loadingInv_initial (self : Tournament) {ms : List Match} {loaded : List (Team × Nat)}
    (h : Running n t) (heven : n % 2 = 0) (hunplayed : Unplayed t.teams loaded)
    (hteams : self.teams = loaded.map Prod.fst) (hpending : self.pendingMatches = [])
    (hstate : self.currentState = .inProgress)
    (hms : ms.map withoutRound = (List.range (2 * n - 1)).map (bracketMatch n)) :
    LoadingInv n t ⟨withBracket self ms, loaded.map Prod.snd,
      ((List.range n).map (follow n)).dedup⟩ := by
  have hlength : self.teams.length = n := by
    have hlist := congrArg List.length hunplayed.players_eq
    rw [List.length_map, List.length_map, h.standing.length_teams] at hlist
    rw [hteams, List.length_map, hlist]
  have hfresh : ∀ x ∈ self.teams, x.numRoundsCleared = 0 ∧ x.isActive = true := by
    intro x hx
    rw [hteams, List.mem_map] at hx
    obtain ⟨y, hy, rfl⟩ := hx
    exact hunplayed.fresh y hy
  subst hlength
  have hwinner := winner_withBracket hms
  have hrounds := rounds_withBracket hfresh ms
  have hstanding := standing_withBracket hms h.standing.two_le hfresh
  have hfollow : ∀ f, f ∈ ((List.range self.teams.length).map (follow self.teams.length)).dedup ↔
      ∃ z, z < self.teams.length ∧ follow self.teams.length z = f := by
    simp [List.mem_dedup]
  refine ⟨hstanding, ?_, ?_, ?_, ?_, ?_, hstate, ?_⟩
  · intro team _
    dsimp only
    rw [hrounds]
    exact Nat.zero_le _
  · intro team hteam
    dsimp only
    obtain ⟨x, hx, -⟩ := h.standing.exists_team hteam
    rw [hrounds, hunplayed.rounds_eq, List.getElem?_map]
    simp [rounds, hx]
  · intro f hf
    obtain ⟨z, hz, rfl⟩ := (hfollow f).mp hf
    have htwo := h.standing.two_le
    unfold Resolvable
    dsimp only
    rw [hwinner]
    dsimp only
    refine ⟨le_follow _ z, follow_lt (by omega), if_neg (Nat.not_lt.mpr (le_follow _ z)), ?_, ?_⟩
    · rw [if_pos (by unfold feederA follow; omega)]
      simp
    · rw [if_pos (by unfold feederB follow; omega)]
      simp
  · rintro f ⟨hle, -, -, hA, -⟩
    refine .inl ((hfollow f).mpr ⟨feederA self.teams.length f, ?_, follow_feederA hle⟩)
    by_contra hge
    dsimp only at hA
    rw [hwinner] at hA
    exact hA (if_neg hge)
  · intro f hf
    simp [withBracket, hpending] at hf
  · rw [← hunplayed.players_eq]
    simp only [withBracket, hteams, List.map_map]
    rfl

/-- The loaded tournament has the results of the saved one; pending are the
matches that can be played. -/
structure Restored (saved loaded : Tournament) : Prop where
  winner_eq : winner loaded = winner saved
  length_matches : loaded.allMatches.length = saved.allMatches.length
  teams_eq : loaded.teams.map (fun x => (x.numRoundsCleared, x.isActive, x.players)) =
    saved.teams.map fun x => (x.numRoundsCleared, x.isActive, x.players)
  currentState_eq : loaded.currentState = saved.currentState
  pending_iff : ∀ m, m ∈ loaded.pendingMatches ↔ winner saved m = none ∧ BothKnown saved m

theorem resolvable_iff (h : Shape n t) (m : Nat) :
    Resolvable n t m ↔ winner t m = none ∧ BothKnown t m := by
  unfold Resolvable BothKnown
  by_cases hm : n ≤ m ∧ m < 2 * n - 1
  · obtain ⟨hA, hB⟩ := precedingWinner_inside h hm.1 hm.2
    rw [hA, hB]
    simp [hm]
  · obtain ⟨hA, hB⟩ := precedingWinner_outside h hm
    refine iff_of_false (fun hres => hm ⟨hres.1, hres.2.1⟩) ?_
    simp [hA]

theorem LoadingInv.exists_finishLoading (h : Running n t) {l : Loading} (hl : LoadingInv n t l)
    (hempty : l.matchQueue = []) : ∃ t', finishLoading l.self = .ok t' ∧ Restored t t' := by
  have hsize := h.standing.two_le
  have hpending : ∀ f, Resolvable n l.self f → f ∈ l.self.pendingMatches := by
    intro f hf
    rcases hl.covered f hf with hqueue | hin
    · simp [hempty] at hqueue
    · exact hin
  obtain ⟨hwinner, hrounds⟩ := h.standing.results.eq_of_replayed hl.standing.results hl.le
    fun m hm hlt hnone hA hB => (hl.pending m (hpending m ⟨hm, hlt, hnone, hA, hB⟩)).1
  have hfinal := winnerBefore_eq hl.standing.toShape (m := 2 * n - 2) (by omega)
  have hnil : l.self.pendingMatches = [] ↔ winner l.self (2 * n - 2) ≠ none := by
    constructor
    · intro hnil hundecided
      obtain ⟨m, hm⟩ := hl.standing.results.exists_ready (by omega) hundecided
      have hin := hpending m hm
      simp [hnil] at hin
    · intro hdecided
      apply List.eq_nil_iff_forall_not_mem.mpr
      intro f hf
      obtain ⟨-, -, hlt, hnone, -⟩ := hl.pending f hf
      exact hl.standing.results.ne_none_of_final hdecided hlt hnone
  have hteams : l.self.teams.map (fun x => (x.numRoundsCleared, x.isActive, x.players)) =
      t.teams.map fun x => (x.numRoundsCleared, x.isActive, x.players) := by
    apply List.ext_getElem?
    intro k
    rw [List.getElem?_map, List.getElem?_map]
    by_cases hk : k < n
    · obtain ⟨x, hx, -⟩ := hl.standing.exists_team hk
      obtain ⟨y, hy, -⟩ := h.standing.exists_team hk
      have hplayers : x.players = y.players := by
        have hget := congrArg (fun players : List (List PlayerEntry) => players[k]?) hl.players
        simpa [hx, hy] using hget
      have hcount : x.numRoundsCleared = y.numRoundsCleared := by
        have hround := hrounds k hk
        simpa [rounds, hx, hy] using hround
      have hactive : x.isActive = y.isActive := by
        have hiff := hl.standing.active k x hx
        unfold Eliminated at hiff
        rw [hwinner, hrounds k hk] at hiff
        have hsame := hiff.trans (h.standing.active k y hy).symm
        rcases hxa : x.isActive with _ | _ <;> rcases hya : y.isActive with _ | _ <;> simp_all
      rw [hx, hy, Option.map_some, Option.map_some, hplayers, hcount, hactive]
    · rw [List.getElem?_eq_none (by rw [hl.standing.length_teams]; omega),
        List.getElem?_eq_none (by rw [h.standing.length_teams]; omega)]
  have hlength : l.self.allMatches.length = t.allMatches.length := by
    rw [hl.standing.length_matches, h.standing.length_matches]
  have hpending_iff : ∀ m, m ∈ l.self.pendingMatches ↔ winner t m = none ∧ BothKnown t m := by
    intro m
    rw [← resolvable_iff h.standing.toShape]
    unfold Resolvable
    rw [← hwinner]
    exact ⟨fun hm => (hl.pending m hm).2, hpending m⟩
  unfold finishLoading
  rw [hl.standing.finalMatch_eq]
  simp only [hfinal, ok_bind]
  rw [if_neg (by rw [hnil]; tauto)]
  by_cases hdecided : winner l.self (2 * n - 2) ≠ none
  · rw [if_pos hdecided]
    refine ⟨_, rfl, hwinner, hlength, hteams, ?_, hpending_iff⟩
    rw [hwinner] at hdecided
    exact (h.progress.complete_iff.mpr hdecided).symm
  · rw [if_neg hdecided]
    refine ⟨_, rfl, hwinner, hlength, hteams, ?_, hpending_iff⟩
    rw [hwinner, ← h.progress.complete_iff] at hdecided
    rw [hl.state]
    have hstarted := h.progress.started
    cases hs : t.currentState with
    | registration => exact absurd hs hstarted
    | inProgress => rfl
    | complete => exact absurd hs hdecided

theorem exists_computeMatchState (self : Tournament) {loaded : List (Team × Nat)}
    (h : Running n t) (hsize : BracketSize n) (hunplayed : Unplayed t.teams loaded)
    (hteams : self.teams = loaded.map Prod.fst) (hpending : self.pendingMatches = [])
    (order : Nat → Nat) :
    ∃ t', computeMatchState order (loaded.map Prod.snd) self = .ok t' ∧ Restored t t' := by
  have hlength : self.teams.length = n := by
    have hlist := congrArg List.length hunplayed.players_eq
    rw [List.length_map, List.length_map, h.standing.length_teams] at hlist
    rw [hteams, List.length_map, hlist]
  rcases createBracketMatches_cases (t := { self with currentState := .inProgress }) (by simp) with
    ⟨message, -, hnot⟩ | ⟨-, ms, hcreate, hms⟩
  · exact absurd (hlength ▸ hsize) hnot
  · dsimp only at hms
    rw [hlength] at hms
    have hinv := loadingInv_initial { self with currentState := .inProgress } h hsize.even
      hunplayed hteams hpending rfl hms
    obtain ⟨l, hprocess, hl, hempty⟩ := hinv.exists_processQueue h.standing.results order
    obtain ⟨t', hfinish, hrestored⟩ := hl.exists_finishLoading h hempty
    exact ⟨t', bind_of_ok hcreate (bind_of_ok (initialQueue_eq hinv.standing.toShape)
      (bind_of_ok hprocess hfinish)), hrestored⟩

end Load

/-! Saving and loading. -/

theorem rounds_lt {n : Nat} {t : Tournament} (h : Running n t) (hsize : BracketSize n) :
    ∀ x ∈ t.teams, x.numRoundsCleared < 2 ^ 64 := by
  intro x hx
  obtain ⟨k, hget⟩ := List.mem_iff_getElem?.mp hx
  have hk : k < n := by
    obtain ⟨hk, -⟩ := List.getElem?_eq_some_iff.mp hget
    rwa [h.standing.length_teams] at hk
  have hwithin := h.standing.results.within k hk
  have hround : rounds t k = x.numRoundsCleared := by simp [rounds, hget]
  rw [hround] at hwithin
  have hle := le_path hwithin
  have hmax := hsize.max
  omega

theorem exists_init_json {n : Nat} {registered t : Tournament} (h : Started n registered t)
    {mapIndex : MapIndex} (hmap : registered.mapNumber ∈ mapIndex.mapNumbers) (order : Nat → Nat) :
    ∃ t', init mapIndex registered.comDeckIndex order (json t) = .ok t' ∧ Restored t t' := by
  have hdecks : ∀ x ∈ t.teams, ∀ deck, PlayerEntry.com deck ∈ x.players →
      deck ∈ registered.comDeckIndex.decks := by
    rw [← h.comDeckIndex_eq]
    exact h.mem_decks
  obtain ⟨loaded, hloaded, hunplayed⟩ :=
    exists_teamsFromJson 0 hdecks (rounds_lt h.running h.size)
  obtain ⟨t', hcompute, hrestored⟩ := exists_computeMatchState {
      comDeckIndex := registered.comDeckIndex
      name := t.name
      mapNumber := t.mapNumber
      rules := t.rules.normalized
      numTeams := loaded.length
      flags := t.flags
      currentState := .registration
      allPlayerAccountIds := accountIds (loaded.map Prod.fst)
      pendingMatches := []
      teams := loaded.map Prod.fst
      allMatches := []
      zeroRoundMatches := []
      finalMatch := none } h.running h.size hunplayed rfl rfl order
  refine ⟨t', ?_, hrestored⟩
  have hnumber : toUInt32 (t.mapNumber.toNat : Int) = t.mapNumber := toUInt32_toNat t.mapNumber
  unfold init
  refine bind_of_ok (a := t.name) rfl ?_
  refine bind_of_ok (a := (t.mapNumber.toNat : Int)) rfl ?_
  dsimp only
  rw [hnumber, if_neg (not_not.mpr (h.mapNumber_eq ▸ hmap))]
  refine bind_of_ok (a := t.rules.normalized) ?_ ?_
  · exact congrArg liftJson (fromJson_toJson t.rules)
  refine bind_of_ok (a := (t.flags.toNat : Int)) rfl ?_
  refine bind_of_ok (a := false) rfl ?_
  refine bind_of_ok (a := decide (t.currentState ≠ .registration)) rfl ?_
  refine bind_of_ok (a := t.teams.map teamJson) rfl ?_
  refine bind_of_ok hloaded ?_
  rw [if_pos (by simpa using h.running.progress.started)]
  rw [toUInt8_toNat]
  exact congrArg liftTournament hcompute

/-- The result of a pending match. -/
structure MatchResult where
  m : Nat
  team : Nat
  coin : Nat → Bool

def MatchResult.call (result : MatchResult) (t : Tournament) :
    Except TournamentError (Unit × Tournament) := do
  return ((), ← t.setWinnerTeam result.coin result.m (some result.team))

/-- Results are those of pending matches, for one of the teams. -/
def MatchResult.Legal (t : Tournament) (result : MatchResult) : Prop :=
  result.m ∈ t.pendingMatches ∧ Participates t result.m result.team

instance (t : Tournament) : DecidablePred (MatchResult.Legal t) := fun result =>
  inferInstanceAs (Decidable (result.m ∈ t.pendingMatches ∧ (_ ∨ _)))

theorem started_call {n : Nat} {registered t t' : Tournament} (h : Started n registered t)
    {result : MatchResult} (hlegal : result.Legal t) (hcall : result.call t = .ok ((), t')) :
    Started n registered t' := by
  have hteam := (participates_iff h.running hlegal.1 result.team).mp hlegal.2
  by_cases hhalf : HalfReady n t result.m
  · have herror := h.running.setWinnerTeam_half result.coin hlegal.1 hhalf (some result.team)
      (hteam.imp Eq.symm Eq.symm)
    simp only [MatchResult.call, herror, error_bind, reduceCtorEq] at hcall
  · obtain ⟨t1, hrun, hrunning, hsame⟩ :=
      h.running.setWinnerTeam result.coin hlegal.1 hhalf hteam
    simp only [MatchResult.call, hrun, ok_bind] at hcall
    cases hcall
    exact h.of_sameEntries hsame hrunning

/-- A started tournament is saved and loaded after any sequence of results
without losing one of them. -/
theorem init_json_restored (mapIndex : MapIndex) (comDeckIndex : COMDeckIndex) (name : String)
    (mapNumber : UInt32) (hmap : mapNumber ∈ mapIndex.mapNumbers) (rules : Rules) (flags : UInt8)
    (registrations : List Registration) (choices : Choices) (t : Tournament)
    (hstart : (registering comDeckIndex name mapNumber rules flags registrations).start choices =
      .ok t)
    (results : List MatchResult)
    (hlegal : ∀ c ∈ trace MatchResult.call t results, c.2.Legal c.1) (t' : Tournament)
    (hrun : run MatchResult.call t results = some t') (order : Nat → Nat) :
    ∃ t'', init mapIndex comDeckIndex order (json t') = .ok t'' ∧ Restored t' t'' := by
  rcases start_cases choices (t := registering comDeckIndex name mapNumber rules flags registrations)
      rfl (fresh_registering comDeckIndex name mapNumber rules flags registrations) with
    ⟨e, herror, -⟩ | ⟨n, t1, hstart1, hstarted⟩
  · rw [hstart] at herror
    cases herror
  · rw [hstart] at hstart1
    cases hstart1
    have hend := run_invariant
      (Started n (registering comDeckIndex name mapNumber rules flags registrations))
      (fun s hs result _ hresult _ s' hcall => started_call hs hresult hcall) hstarted hlegal hrun
    exact exists_init_json hend hmap order

/-- Two results in the tournament of four players. -/
def twoResults : List MatchResult :=
  [⟨4, 1, firstChoices.coin⟩, ⟨5, 2, firstChoices.coin⟩]

theorem init_json_restored_twoResults :
    ∃ t', run MatchResult.call
        ((fourTeams.start firstChoices).toOption.getD fourTeams) twoResults = some t' ∧
      ∃ t'', init ⟨[1]⟩ ⟨[], List.nodup_nil⟩ (fun pass => pass) (json t') = .ok t'' ∧
        Restored t' t'' := by
  obtain ⟨t, hstart, hlegal⟩ := exists_of_map (x := fourTeams.start firstChoices)
    (f := fun t => decide ((∀ c ∈ trace MatchResult.call t twoResults, c.2.Legal c.1) ∧
      (run MatchResult.call t twoResults).isSome = true)) (b := true) (by decide +kernel)
  obtain ⟨hlegal, hsome⟩ := of_decide_eq_true hlegal
  obtain ⟨t', hrun⟩ := Option.isSome_iff_exists.mp hsome
  refine ⟨t', by rw [hstart]; exact hrun, ?_⟩
  exact init_json_restored ⟨[1]⟩ ⟨[], List.nodup_nil⟩ "T" 1 (by decide) Rules.cleared 0
    fourRegistrations firstChoices t hstart twoResults hlegal t' hrun fun pass => pass

end HuntersGuild.TournamentPersistence
