import HuntersGuild.PrsStreaming
import HuntersGuild.RingBuffer

/-!
The two logs of a `PRSCompressor` follow what it has compressed and what it has got, and
the search between two commands finds copies that go on as the input does.
-/

namespace HuntersGuild.PrsStreamingLogs

open HuntersGuild.ByteStreams
open HuntersGuild.ExceptionRules
open HuntersGuild.PrsStreaming
open HuntersGuild.RingBuffer
open HuntersGuild.SlidingCopy

theorem wrappedAt_of_remembers {lo i : Nat} {ring log : List UInt8} (h : Remembers 0 lo ring log) (hlo : lo ≤ i)
    (hlt : i < log.length) : wrappedAt ring i = log.getD i 0 := by
  have hcell : ring[i % ring.length]? = log[i]? := h i hlo hlt
  rw [wrappedAt, List.getD_eq_getElem?_getD, hcell, List.getD_eq_getElem?_getD]

section Follows

/-- The log keeps the later part of a history, and its index lists the places of each byte
in it in order. -/
structure Follows (log : IndexedLog) (history : List UInt8) : Prop where
  length : log.data.length = 0x2000
  size_le : log.size ≤ 0x2000
  endOffset : log.offset + log.size = history.length
  remembers : Remembers 0 log.offset log.data history
  index : ∀ v, log.index v =
    (List.range' log.offset log.size).filter fun offset => decide (history[offset]? = some v)

variable {log : IndexedLog} {history : List UInt8}

theorem follows_new : Follows .new [] :=
  ⟨List.length_replicate, Nat.zero_le _, rfl, remembers_nil _ _ _, fun _ => rfl⟩

theorem Follows.popFront (h : Follows log history) (hpos : 0 < log.size) : Follows log.popFront history := by
  obtain ⟨hlength, hsize, hend, hremembers, hindex⟩ := h
  have hlt : log.offset < history.length := by omega
  have hfirst : history[log.offset]? = some (wrappedAt log.data log.offset) := by
    rw [wrappedAt_of_remembers hremembers (Nat.le_refl _) hlt, List.getD_eq_getElem _ _ hlt,
      List.getElem?_eq_getElem hlt]
  obtain ⟨size, hsucc⟩ := Nat.exists_eq_succ_of_ne_zero hpos.ne'
  refine ⟨hlength, ?_, ?_, fun i hlo hi => hremembers i ?_ hi, ?_⟩
  · show log.size - 1 ≤ 0x2000
    omega
  · show log.offset + 1 + (log.size - 1) = history.length
    omega
  · exact Nat.le_of_succ_le hlo
  · intro v
    have hrange : log.index v = (log.offset :: List.range' (log.offset + 1) (log.size - 1)).filter
        fun offset => decide (history[offset]? = some v) := by
      rw [hindex v, hsucc, List.range'_succ, Nat.succ_sub_one]
    show Function.update log.index _ _ v = _
    by_cases hv : v = wrappedAt log.data log.offset
    · subst hv
      rw [Function.update_self, hrange, List.filter_cons, if_pos (decide_eq_true hfirst), List.tail_cons]
      rfl
    · have hne : ¬ history[log.offset]? = some v := fun heq => hv (Option.some.inj (heq.symm.trans hfirst))
      rw [Function.update_of_ne hv, hrange, List.filter_cons, if_neg (mt of_decide_eq_true hne)]
      rfl

/-- The places of a byte do not change when the history grows. -/
theorem filter_concat {offset size : Nat} (hend : offset + size = history.length) (last v : UInt8) :
    (List.range' offset size).filter (fun offset => decide ((history ++ [last])[offset]? = some v)) =
      (List.range' offset size).filter fun offset => decide (history[offset]? = some v) := by
  refine List.filter_congr fun place hplace => ?_
  have hlt := (List.mem_range'_1.mp hplace).2
  rw [List.getElem?_append_left (by omega)]

theorem range'_filter_concat {offset size : Nat} (hend : offset + size = history.length) (last v : UInt8) :
    (List.range' offset (size + 1)).filter (fun offset => decide ((history ++ [last])[offset]? = some v)) =
      (List.range' offset size).filter (fun offset => decide (history[offset]? = some v)) ++
        if v = last then [history.length] else [] := by
  have hlast : (history ++ [last])[offset + size]? = some last := by
    rw [hend, List.getElem?_concat_length]
  rw [List.range'_concat, Nat.one_mul, List.filter_append, filter_concat hend]
  by_cases hv : v = last
  · subst hv
    rw [if_pos rfl, List.filter_cons, if_pos (decide_eq_true hlast), List.filter_nil, hend]
  · have hne : ¬ (history ++ [last])[offset + size]? = some v := fun heq =>
      hv (Option.some.inj (heq.symm.trans hlast))
    rw [if_neg hv, List.filter_cons, if_neg (mt of_decide_eq_true hne), List.filter_nil]

theorem Follows.pushBack_of_lt (h : Follows log history) (hlt : log.size < 0x2000) (v : UInt8) :
    Follows (log.pushBack v) (history ++ [v]) := by
  obtain ⟨hlength, hsize, hend, hremembers, hindex⟩ := h
  rw [IndexedLog.pushBack, if_neg hlt.ne]
  refine ⟨?_, hlt, ?_, ?_, ?_⟩
  · exact List.length_set.trans hlength
  · dsimp only
    rw [List.length_append, ← hend, ← Nat.add_assoc]
    rfl
  · dsimp only
    rw [wrappedSet, hend]
    exact hremembers.push log.offset (Nat.le_refl _) (by omega) (by omega) v
  · intro place
    dsimp only
    rw [range'_filter_concat hend]
    by_cases hv : place = v
    · subst hv
      rw [Function.update_self, if_pos rfl, hindex, hend]
    · rw [Function.update_of_ne hv, if_neg hv, List.append_nil, hindex]

theorem Follows.pushBack (h : Follows log history) (v : UInt8) : Follows (log.pushBack v) (history ++ [v]) := by
  by_cases hfull : log.size = 0x2000
  · have hfront : log.popFront.size < 0x2000 := show log.size - 1 < 0x2000 by omega
    have heq : log.pushBack v = log.popFront.pushBack v := by
      rw [IndexedLog.pushBack, if_pos hfull, IndexedLog.pushBack, if_neg hfront.ne]
    rw [heq]
    exact (h.popFront (by omega)).pushBack_of_lt hfront v
  · exact h.pushBack_of_lt (Nat.lt_of_le_of_ne h.size_le hfull) v

theorem Follows.popBack {v : UInt8} (h : Follows log (history ++ [v])) (hpos : 0 < log.size) :
    ∃ log', log.popBack = .ok log' ∧ Follows log' history ∧ log'.size + 1 = log.size := by
  obtain ⟨hlength, hsize, hend, hremembers, hindex⟩ := h
  rw [List.length_append, List.length_singleton] at hend
  obtain ⟨size, hsucc⟩ := Nat.exists_eq_succ_of_ne_zero hpos.ne'
  have hend' : log.offset + size = history.length := by omega
  have hlast : wrappedAt log.data (log.offset + size) = v := by
    rw [wrappedAt_of_remembers hremembers (Nat.le_add_right _ _) (by rw [List.length_append]; simp [hend']),
      hend', List.getD_eq_getElem?_getD, List.getElem?_concat_length, Option.getD_some]
  have hpop : log.popBack = .ok { log with
      size, index := Function.update log.index v (log.index v).dropLast } := by
    rw [IndexedLog.popBack, if_neg hpos.ne', hsucc]
    dsimp only
    rw [Nat.succ_sub_one, hlast, pure_eq_ok]
  refine ⟨_, hpop, ⟨hlength, by dsimp only; omega, hend', ?_, ?_⟩, hsucc.symm⟩
  · intro i hlo hi
    rw [hremembers i hlo (by rw [List.length_append]; omega), List.getElem?_append_left hi]
  · intro place
    dsimp only
    have hplaces := hindex place
    rw [hsucc, range'_filter_concat hend'] at hplaces
    by_cases hv : place = v
    · subst hv
      rw [Function.update_self, hplaces, if_pos rfl, List.dropLast_concat]
    · rw [Function.update_of_ne hv, hplaces, if_neg hv, List.append_nil]

end Follows

/-! The state between two commands. -/

/-- What was compressed is the input, as far as there is any. -/
def Agrees (history input : List UInt8) : Prop :=
  ∀ i < history.length, i < input.length → history[i]? = input[i]?

theorem Agrees.eq_take {history input : List UInt8} (h : Agrees history input)
    (hle : history.length ≤ input.length) : history = input.take history.length := by
  refine List.ext_getElem? fun i => ?_
  by_cases hi : i < history.length
  · rw [List.getElem?_take_of_lt hi, h i hi (by omega)]
  · rw [List.getElem?_eq_none (by omega), List.getElem?_eq_none]
    rw [List.length_take]
    omega

/-- The logs of a compressor that has compressed a history and has got an input. -/
structure Holds (level : Int) (input history : List UInt8) (prs : PRSCompressor) : Prop where
  compressionLevel : prs.compressionLevel = level
  opened : prs.closed = false
  inputBytes : prs.inputBytes = input.length
  length : prs.forwardLog.length = 0x101
  forward : Remembers 0 history.length prs.forwardLog input
  waiting : input.length ≤ history.length + 0x101
  reverse : Follows prs.reverseLog history
  agrees : Agrees history input

/-- The history after so many bytes more of the forward log. -/
def moved (forward : List UInt8) (size : Nat) (history : List UInt8) : List UInt8 :=
  history ++ (List.range size).map fun i => wrappedAt forward (history.length + i)

theorem moved_length (forward : List UInt8) (size : Nat) (history : List UInt8) :
    (moved forward size history).length = history.length + size := by
  rw [moved, List.length_append, List.length_map, List.length_range]

theorem moved_succ (forward : List UInt8) (size : Nat) (history : List UInt8) :
    moved forward (size + 1) history = moved forward size history ++ [wrappedAt forward (history.length + size)] := by
  rw [moved, List.range_succ, List.map_append, ← List.append_assoc]
  rfl

theorem moved_concat (forward : List UInt8) (size : Nat) (history : List UInt8) :
    moved forward size (history ++ [wrappedAt forward history.length]) = moved forward (size + 1) history := by
  induction size with
  | zero => exact List.append_nil _
  | succ size ih =>
      rw [moved_succ, ih, moved_succ forward (size + 1), List.length_append, List.length_singleton, Nat.add_assoc,
        Nat.add_comm 1]

section Moves

variable {level : Int} {input history : List UInt8} {prs : PRSCompressor}

theorem Holds.wrappedAt_forward (h : Holds level input history prs) {i : Nat} (hlo : history.length ≤ i)
    (hlt : i < input.length) : wrappedAt prs.forwardLog i = input.getD i 0 :=
  wrappedAt_of_remembers h.forward hlo hlt

theorem Holds.endOffset (h : Holds level input history prs) : prs.reverseLog.endOffset = history.length :=
  h.reverse.endOffset

theorem Holds.push (h : Holds level input history prs) :
    Holds level input (history ++ [wrappedAt prs.forwardLog history.length]) { prs with
      reverseLog := prs.reverseLog.pushBack (wrappedAt prs.forwardLog prs.reverseLog.endOffset) } := by
  have hlen : (history ++ [wrappedAt prs.forwardLog history.length]).length = history.length + 1 :=
    List.length_append
  refine ⟨h.compressionLevel, h.opened, h.inputBytes, h.length, ?_, ?_, ?_, ?_⟩
  · intro i hlo hi
    exact h.forward i (by omega) hi
  · have hwaiting := h.waiting
    omega
  · dsimp only
    rw [h.endOffset]
    exact h.reverse.pushBack _
  · intro i hi hlt
    rcases Nat.lt_or_eq_of_le (Nat.le_of_lt_succ (hlen ▸ hi)) with hi | rfl
    · rw [List.getElem?_append_left hi, h.agrees i hi hlt]
    · rw [List.getElem?_concat_length, h.wrappedAt_forward (Nat.le_refl _) hlt, List.getD_eq_getElem _ _ hlt,
        List.getElem?_eq_getElem hlt]

theorem pushBack_size (log : IndexedLog) (v : UInt8) :
    min (log.size + 1) 0x2000 ≤ (log.pushBack v).size := by
  rw [IndexedLog.pushBack]
  split
  · show _ ≤ log.size - 1 + 1
    omega
  · exact Nat.min_le_left _ _

theorem Holds.moveForward (size : Nat) (h : Holds level input history prs) :
    ∃ log, prs.moveForwardDataToReverseLog size = { prs with reverseLog := log } ∧
      Holds level input (moved prs.forwardLog size history) { prs with reverseLog := log } ∧
      min (prs.reverseLog.size + size) 0x2000 ≤ log.size := by
  induction size generalizing prs history with
  | zero =>
      have hnone : moved prs.forwardLog 0 history = history := List.append_nil history
      exact ⟨prs.reverseLog, rfl, hnone.symm ▸ h, Nat.min_le_left _ _⟩
  | succ size ih =>
      have hpushed := pushBack_size prs.reverseLog (wrappedAt prs.forwardLog prs.reverseLog.endOffset)
      obtain ⟨log, heq, hlog, hsize⟩ := ih h.push
      rw [moved_concat] at hlog
      refine ⟨log, heq, hlog, ?_⟩
      dsimp only at hsize
      omega

theorem Holds.moved_eq_take (h : Holds level input history prs) {size : Nat}
    (hle : history.length + size ≤ input.length) :
    moved prs.forwardLog size history = input.take (history.length + size) := by
  obtain ⟨log, -, hlog, -⟩ := h.moveForward size
  have htake := hlog.agrees.eq_take (by rw [moved_length]; exact hle)
  rw [moved_length] at htake
  exact htake

theorem popAll {forward : List UInt8} (steps : List Nat) {log : IndexedLog}
    (h : Follows log (moved forward steps.length history)) (hsize : steps.length ≤ log.size) :
    ∃ log', steps.foldlM (fun log _ => log.popBack) log = .ok log' ∧ Follows log' history := by
  induction steps generalizing log with
  | nil =>
      have hnone : moved forward 0 history = history := List.append_nil history
      exact ⟨log, rfl, hnone ▸ h⟩
  | cons step steps ih =>
      rw [List.length_cons] at h hsize
      rw [moved_succ] at h
      obtain ⟨popped, hpop, hpopped, hlen⟩ := h.popBack (by omega)
      obtain ⟨log', hrest, hlog'⟩ := ih hpopped (by omega)
      exact ⟨log', by rw [List.foldlM_cons, hpop, ok_bind, hrest], hlog'⟩

end Moves

/-! The search. -/

/-- So many bytes match, all of them inside the input. -/
def Matches (prs : PRSCompressor) (z place n : Nat) : Prop :=
  (n = 0 ∨ z + n ≤ prs.inputBytes) ∧
    ∀ k < n, wrappedAt prs.reverseLog.data (place + k % (z - place)) = wrappedAt prs.forwardLog (z + k)

theorem matches_matchSize {prs : PRSCompressor} {z place : Nat} (fuel : Nat) {n : Nat}
    (h : Matches prs z place n) :
    Matches prs z place (prs.matchSize z place fuel n) ∧ prs.matchSize z place fuel n ≤ n + fuel := by
  induction fuel generalizing n with
  | zero => exact ⟨h, Nat.le_refl n⟩
  | succ fuel ih =>
      rw [PRSCompressor.matchSize]
      by_cases hnext : z + n < prs.inputBytes ∧
          wrappedAt prs.reverseLog.data (place + n % (z - place)) = wrappedAt prs.forwardLog (z + n)
      · have hmore : Matches prs z place (n + 1) := by
          refine ⟨.inr hnext.1, fun k hk => ?_⟩
          rcases Nat.lt_or_eq_of_le (Nat.le_of_lt_succ hk) with hk | rfl
          · exact h.2 k hk
          · exact hnext.2
        rw [if_pos hnext]
        obtain ⟨hmatches, hle⟩ := ih hmore
        exact ⟨hmatches, by omega⟩
      · rw [if_neg hnext]
        exact ⟨h, Nat.le_add_right _ _⟩

section Search

variable {level : Int} {input history : List UInt8} {prs : PRSCompressor}

/-- A match runs round the bytes between its place and the end, as a copy does. -/
theorem Matches.extend_take {place n : Nat} (h : Matches prs history.length place n)
    (hprs : Holds level input history prs) (hlo : prs.reverseLog.offset ≤ place) (hlt : place < history.length)
    (hpos : 0 < n) :
    history.length + n ≤ input.length ∧
      extend (history.length - place) n (input.take history.length) = input.take (history.length + n) := by
  obtain ⟨hend, hbytes⟩ := h
  have hfits : history.length + n ≤ input.length := by
    rw [← hprs.inputBytes]
    exact hend.resolve_left hpos.ne'
  have hround : ∀ k < n,
      input[history.length + k]? = input[place + k % (history.length - place)]? := by
    intro k hk
    have hturn : k % (history.length - place) < history.length - place := Nat.mod_lt _ (by omega)
    have hin : place + k % (history.length - place) < history.length := by omega
    have hbyte := hbytes k hk
    rw [hprs.wrappedAt_forward (Nat.le_add_right _ _) (by omega),
      wrappedAt_of_remembers hprs.reverse.remembers (by omega) hin, List.getD_eq_getElem?_getD,
      hprs.agrees _ hin (by omega), List.getD_eq_getElem?_getD,
      List.getElem?_eq_getElem (show history.length + k < input.length by omega),
      List.getElem?_eq_getElem (show place + k % (history.length - place) < input.length by omega)] at hbyte
    rw [List.getElem?_eq_getElem (show history.length + k < input.length by omega),
      List.getElem?_eq_getElem (show place + k % (history.length - place) < input.length by omega)]
    exact congrArg some hbyte.symm
  refine ⟨hfits, SlidingCopy.extend_take (by omega) (by omega) hfits fun k hk => ?_⟩
  rw [hround k hk]
  rcases Nat.lt_or_ge k (history.length - place) with hfirst | hagain
  · rw [Nat.mod_eq_of_lt hfirst]
    congr 1
    omega
  · have hback := hround (k - (history.length - place)) (by omega)
    rw [Nat.mod_eq_sub_mod hagain, ← hback]
    congr 1
    omega

/-- What the best match promises: if it is not empty, a copy behind its literals continues the
input. -/
structure Fits (input : List UInt8) (start level : Nat) (best : BestMatch) : Prop where
  literals_le : best.literals ≤ level
  size_le : best.size ≤ 0x100
  offset_lt : 0 < best.size → best.offset < start + best.literals
  lt_offset : 0 < best.size → start + best.literals < best.offset + 0x2000
  end_le : 0 < best.size → start + best.literals + best.size ≤ input.length
  copies : 0 < best.size → extend (start + best.literals - best.offset) best.size
    (input.take (start + best.literals)) = input.take (start + best.literals + best.size)

theorem fits_searchMatches {start limit numLiterals : Nat} (hprs : Holds level input history prs)
    (hstart : history.length = start + numLiterals) (hliterals : numLiterals ≤ limit) (places : List Nat)
    (hplaces : ∀ place ∈ places, prs.reverseLog.offset ≤ place ∧ place < history.length) {best : BestMatch}
    (hbest : Fits input start limit best) :
    Fits input start limit (prs.searchMatches history.length numLiterals best places) := by
  induction places generalizing best with
  | nil => exact hbest
  | cons place places ih =>
      obtain ⟨⟨hlo, hlt⟩, hplaces⟩ := List.forall_mem_cons.mp hplaces
      have hempty : Matches prs history.length place 0 := ⟨.inl rfl, fun k hk => absurd hk (Nat.not_lt_zero k)⟩
      obtain ⟨hmatches, hle⟩ := matches_matchSize 0x100 hempty
      rw [PRSCompressor.searchMatches]
      split
      · exact hbest
      split
      · exact ih hplaces hbest
      · rename_i hnear
        refine ih hplaces ?_
        split
        · refine ⟨hliterals, by omega, fun _ => hstart ▸ hlt, fun _ => ?_, fun hpos => ?_, fun hpos => ?_⟩
          · rw [← hstart]
            exact Nat.lt_of_not_le hnear
          · rw [← hstart]
            exact (hmatches.extend_take hprs hlo hlt hpos).1
          · rw [← hstart]
            exact (hmatches.extend_take hprs hlo hlt hpos).2
        · exact hbest

/-- The literals are taken out of the log again. -/
theorem Holds.searchBehind_eq {numLiterals : Nat} (h : Holds level input history prs) (hsize : numLiterals ≤ 0x2000)
    (best : BestMatch) :
    ∃ longer log, prs.searchBehind best numLiterals = .ok ({ prs with reverseLog := log },
        { prs with reverseLog := longer }.searchMatches (history.length + numLiterals) numLiterals best
          (longer.index (wrappedAt prs.forwardLog (history.length + numLiterals)))) ∧
      Holds level input (moved prs.forwardLog numLiterals history) { prs with reverseLog := longer } ∧
      Holds level input history { prs with reverseLog := log } ∧ numLiterals ≤ longer.size := by
  obtain ⟨longer, heq, hlonger, hlen⟩ := h.moveForward numLiterals
  have hcount : numLiterals ≤ longer.size := by omega
  have hrange : moved prs.forwardLog (List.range numLiterals).length history =
      moved prs.forwardLog numLiterals history := by
    rw [List.length_range]
  obtain ⟨log, hpop, hlog⟩ := popAll (List.range numLiterals) (hrange.symm ▸ hlonger.reverse)
    (show (List.range numLiterals).length ≤ longer.size by rw [List.length_range]; exact hcount)
  refine ⟨longer, log, ?_, hlonger, ⟨h.compressionLevel, h.opened, h.inputBytes, h.length, h.forward, h.waiting,
    hlog, h.agrees⟩, hcount⟩
  rw [PRSCompressor.searchBehind, heq]
  dsimp only
  rw [hlonger.endOffset, moved_length, hpop, ok_bind, pure_eq_ok]

theorem Holds.searchBehind {limit numLiterals : Nat} (h : Holds level input history prs)
    (hlimit : numLiterals ≤ limit) (hsize : numLiterals ≤ 0x2000) {best : BestMatch}
    (hbest : Fits input history.length limit best) :
    ∃ log best', prs.searchBehind best numLiterals = .ok ({ prs with reverseLog := log }, best') ∧
      Holds level input history { prs with reverseLog := log } ∧ Fits input history.length limit best' := by
  obtain ⟨longer, log, heq, hlonger, hlog, -⟩ := h.searchBehind_eq hsize best
  have hlen := moved_length prs.forwardLog numLiterals history
  have hplaces : ∀ place ∈ longer.index (wrappedAt prs.forwardLog (history.length + numLiterals)),
      longer.offset ≤ place ∧ place < (moved prs.forwardLog numLiterals history).length := by
    intro place hplace
    rw [hlonger.reverse.index] at hplace
    have hmem := List.mem_range'_1.mp (List.mem_of_mem_filter hplace)
    rw [← hlonger.reverse.endOffset]
    exact hmem
  have hfound := fits_searchMatches hlonger hlen hlimit _ hplaces hbest
  rw [hlen] at hfound
  exact ⟨log, _, heq, hlog, hfound⟩

theorem Holds.search {limit : Nat} (h : Holds level input history prs) (hsize : limit ≤ 0x2000)
    (literals : List Nat) (hliterals : ∀ numLiterals ∈ literals, numLiterals ≤ limit) {best : BestMatch}
    (hbest : Fits input history.length limit best) :
    ∃ log best', literals.foldlM (fun (prs, best) numLiterals => prs.searchBehind best numLiterals) (prs, best) =
        .ok ({ prs with reverseLog := log }, best') ∧
      Holds level input history { prs with reverseLog := log } ∧ Fits input history.length limit best' := by
  induction literals generalizing prs best with
  | nil => exact ⟨prs.reverseLog, best, rfl, h, hbest⟩
  | cons numLiterals literals ih =>
      obtain ⟨hhead, hliterals⟩ := List.forall_mem_cons.mp hliterals
      obtain ⟨log, best₁, hstep, hlog, hbest₁⟩ := h.searchBehind hhead (hhead.trans hsize) hbest
      obtain ⟨log', best₂, hrest, hlog', hbest₂⟩ := ih hlog hliterals hbest₁
      refine ⟨log', best₂, ?_, hlog', hbest₂⟩
      rw [List.foldlM_cons]
      dsimp only
      rw [hstep, ok_bind, hrest]

end Search

end HuntersGuild.PrsStreamingLogs
