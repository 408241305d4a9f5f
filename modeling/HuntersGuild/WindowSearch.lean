import Mathlib.Data.Prod.Lex
import HuntersGuild.CommonPrefix
import HuntersGuild.ComparatorSet
import HuntersGuild.SlidingCopy

/-!
`WindowIndex`: the offsets of a sliding window, ordered by the strings that
start there, and the search for the longest match in the window.
-/

namespace HuntersGuild.WindowSearch

open HuntersGuild.CommonPrefix
open HuntersGuild.ComparatorSet
open HuntersGuild.SlidingCopy

structure WindowIndex (WindowLength MaxMatchLength : Nat) where
  data : List UInt8
  offset : Nat
  index : List Nat
  deriving DecidableEq

variable {WindowLength MaxMatchLength : Nat}

namespace WindowIndex

def new (data : List UInt8) : WindowIndex WindowLength MaxMatchLength :=
  ⟨data, 0, []⟩

def size (self : WindowIndex WindowLength MaxMatchLength) : Nat :=
  self.data.length

end WindowIndex

/-- The loop of `get_match_length`, for at most `budget` more bytes. -/
def matchLength (data : List UInt8) : Nat → Nat → Nat → Nat
  | 0, _, _ => 0
  | budget + 1, matchIter, offsetIter =>
      if matchIter < data.length ∧ offsetIter < data.length ∧
          data.getD matchIter 0 = data.getD offsetIter 0 then
        matchLength data budget (matchIter + 1) (offsetIter + 1) + 1
      else 0

/-- The loop of `set_comparator`, for `length` more bytes. -/
def comesBefore (data : List UInt8) : Nat → Nat → Nat → Bool
  | 0, a, b => a < b
  | length + 1, a, b =>
      if data.getD a 0 < data.getD b 0 then true
      else if data.getD b 0 < data.getD a 0 then false
      else comesBefore data length (a + 1) (b + 1)

namespace WindowIndex

def getMatchLength (self : WindowIndex WindowLength MaxMatchLength) (matchOffset : Nat) : Nat :=
  matchLength self.data MaxMatchLength matchOffset self.offset

def setComparator (self : WindowIndex WindowLength MaxMatchLength) (a b : Nat) : Bool :=
  comesBefore self.data (min MaxMatchLength (self.size - max a b)) a b

def advance (self : WindowIndex WindowLength MaxMatchLength) :
    WindowIndex WindowLength MaxMatchLength :=
  let index :=
    if self.offset ≥ WindowLength then
      erase self.setComparator (self.offset - WindowLength) self.index
    else self.index
  { self with
    index := emplace self.setComparator self.offset index
    offset := self.offset + 1 }

/-- Prefer a longer match, and among equally long ones the later. -/
def better (self : WindowIndex WindowLength MaxMatchLength) (best : Nat × Nat)
    (newMatchOffset : Nat) : Nat × Nat :=
  let newMatchSize := self.getMatchLength newMatchOffset
  if newMatchSize > best.2 ∨ (newMatchSize = best.2 ∧ newMatchOffset > best.1) then
    (newMatchOffset, newMatchSize)
  else best

def getBestMatch (self : WindowIndex WindowLength MaxMatchLength) : Nat × Nat :=
  let it := upperBound self.setComparator self.offset self.index
  let best := (it.2.head?.map (self.better (0, 0))).getD (0, 0)
  (it.1.getLast?.map (self.better best)).getD best

end WindowIndex

/-- The string at an offset, padded at the end of the data by a symbol that is
greater than every byte. -/
def paddedString (data : List UInt8) : Nat → Nat → List Nat
  | 0, _ => []
  | length + 1, a =>
      (if a < data.length then (data.getD a 0).toNat else 256) ::
        paddedString data length (a + 1)

/-- What the comparator orders by: the padded string, then the offset. -/
def sortKey (data : List UInt8) (length a : Nat) : List Nat ×ₗ Nat :=
  toLex (paddedString data length a, a)

theorem sortKey_lt_iff (data : List UInt8) (length a b : Nat) :
    sortKey data length a < sortKey data length b ↔
      paddedString data length a < paddedString data length b ∨
        (paddedString data length a = paddedString data length b ∧ a < b) :=
  Prod.Lex.toLex_lt_toLex

theorem sortKey_succ_lt_iff {data : List UInt8} {a b : Nat} (length : Nat)
    (ha : a < data.length) (hb : b < data.length) :
    sortKey data (length + 1) a < sortKey data (length + 1) b ↔
      data.getD a 0 < data.getD b 0 ∨
        (data.getD a 0 = data.getD b 0 ∧
          sortKey data length (a + 1) < sortKey data length (b + 1)) := by
  simp only [sortKey_lt_iff, paddedString, ha, hb, if_true, List.cons_lt_cons_iff,
    List.cons.injEq, UInt8.lt_iff_toNat_lt, ← UInt8.toNat_inj]
  have hshift : a + 1 < b + 1 ↔ a < b := by omega
  rw [hshift]
  tauto

theorem comesBefore_iff {data : List UInt8} (length : Nat) {a b : Nat}
    (ha : a ≤ data.length) (hb : b ≤ data.length) :
    comesBefore data (min length (data.length - max a b)) a b = true ↔
      sortKey data length a < sortKey data length b := by
  induction length generalizing a b with
  | zero => simp [comesBefore, sortKey_lt_iff, paddedString]
  | succ length ih =>
      by_cases hend : max a b < data.length
      · have ha' : a < data.length := by omega
        have hb' : b < data.length := by omega
        have hcount : min (length + 1) (data.length - max a b) =
            min length (data.length - max (a + 1) (b + 1)) + 1 := by omega
        rw [hcount, comesBefore, sortKey_succ_lt_iff length ha' hb', ← ih ha' hb']
        generalize comesBefore data _ (a + 1) (b + 1) = later
        generalize data.getD a 0 = x
        generalize data.getD b 0 = y
        simp only [UInt8.lt_iff_toNat_lt, ← UInt8.toNat_inj]
        rcases lt_trichotomy x.toNat y.toNat with hlt | heq | hgt
        · simp [hlt]
        · simp [heq]
        · simp [hgt, hgt.not_gt, hgt.ne']
      · -- The later offset is at the end of the data, so its padding decides.
        have hcount : min (length + 1) (data.length - max a b) = 0 := by omega
        rw [hcount, comesBefore, sortKey_lt_iff, decide_eq_true_iff]
        simp only [paddedString, List.cons_lt_cons_iff, List.cons.injEq]
        have ha256 := (data.getD a 0).toNat_lt
        have hb256 := (data.getD b 0).toNat_lt
        rcases lt_trichotomy a b with hlt | rfl | hgt
        · have hb' : ¬b < data.length := by omega
          have ha' : a < data.length := by omega
          simp only [ha', hb', if_true, if_false]
          omega
        · simp
        · have ha' : ¬a < data.length := by omega
          have hb' : b < data.length := by omega
          simp only [ha', hb', if_true, if_false]
          omega

/-- For an offset before the current one, the match length is the length of the
common prefix of the padded strings: the paddings do not meet. -/
theorem matchLength_eq_lcp {data : List UInt8} (length : Nat) {m a : Nat} (hma : m < a)
    (ha : a ≤ data.length) :
    matchLength data length m a =
      lcp (paddedString data length m) (paddedString data length a) := by
  induction length generalizing m a with
  | zero => rfl
  | succ length ih =>
      have hm : m < data.length := by omega
      have hm256 := (data.getD m 0).toNat_lt
      simp only [matchLength, paddedString, lcp, hm, true_and, if_true]
      by_cases ha' : a < data.length
      · simp only [ha', true_and, if_true, UInt8.toNat_inj, ih (by omega : m + 1 < a + 1) ha']
      · simp only [ha', false_and, if_false]
        rw [if_neg (by omega)]

theorem matchLength_le (data : List UInt8) (length m a : Nat) :
    matchLength data length m a ≤ length := by
  induction length generalizing m a with
  | zero => simp [matchLength]
  | succ length ih =>
      have := ih (m + 1) (a + 1)
      simp only [matchLength]
      split <;> omega

/-- A match agrees with the current string and stays inside the data. -/
theorem getElem?_of_lt_matchLength {data : List UInt8} {length m a k : Nat} (hma : m < a)
    (hk : k < matchLength data length m a) :
    a + k < data.length ∧ data[a + k]? = data[m + k]? := by
  induction length generalizing m a k with
  | zero => simp [matchLength] at hk
  | succ length ih =>
      rw [matchLength] at hk
      split at hk
      · rename_i h
        obtain ⟨hm, ha, heq⟩ := h
        rcases k with _ | k
        · refine ⟨ha, ?_⟩
          simpa [List.getD_eq_getElem?_getD, List.getElem?_eq_getElem hm,
            List.getElem?_eq_getElem ha] using heq.symm
        · have hrec := ih (by omega : m + 1 < a + 1) (show k < _ by omega)
          simpa [Nat.add_assoc, Nat.add_comm 1 k] using hrec
      · omega

/-- Every string that agrees with the current one is at most as long. -/
theorem le_matchLength {data : List UInt8} {length m a n : Nat} (hma : m < a)
    (hn : n ≤ length) (hend : a + n ≤ data.length)
    (hmatch : ∀ k < n, data[a + k]? = data[m + k]?) : n ≤ matchLength data length m a := by
  induction length generalizing m a n with
  | zero => omega
  | succ length ih =>
      rcases n with _ | n
      · omega
      · have heq : data.getD m 0 = data.getD a 0 := by
          have h0 := hmatch 0 (by omega)
          simp only [Nat.add_zero] at h0
          rw [List.getD_eq_getElem?_getD, List.getD_eq_getElem?_getD, h0]
        have hrec : n ≤ matchLength data length (m + 1) (a + 1) := by
          refine ih (by omega) (by omega) (by omega) fun k hk => ?_
          have hk' := hmatch (k + 1) (by omega)
          simpa [Nat.add_assoc, Nat.add_comm 1 k] using hk'
        rw [matchLength, if_pos ⟨by omega, by omega, heq⟩]
        omega

namespace WindowIndex

theorem setComparator_comparesBy (self : WindowIndex WindowLength MaxMatchLength) :
    ComparesBy self.setComparator (sortKey self.data MaxMatchLength)
      (· ≤ self.data.length) where
  lt_iff := comesBefore_iff MaxMatchLength
  key_inj := fun _ _ h => (Prod.ext_iff.mp (toLex.injective h)).2

/-- The index holds exactly the offsets of the window, in order. -/
structure Valid (w : WindowIndex WindowLength MaxMatchLength) : Prop where
  offset_le : w.offset ≤ w.data.length
  sorted : Sorted (sortKey w.data MaxMatchLength) w.index
  mem_iff : ∀ m, m ∈ w.index ↔ m < w.offset ∧ w.offset ≤ m + WindowLength

theorem new_valid (data : List UInt8) :
    (new data : WindowIndex WindowLength MaxMatchLength).Valid :=
  ⟨Nat.zero_le _, List.Pairwise.nil, fun m => by simp [new]⟩

theorem Valid.le_length {self : WindowIndex WindowLength MaxMatchLength} (h : self.Valid) :
    ∀ m ∈ self.index, m ≤ self.data.length := by
  intro m hm
  have hlt := ((h.mem_iff m).mp hm).1
  have hle := h.offset_le
  omega

theorem Valid.advance {self : WindowIndex WindowLength MaxMatchLength} (h : self.Valid)
    (hwindow : 0 < WindowLength) (hlt : self.offset < self.data.length) :
    self.advance.Valid := by
  have hcmp := self.setComparator_comparesBy
  by_cases hfull : self.offset ≥ WindowLength
  · have hmem : ∀ m, m ∈ erase self.setComparator (self.offset - WindowLength) self.index ↔
        m ∈ self.index ∧ m ≠ self.offset - WindowLength :=
      fun m => hcmp.mem_erase (by omega) h.le_length
    have hdom : ∀ m ∈ erase self.setComparator (self.offset - WindowLength) self.index,
        m ≤ self.data.length := fun m hm => h.le_length m ((hmem m).mp hm).1
    refine ⟨hlt, ?_, fun m => ?_⟩
    · simpa only [WindowIndex.advance, hfull, if_true] using
        hcmp.sorted_emplace hlt.le hdom (sorted_erase h.sorted)
    · simp only [WindowIndex.advance, hfull, if_true, hcmp.mem_emplace hlt.le hdom, hmem,
        h.mem_iff]
      omega
  · refine ⟨hlt, ?_, fun m => ?_⟩
    · simpa only [WindowIndex.advance, hfull, if_false] using
        hcmp.sorted_emplace hlt.le h.le_length h.sorted
    · simp only [WindowIndex.advance, hfull, if_false, hcmp.mem_emplace hlt.le h.le_length,
        h.mem_iff]
      omega

@[simp] theorem advance_offset (self : WindowIndex WindowLength MaxMatchLength) :
    self.advance.offset = self.offset + 1 := rfl

@[simp] theorem advance_data (self : WindowIndex WindowLength MaxMatchLength) :
    self.advance.data = self.data := rfl

/-- A reported match is no match at all, or a match with an offset of the
index. -/
def Found (self : WindowIndex WindowLength MaxMatchLength) (best : Nat × Nat) : Prop :=
  best = (0, 0) ∨ (best.1 ∈ self.index ∧ best.2 = self.getMatchLength best.1)

theorem better_found {self : WindowIndex WindowLength MaxMatchLength} {best : Nat × Nat}
    (h : self.Found best) {m : Nat} (hm : m ∈ self.index) : self.Found (self.better best m) := by
  simp only [better]
  split
  · exact .inr ⟨hm, rfl⟩
  · exact h

theorem le_better (self : WindowIndex WindowLength MaxMatchLength) (best : Nat × Nat) (m : Nat) :
    best.2 ≤ (self.better best m).2 ∧ self.getMatchLength m ≤ (self.better best m).2 := by
  simp only [better]
  split
  · exact ⟨by omega, le_rfl⟩
  · exact ⟨le_rfl, by omega⟩

theorem getBestMatch_found (self : WindowIndex WindowLength MaxMatchLength) :
    self.Found self.getBestMatch := by
  have happ : (upperBound self.setComparator self.offset self.index).1 ++
      (upperBound self.setComparator self.offset self.index).2 = self.index :=
    List.takeWhile_append_dropWhile
  have hnone : self.Found (0, 0) := .inl rfl
  have hafter : self.Found (((upperBound self.setComparator self.offset self.index).2.head?.map
      (self.better (0, 0))).getD (0, 0)) := by
    cases hs : (upperBound self.setComparator self.offset self.index).2.head? with
    | none => exact hnone
    | some s =>
        refine better_found hnone ?_
        rw [← happ]
        exact List.mem_append_right _ (List.mem_of_mem_head? hs)
  simp only [getBestMatch]
  cases hp : (upperBound self.setComparator self.offset self.index).1.getLast? with
  | none => exact hafter
  | some p =>
      refine better_found hafter ?_
      rw [← happ]
      exact List.mem_append_left _ (List.mem_of_mem_getLast? hp)

/-- No offset of the window has a longer match than the reported one. -/
theorem Valid.getMatchLength_le {self : WindowIndex WindowLength MaxMatchLength}
    (h : self.Valid) {m : Nat} (hm : m ∈ self.index) :
    self.getMatchLength m ≤ self.getBestMatch.2 := by
  have hcmp := self.setComparator_comparesBy
  have hlcp : ∀ m ∈ self.index, self.getMatchLength m =
      lcp (paddedString self.data MaxMatchLength m)
        (paddedString self.data MaxMatchLength self.offset) :=
    fun m hm => matchLength_eq_lcp _ ((h.mem_iff m).mp hm).1 h.offset_le
  have hpadded : ∀ a b, sortKey self.data MaxMatchLength a ≤ sortKey self.data MaxMatchLength b →
      paddedString self.data MaxMatchLength a ≤ paddedString self.data MaxMatchLength b :=
    fun a b hab => Prod.Lex.monotone_fst_ofLex hab
  simp only [getBestMatch]
  rcases le_or_gt (sortKey self.data MaxMatchLength m)
    (sortKey self.data MaxMatchLength self.offset) with hle | hgt
  · -- The predecessor of the bound lies between `m` and the current offset.
    obtain ⟨p, hp, hpmem, hmp, hpx⟩ :=
      hcmp.exists_pred h.offset_le h.le_length h.sorted hm hle
    rw [hp]
    refine le_trans ?_ (le_better _ _ p).2
    rw [hlcp m hm, hlcp p hpmem]
    exact lcp_le_of_le_left (hpadded _ _ hmp) (hpadded _ _ hpx)
  · -- The bound lies between the current offset and `m`.
    obtain ⟨s, hs, hsmem, hxs, hsm⟩ :=
      hcmp.exists_succ h.offset_le h.le_length h.sorted hm hgt
    have hbetter : self.getMatchLength m ≤ (self.better (0, 0) s).2 := by
      refine le_trans ?_ (le_better _ _ s).2
      rw [hlcp m hm, hlcp s hsmem]
      exact lcp_le_of_le_right (hpadded _ _ hxs.le) (hpadded _ _ hsm)
    rw [hs]
    cases hp : (upperBound self.setComparator self.offset self.index).1.getLast? with
    | none => exact hbetter
    | some p => exact hbetter.trans (le_better _ _ p).1

theorem Valid.bestMatch_bounds {self : WindowIndex WindowLength MaxMatchLength}
    (h : self.Valid) (hsize : 0 < self.getBestMatch.2) :
    self.getBestMatch.1 < self.offset ∧ self.offset ≤ self.getBestMatch.1 + WindowLength ∧
      self.getBestMatch.2 ≤ MaxMatchLength ∧
      self.offset + self.getBestMatch.2 ≤ self.data.length := by
  rcases self.getBestMatch_found with hnone | ⟨hmem, hlength⟩
  · rw [hnone] at hsize
    omega
  · obtain ⟨hlt, hwindow⟩ := (h.mem_iff _).mp hmem
    have hle : self.getBestMatch.2 ≤ MaxMatchLength := hlength ▸ matchLength_le _ _ _ _
    have hlast : self.getBestMatch.2 - 1 < self.getMatchLength self.getBestMatch.1 := by omega
    obtain ⟨hend, -⟩ := getElem?_of_lt_matchLength hlt hlast
    exact ⟨hlt, hwindow, hle, by omega⟩

/-- Copying from the best match, or from a part of it, continues the input. -/
theorem Valid.extend_bestMatch {self : WindowIndex WindowLength MaxMatchLength}
    (h : self.Valid) {count : Nat} (hpos : 0 < count) (hle : count ≤ self.getBestMatch.2) :
    extend (self.offset - self.getBestMatch.1) count (self.data.take self.offset) =
      self.data.take (self.offset + count) := by
  obtain ⟨hlt, -, -, hend⟩ := h.bestMatch_bounds (by omega)
  rcases self.getBestMatch_found with hnone | ⟨-, hlength⟩
  · rw [hnone] at hle
    omega
  · refine extend_take (by omega) (by omega) (by omega) fun k hk => ?_
    have hk' : k < self.getMatchLength self.getBestMatch.1 := by omega
    obtain ⟨-, heq⟩ := getElem?_of_lt_matchLength hlt hk'
    rw [heq]
    congr 1
    omega

/-- What `f` says of the window at each of the next `count` offsets. -/
def scan {β : Type} (f : WindowIndex WindowLength MaxMatchLength → β) :
    Nat → WindowIndex WindowLength MaxMatchLength → List β
  | 0, _ => []
  | count + 1, w => f w :: scan f count w.advance

/-- The window over `data` when `z` bytes have been passed. -/
structure At (w : WindowIndex WindowLength MaxMatchLength) (data : List UInt8) (z : Nat) :
    Prop where
  valid : w.Valid
  offset_eq : w.offset = z
  data_eq : w.data = data

theorem new_at (data : List UInt8) :
    (new data : WindowIndex WindowLength MaxMatchLength).At data 0 :=
  ⟨new_valid data, rfl, rfl⟩

theorem At.advance {w : WindowIndex WindowLength MaxMatchLength} {data : List UInt8} {z : Nat}
    (h : w.At data z) (hwindow : 0 < WindowLength) (hz : z < data.length) :
    w.advance.At data (z + 1) := by
  obtain ⟨hvalid, rfl, rfl⟩ := h
  exact ⟨hvalid.advance hwindow hz, rfl, rfl⟩

theorem At.iterate_advance {w : WindowIndex WindowLength MaxMatchLength} {data : List UInt8}
    {z : Nat} (h : w.At data z) (hwindow : 0 < WindowLength) {count : Nat}
    (hz : z + count ≤ data.length) : (WindowIndex.advance^[count] w).At data (z + count) := by
  induction count with
  | zero => exact h
  | succ count ih =>
      rw [Function.iterate_succ_apply']
      exact (ih (by omega)).advance hwindow (by omega)

theorem At.scan_getD {w : WindowIndex WindowLength MaxMatchLength} {data : List UInt8}
    {z count k : Nat} {β : Type} (f : WindowIndex WindowLength MaxMatchLength → β) (d : β)
    (h : w.At data z) (hwindow : 0 < WindowLength) (hcount : z + count ≤ data.length)
    (hk : k < count) :
    ∃ w' : WindowIndex WindowLength MaxMatchLength, w'.At data (z + k) ∧
      (scan f count w).getD k d = f w' := by
  induction k generalizing z count w with
  | zero =>
      obtain ⟨count, rfl⟩ : ∃ c, count = c + 1 := ⟨count - 1, by omega⟩
      exact ⟨w, h, rfl⟩
  | succ k ih =>
      obtain ⟨count, rfl⟩ : ∃ c, count = c + 1 := ⟨count - 1, by omega⟩
      obtain ⟨w', hw', hf⟩ := ih (h.advance hwindow (by omega)) (by omega) (by omega : k < count)
      exact ⟨w', by rwa [Nat.add_assoc, Nat.add_comm 1 k] at hw', hf⟩

theorem bestMatch_le (w : WindowIndex WindowLength MaxMatchLength) :
    w.getBestMatch.2 ≤ MaxMatchLength := by
  rcases w.getBestMatch_found with hnone | ⟨-, hlength⟩
  · simp [hnone]
  · exact hlength ▸ matchLength_le _ _ _ _

theorem At.add_bestMatch_le {w : WindowIndex WindowLength MaxMatchLength} {data : List UInt8}
    {z : Nat} (h : w.At data z) (hsize : 0 < w.getBestMatch.2) :
    z + w.getBestMatch.2 ≤ data.length := by
  obtain ⟨hvalid, rfl, rfl⟩ := h
  exact (hvalid.bestMatch_bounds hsize).2.2.2

end WindowIndex

end HuntersGuild.WindowSearch
