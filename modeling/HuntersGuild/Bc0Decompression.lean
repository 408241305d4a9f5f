import HuntersGuild.FuelLoop
import HuntersGuild.RingBuffer
import HuntersGuild.SlidingCopy
import HuntersGuild.ByteStreams

/-!
`bc0_decompress`. The decompressor keeps the last 0x1000 bytes of the output in
a memo, and backreferences name places in the memo.
-/

namespace HuntersGuild.Bc0Decompression

open HuntersGuild.ExceptionRules
open HuntersGuild.FuelLoop
open HuntersGuild.RingBuffer
open HuntersGuild.InterleavedStream
open HuntersGuild.SlidingCopy
open HuntersGuild.ByteStreams

structure DecompressState where
  r : StringReader
  w : List UInt8
  memo : List UInt8
  memoOffset : Nat
  controlStreamBits : Nat
  deriving DecidableEq

def DecompressState.start (data : List UInt8) : DecompressState :=
  ⟨.ofBytes data, [], List.replicate 0x1000 0, 0x0FEE, 0x0000⟩

/-- Write a byte to the output and to the memo. -/
def DecompressState.put (s : DecompressState) (v : UInt8) : DecompressState :=
  { s with
    w := s.w ++ [v]
    memo := s.memo.set s.memoOffset v
    memoOffset := (s.memoOffset + 1) &&& 0x0FFF }

def DecompressState.copy (s : DecompressState) (backreferenceOffset count : Nat) :
    DecompressState :=
  (List.range count).foldl
    (fun s z => s.put (s.memo.getD ((backreferenceOffset + z) &&& 0x0FFF) 0)) s

/-- The part of a pass that executes the command announced by the control bit. -/
def DecompressState.execute (s : DecompressState) :
    Except Exception (Step DecompressState (List UInt8)) := do
  if s.controlStreamBits &&& 1 = 0 then
    let (a1, r) ← s.r.getU8
    if r.eof then
      return .done s.w
    else
      let (a2, r) ← r.getU8
      let count := (a2.toNat &&& 0x0F) + 3
      let backreferenceOffset := a1.toNat ||| ((a2.toNat <<< 4) &&& 0xF00)
      return .next ({ s with r }.copy backreferenceOffset count)
  else
    let (v, r) ← s.r.getU8
    return .next ({ s with r }.put v)

def decompressBody (s : DecompressState) : Step DecompressState (Except Exception (List UInt8)) :=
  Step.ofExcept do
    if s.r.eof then
      return .done s.w
    else
      let controlStreamBits := s.controlStreamBits >>> 1
      if controlStreamBits &&& 0x100 = 0 then
        let (v, r) ← s.r.getU8
        if r.eof then
          return .done s.w
        else
          DecompressState.execute { s with r, controlStreamBits := 0xFF00 ||| v.toNat }
      else
        DecompressState.execute { s with controlStreamBits }

def bc0Decompress (data : List UInt8) : Except Exception (List UInt8) :=
  (run decompressBody (data.length + 1) (.start data)).getD (.error .nonterminating)

/-- The memo holds the last 0x1000 bytes of the output. -/
structure MemoValid (s : DecompressState) : Prop where
  length_eq : s.memo.length = 0x1000
  offset_eq : s.memoOffset = (s.w.length + 0x0FEE) % 0x1000
  remembers : Remembers 0x0FEE (s.w.length - 0x1000) s.memo s.w

theorem start_memoValid (data : List UInt8) : MemoValid (.start data) where
  length_eq := by simp only [DecompressState.start, List.length_replicate]
  offset_eq := by simp only [DecompressState.start, List.length_nil]
  remembers := by
    simp only [DecompressState.start]
    exact remembers_nil _ _ _

theorem and_memo_mask (n : Nat) : n &&& 0x0FFF = n % 0x1000 :=
  Nat.and_two_pow_sub_one_eq_mod n 12

theorem MemoValid.put {s : DecompressState} (h : MemoValid s) (v : UInt8) :
    MemoValid (s.put v) where
  length_eq := by simp [DecompressState.put, h.length_eq]
  offset_eq := by
    simp only [DecompressState.put, and_memo_mask, h.offset_eq, List.length_append,
      List.length_singleton]
    omega
  remembers := by
    have hlen := h.length_eq
    have hpush := h.remembers.push (s.w.length + 1 - 0x1000) (by omega) (by omega)
      (by omega) v
    rw [hlen, ← h.offset_eq] at hpush
    simpa [DecompressState.put] using hpush

/-- The memo cell of a byte that has been written at most 0x1000 bytes ago. -/
theorem MemoValid.getD_memo {s : DecompressState} (h : MemoValid s) {i : Nat}
    (hlt : i < s.w.length) (hreach : s.w.length ≤ i + 0x1000) :
    s.memo.getD ((i + 0x0FEE) % 0x1000) 0 = s.w.getD i 0 := by
  have hcell := h.remembers i (by omega) hlt
  rw [h.length_eq] at hcell
  rw [List.getD_eq_getElem?_getD, List.getD_eq_getElem?_getD, hcell]

/-- Only the output and the memo change in a copy. -/
structure Copied (s s' : DecompressState) (w : List UInt8) : Prop where
  memoValid : MemoValid s'
  output : s'.w = w
  reader : s'.r = s.r
  bits : s'.controlStreamBits = s.controlStreamBits

/-- A copy from the memo is a copy from the output. -/
theorem MemoValid.copy {s : DecompressState} (h : MemoValid s) {start backreferenceOffset : Nat}
    (hstart : start < s.w.length) (hreach : s.w.length ≤ start + 0x1000)
    (hoffset : backreferenceOffset % 0x1000 = (start + 0x0FEE) % 0x1000) (count : Nat) :
    Copied s (s.copy backreferenceOffset count) (extend (s.w.length - start) count s.w) := by
  induction count with
  | zero => exact ⟨h, rfl, rfl, rfl⟩
  | succ count ih =>
      have hcopy : s.copy backreferenceOffset (count + 1) =
          (s.copy backreferenceOffset count).put ((s.copy backreferenceOffset count).memo.getD
            ((backreferenceOffset + count) &&& 0x0FFF) 0) := by
        simp [DecompressState.copy, List.range_succ]
      have hlen : (s.copy backreferenceOffset count).w.length = s.w.length + count := by
        rw [ih.output, extend_length count (by omega) (by omega)]
      have hcell : (backreferenceOffset + count) &&& 0x0FFF =
          (start + count + 0x0FEE) % 0x1000 := by
        rw [and_memo_mask]
        omega
      rw [hcopy, hcell, ih.memoValid.getD_memo (by omega) (by omega)]
      refine ⟨ih.memoValid.put _, ?_, ih.reader, ih.bits⟩
      have hlast : start + count < (s.copy backreferenceOffset count).w.length := by omega
      rw [extend_add, ← ih.output, extend, extend,
        show (s.copy backreferenceOffset count).w.length - (s.w.length - start) = start + count by
          omega,
        List.getElem?_eq_getElem hlast, DecompressState.put,
        List.getD_eq_getElem _ _ hlast]
      rfl

/-- What the decompressor's state has to do with the stream. The control bits
are shifted only when the next one is needed. -/
structure Decoded (s : DecompressState) (src : Source UInt8) : Prop where
  represents : Represents ⟨s.r, s.controlStreamBits >>> 1⟩ src
  memoValid : MemoValid s

theorem start_decoded (data : List UInt8) : Decoded (.start data) ⟨[], data⟩ where
  represents := by
    simp only [DecompressState.start, Nat.zero_shiftRight]
    exact represents_ofBytes data
  memoValid := start_memoValid data

/-- A pass of the loop reads a control bit, and then executes the command. -/
theorem decompressBody_of_read {s : DecompressState} {cr : ControlStreamReader} {bit : Bool}
    (hread : (⟨s.r, s.controlStreamBits >>> 1⟩ : ControlStreamReader).read = .ok (bit, cr))
    (heof : s.r.eof = false) (heof' : cr.r.eof = false) :
    ∃ bits, bits >>> 1 = cr.bits ∧ (bits &&& 1 == 1) = bit ∧
      decompressBody s =
        Step.ofExcept { s with r := cr.r, controlStreamBits := bits }.execute := by
  simp only [decompressBody, heof, Bool.false_eq_true, if_false]
  simp only [ControlStreamReader.read] at hread
  by_cases hempty : (s.controlStreamBits >>> 1) &&& 0x0100 = 0
  · simp only [hempty, if_true, bind_eq_ok, Prod.exists] at hread
    obtain ⟨v, cr', hget, loaded, hloaded, hbit⟩ := hread
    obtain rfl := Except.ok.inj hloaded
    obtain ⟨rfl, rfl⟩ := Prod.mk.inj (Except.ok.inj hbit)
    obtain ⟨hget, -⟩ := getU8_eq_ok_iff.mp hget
    simp only at heof'
    refine ⟨0xFF00 ||| v.toNat, rfl, rfl, ?_⟩
    simp only [hempty, if_true, hget, ok_bind, heof', Bool.false_eq_true, if_false]
  · simp only [hempty, if_false, pure_eq_ok, ok_bind, Except.ok.injEq, Prod.mk.injEq] at hread
    obtain ⟨rfl, rfl⟩ := hread
    refine ⟨s.controlStreamBits >>> 1, rfl, rfl, ?_⟩
    simp only [hempty, if_false]

/-- The items of a literal. -/
def literalItems (v : UInt8) : List (Item UInt8) :=
  [.control true, .data v]

/-- The items of a backreference to a place in the memo. -/
def backreferenceItems (memoOffset size : Nat) : List (Item UInt8) :=
  [.control false, .data (UInt8.ofNat (memoOffset &&& 0xFF)),
    .data (UInt8.ofNat (((memoOffset >>> 4) &&& 0xF0) ||| (size - 3)))]

theorem decompressBody_literal {s : DecompressState} {src t : Source UInt8} {v : UInt8}
    (hs : Decoded s src) (h : Reads bitsOfByte src (literalItems v) t) :
    ∃ s', decompressBody s = .next s' ∧ Decoded s' t ∧ s'.w = s.w ++ [v] := by
  have heof := eof_of_reads hs.represents h (by simp [literalItems, dataCount])
  obtain ⟨cr₁, _, h₁, hcr₁, h⟩ := read_of_reads hs.represents h
  have heof₁ := eof_of_reads hcr₁ h (by simp [dataCount])
  obtain ⟨cr₂, _, h₂, hcr₂, h⟩ := getU8_of_reads hcr₁ h
  cases h
  obtain ⟨bits, hbits, hbit, hbody⟩ := decompressBody_of_read h₁ heof heof₁
  obtain ⟨hget, hbits₂⟩ := getU8_eq_ok_iff.mp h₂
  have hone : bits &&& 1 ≠ 0 := by
    have hone : bits &&& 1 = 1 := by simpa using hbit
    omega
  have hvalid : MemoValid { s with r := cr₂.r, controlStreamBits := bits } :=
    ⟨hs.memoValid.length_eq, hs.memoValid.offset_eq, hs.memoValid.remembers⟩
  refine ⟨DecompressState.put { s with r := cr₂.r, controlStreamBits := bits } v, ?_, ?_, rfl⟩
  · rw [hbody]
    simp only [DecompressState.execute, hone, if_false, hget, ok_bind, pure_eq_ok, ofExcept_next]
  · refine ⟨?_, hvalid.put v⟩
    obtain ⟨r₂, bits₂⟩ := cr₂
    simp only [DecompressState.put] at hbits₂ ⊢
    rw [hbits, ← hbits₂]
    exact hcr₂

theorem memo_fields (memoOffset : Nat) {size : Nat} (hsize : 3 ≤ size ∧ size ≤ 0x12) :
    let a1 := UInt8.ofNat (memoOffset &&& 0xFF)
    let a2 := UInt8.ofNat (((memoOffset >>> 4) &&& 0xF0) ||| (size - 3))
    (a2.toNat &&& 0x0F) + 3 = size ∧
      (a1.toNat ||| ((a2.toNat <<< 4) &&& 0xF00)) = memoOffset % 0x1000 := by
  intro a1 a2
  have hnibbles : ∀ high < 16, ∀ low < 16, (high * 16 ||| low) < 0x100 ∧
      (high * 16 ||| low) &&& 0x0F = low ∧
        ((high * 16 ||| low) <<< 4) &&& 0xF00 = high <<< 8 := by
    decide +kernel
  have hmask : ∀ byte < 0x100, byte &&& 0xF0 = byte / 16 * 16 := by decide +kernel
  have hhigh : (memoOffset >>> 4) &&& 0xF0 = memoOffset / 0x100 % 16 * 16 := by
    have hbyte : (memoOffset >>> 4) &&& 0xF0 = memoOffset / 16 % 0x100 &&& 0xF0 := by
      rw [← Nat.and_two_pow_sub_one_eq_mod _ 8, Nat.and_assoc, Nat.shiftRight_eq_div_pow]
      rfl
    rw [hbyte, hmask _ (Nat.mod_lt _ (by omega))]
    omega
  have hlow : memoOffset &&& 0xFF = memoOffset % 0x100 :=
    Nat.and_two_pow_sub_one_eq_mod memoOffset 8
  obtain ⟨hlt, hcount, hfield⟩ :=
    hnibbles (memoOffset / 0x100 % 16) (by omega) (size - 3) (by omega)
  have ha1 : a1.toNat = memoOffset % 0x100 := by
    rw [UInt8.toNat_ofNat', hlow]
    omega
  have ha2 : a2.toNat = (memoOffset / 0x100 % 16 * 16 ||| (size - 3)) := by
    rw [UInt8.toNat_ofNat', hhigh]
    exact Nat.mod_eq_of_lt hlt
  rw [ha1, ha2, hcount, hfield, two_bytes_or (by omega)]
  omega

theorem decompressBody_backreference {s : DecompressState} {src t : Source UInt8}
    {start memoOffset size : Nat} (hs : Decoded s src) (hsize : 3 ≤ size ∧ size ≤ 0x12)
    (hstart : start < s.w.length) (hreach : s.w.length ≤ start + 0x1000)
    (hoffset : memoOffset % 0x1000 = (start + 0x0FEE) % 0x1000)
    (h : Reads bitsOfByte src (backreferenceItems memoOffset size) t) :
    ∃ s', decompressBody s = .next s' ∧ Decoded s' t ∧
      s'.w = extend (s.w.length - start) size s.w := by
  have heof := eof_of_reads hs.represents h (by simp [backreferenceItems, dataCount])
  obtain ⟨cr₁, _, h₁, hcr₁, h⟩ := read_of_reads hs.represents h
  have heof₁ := eof_of_reads hcr₁ h (by simp [dataCount])
  obtain ⟨cr₂, _, h₂, hcr₂, h⟩ := getU8_of_reads hcr₁ h
  have heof₂ := eof_of_reads hcr₂ h (by simp [dataCount])
  obtain ⟨cr₃, _, h₃, hcr₃, h⟩ := getU8_of_reads hcr₂ h
  cases h
  obtain ⟨bits, hbits, hbit, hbody⟩ := decompressBody_of_read h₁ heof heof₁
  obtain ⟨hget₂, hbits₂⟩ := getU8_eq_ok_iff.mp h₂
  obtain ⟨hget₃, hbits₃⟩ := getU8_eq_ok_iff.mp h₃
  have hzero : bits &&& 1 = 0 := by
    have hone : ¬bits &&& 1 = 1 := by simpa using hbit
    have hmod := Nat.and_one_is_mod bits
    omega
  obtain ⟨hcount, hmemo⟩ := memo_fields memoOffset hsize
  have hvalid : MemoValid { s with r := cr₃.r, controlStreamBits := bits } :=
    ⟨hs.memoValid.length_eq, hs.memoValid.offset_eq, hs.memoValid.remembers⟩
  have hcopied := hvalid.copy hstart hreach
    (show memoOffset % 0x1000 % 0x1000 = _ by rw [Nat.mod_mod, hoffset]) size
  refine ⟨_, ?_, ⟨?_, hcopied.memoValid⟩, hcopied.output⟩
  · rw [hbody]
    simp only [DecompressState.execute, hzero, if_true, hget₂, heof₂, Bool.false_eq_true,
      if_false, hget₃, ok_bind, hcount, hmemo, pure_eq_ok, ofExcept_next]
  · rw [hcopied.reader, hcopied.bits]
    obtain ⟨r₃, bits₃⟩ := cr₃
    simp only at hbits₃ ⊢
    rw [hbits, ← hbits₂, ← hbits₃]
    exact hcr₃

/-- A decompressor that reads these items from the beginning of its data has
this output. -/
def Decodes (items : List (Item UInt8)) (out : List UInt8) : Prop :=
  ∀ data t, Reads bitsOfByte ⟨[], data⟩ items t →
    ∃ s, Reaches decompressBody (.start data) s ∧ Decoded s t ∧ s.w = out

theorem decodes_nil : Decodes [] [] := by
  intro data t h
  cases h
  exact ⟨.start data, .refl, start_decoded data, rfl⟩

theorem Decodes.literal {items : List (Item UInt8)} {out : List UInt8} (h : Decodes items out)
    (v : UInt8) : Decodes (items ++ literalItems v) (out ++ [v]) := by
  intro data t hreads
  obtain ⟨mid, hitems, hlast⟩ := Reads.of_append hreads
  obtain ⟨s, hreach, hs, rfl⟩ := h data mid hitems
  obtain ⟨s', hgo, hs', hw⟩ := decompressBody_literal hs hlast
  exact ⟨s', hreach.tail hgo, hs', hw⟩

theorem Decodes.backreference {items : List (Item UInt8)} {out : List UInt8}
    (h : Decodes items out) (start : Nat) {memoOffset size : Nat} (hsize : 3 ≤ size ∧ size ≤ 0x12)
    (hstart : start < out.length) (hreach : out.length ≤ start + 0x1000)
    (hoffset : memoOffset % 0x1000 = (start + 0x0FEE) % 0x1000) :
    Decodes (items ++ backreferenceItems memoOffset size)
      (extend (out.length - start) size out) := by
  intro data t hreads
  obtain ⟨mid, hitems, hlast⟩ := Reads.of_append hreads
  obtain ⟨s, hreaches, hs, rfl⟩ := h data mid hitems
  obtain ⟨s', hgo, hs', hw⟩ :=
    decompressBody_backreference hs hsize hstart hreach hoffset hlast
  exact ⟨s', hreaches.tail hgo, hs', hw⟩

theorem copy_reader (s : DecompressState) (backreferenceOffset count : Nat) :
    (s.copy backreferenceOffset count).r = s.r := by
  induction count with
  | zero => rfl
  | succ count ih =>
      rw [← ih]
      simp [DecompressState.copy, List.range_succ, DecompressState.put]

theorem execute_remaining {s s' : DecompressState} (h : s.execute = .ok (.next s')) :
    s'.r.remaining.length < s.r.remaining.length := by
  rw [DecompressState.execute] at h
  split at h
  · simp only [bind_eq_ok, Prod.exists] at h
    obtain ⟨a1, r, hget, h⟩ := h
    have hget := StringReader.getU8_remaining hget
    split at h
    · cases h
    · simp only [bind_eq_ok, Prod.exists] at h
      obtain ⟨a2, r', hget', h⟩ := h
      have hget' := StringReader.getU8_remaining hget'
      cases h
      rw [copy_reader]
      simp only
      omega
  · simp only [bind_eq_ok, Prod.exists] at h
    obtain ⟨v, r, hget, h⟩ := h
    have hget := StringReader.getU8_remaining hget
    cases h
    simp only [DecompressState.put]
    omega

theorem decompressBody_remaining {s s' : DecompressState} (h : decompressBody s = .next s') :
    s'.r.remaining.length < s.r.remaining.length := by
  rw [decompressBody, ofExcept_eq_next_iff] at h
  split at h
  · cases h
  · simp only at h
    split at h
    · simp only [bind_eq_ok, Prod.exists] at h
      obtain ⟨v, r, hget, h⟩ := h
      have hget := StringReader.getU8_remaining hget
      split at h
      · cases h
      · have hlt := execute_remaining h
        simp only at hlt
        omega
    · have hlt := execute_remaining h
      exact hlt

/-- Data that consists of these items decompresses to their output. -/
theorem Decodes.bc0Decompress {items : List (Item UInt8)} {out data : List UInt8}
    {pending : List Bool} (h : Decodes items out)
    (hreads : Reads bitsOfByte ⟨[], data⟩ items ⟨pending, []⟩) :
    Bc0Decompression.bc0Decompress data = .ok out := by
  obtain ⟨s, hreach, hs, rfl⟩ := h data _ hreads
  have hinput : s.r.remaining = [] := hs.represents.2
  have hdone : decompressBody s = .done (.ok s.w) := by
    simp [decompressBody, StringReader.eof, hinput, pure_eq_ok]
  obtain ⟨r, hrun⟩ := exists_run_eq_some (fun _ => True)
    (fun s : DecompressState => s.r.remaining.length)
    (fun _ _ _ h => ⟨trivial, decompressBody_remaining h⟩) trivial
    (Nat.lt_succ_self (DecompressState.start data).r.remaining.length)
  have hr := run_of_reaches hreach hdone hrun
  have hlength : (DecompressState.start data).r.remaining.length = data.length := by
    simp only [DecompressState.start, StringReader.ofBytes]
  rw [hlength, hr] at hrun
  rw [Bc0Decompression.bc0Decompress, ← Nat.succ_eq_add_one, hrun, Option.getD_some]

end HuntersGuild.Bc0Decompression
