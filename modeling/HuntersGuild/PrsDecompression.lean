import HuntersGuild.FuelLoop
import HuntersGuild.PrsCommands

/-!
`prs_decompress_with_meta` and `prs_decompress_size`. Both read commands in
the same way; they differ in what they do with the output and in where they
look at the output limit.
-/

namespace HuntersGuild.PrsDecompression

open HuntersGuild.ExceptionRules
open HuntersGuild.FuelLoop
open HuntersGuild.InterleavedStream
open HuntersGuild.SlidingCopy
open HuntersGuild.ByteStreams
open HuntersGuild.PrsCommands

/-- Read a backreference after the control bit 0: its offset and count, or
nothing for a stop command. Offsets are negative. -/
def readCopy (cr : ControlStreamReader) :
    Except Exception (Option (Int × Nat) × ControlStreamReader) := do
  let (long, cr) ← cr.read
  if long then
    let (low, cr) ← cr.getU8
    let (high, cr) ← cr.getU8
    let a := low.toNat ||| high.toNat <<< 8
    let offset : Int := (a >>> 3 : Nat) - 0x2000
    if offset = -0x2000 then
      return (none, cr)
    else if a &&& 7 ≠ 0 then
      return (some (offset, (a &&& 7) + 2), cr)
    else
      let (n, cr) ← cr.getU8
      return (some (offset, n.toNat + 1), cr)
  else
    let (second, cr) ← cr.read
    let (first, cr) ← cr.read
    let (v, cr) ← cr.getU8
    return (some ((v.toNat : Int) - 0x100, (second.toNat <<< 1 ||| first.toNat) + 2), cr)

/-- Copy `count` bytes within the output, one at a time. The result says
whether the limit stopped the copy. A limit of 0 is no limit. -/
def copyBytes (maxOutputSize : Nat) : Nat → Nat → List UInt8 → List UInt8 × Bool
  | 0, _, w => (w, false)
  | count + 1, readOffset, w =>
      if maxOutputSize ≠ 0 ∧ w.length = maxOutputSize then (w, true)
      else copyBytes maxOutputSize count (readOffset + 1) (w ++ w[readOffset]?.toList)

structure PRSDecompressResult where
  data : List UInt8
  inputBytesUsed : Nat
  deriving DecidableEq

structure DecompressState where
  w : List UInt8
  cr : ControlStreamReader
  deriving DecidableEq

def sizeExceeded : String := "maximum output size exceeded"

def offsetBeyondBeginning : String := "backreference offset beyond beginning of output"

def prsDecompressBody (maxOutputSize : Nat) (allowUnterminated : Bool) (s : DecompressState) :
    Step DecompressState (Except Exception PRSDecompressResult) :=
  Step.ofExcept do
    if s.cr.r.eof then
      return .done ⟨s.w, s.cr.r.offset⟩
    else
      let (literal, cr) ← s.cr.read
      if literal then
        if maxOutputSize ≠ 0 ∧ s.w.length = maxOutputSize then
          if allowUnterminated then
            return .done ⟨s.w, cr.r.offset⟩
          else
            throw (.runtimeError sizeExceeded)
        else
          let (v, cr) ← cr.getU8
          return .next ⟨s.w ++ [v], cr⟩
      else
        let (copy, cr) ← readCopy cr
        match copy with
        | none => return .done ⟨s.w, cr.r.offset⟩
        | some (offset, count) =>
            -- The source compares unsigned values, so that a negative position is too large.
            let readOffset : Int := s.w.length + offset
            if readOffset < 0 ∨ readOffset ≥ s.w.length then
              throw (.runtimeError offsetBeyondBeginning)
            else
              match copyBytes maxOutputSize count readOffset.toNat s.w with
              | (w, true) =>
                  if allowUnterminated then
                    return .done ⟨w, cr.r.offset⟩
                  else
                    throw (.outOfRange sizeExceeded)
              | (w, false) => return .next ⟨w, cr⟩

/-- Every pass but the last reads at least one byte. -/
def prsDecompressWithMeta (data : List UInt8) (maxOutputSize : Nat) (allowUnterminated : Bool) :
    Except Exception PRSDecompressResult :=
  (run (prsDecompressBody maxOutputSize allowUnterminated) (data.length + 1)
    ⟨[], .ofBytes data⟩).getD (.error .nonterminating)

def prsDecompress (data : List UInt8) (maxOutputSize : Nat) (allowUnterminated : Bool) :
    Except Exception (List UInt8) := do
  let ret ← prsDecompressWithMeta data maxOutputSize allowUnterminated
  return ret.data

structure SizeState where
  ret : Nat
  cr : ControlStreamReader
  deriving DecidableEq

/-- The test at the end of a pass of `prs_decompress_size`. -/
def checkSize (maxOutputSize : Nat) (allowUnterminated : Bool) (s : SizeState) :
    Except Exception (Step SizeState Nat) :=
  if maxOutputSize ≠ 0 ∧ s.ret > maxOutputSize then
    if allowUnterminated then
      return .done maxOutputSize
    else
      throw (.outOfRange sizeExceeded)
  else
    return .next s

def prsDecompressSizeBody (maxOutputSize : Nat) (allowUnterminated : Bool) (s : SizeState) :
    Step SizeState (Except Exception Nat) :=
  Step.ofExcept do
    if s.cr.r.eof then
      return .done s.ret
    else
      let (literal, cr) ← s.cr.read
      if literal then
        let (_, cr) ← cr.getU8
        checkSize maxOutputSize allowUnterminated ⟨s.ret + 1, cr⟩
      else
        let (copy, cr) ← readCopy cr
        match copy with
        | none => return .done s.ret
        | some (offset, count) =>
            let readOffset : Int := s.ret + offset
            if readOffset < 0 ∨ readOffset ≥ s.ret then
              throw (.runtimeError offsetBeyondBeginning)
            else
              checkSize maxOutputSize allowUnterminated ⟨s.ret + count, cr⟩

def prsDecompressSize (data : List UInt8) (maxOutputSize : Nat) (allowUnterminated : Bool) :
    Except Exception Nat :=
  (run (prsDecompressSizeBody maxOutputSize allowUnterminated) (data.length + 1)
    ⟨0, .ofBytes data⟩).getD (.error .nonterminating)

theorem readCopy_remaining {cr cr' : ControlStreamReader} {copy : Option (Int × Nat)}
    (h : readCopy cr = .ok (copy, cr')) :
    cr'.r.remaining.length + 1 ≤ cr.r.remaining.length := by
  simp only [readCopy, bind_eq_ok, Prod.exists] at h
  obtain ⟨long, cr₁, hlong, h⟩ := h
  have hlen := read_remaining hlong
  split at h
  · simp only [bind_eq_ok, Prod.exists] at h
    obtain ⟨low, cr₂, hlow, high, cr₃, hhigh, h⟩ := h
    have hlow := getU8_remaining hlow
    have hhigh := getU8_remaining hhigh
    split at h
    · cases h
      omega
    · split at h
      · cases h
        omega
      · simp only [bind_eq_ok, Prod.exists] at h
        obtain ⟨n, cr₄, hn, h⟩ := h
        have hn := getU8_remaining hn
        cases h
        omega
  · simp only [bind_eq_ok, Prod.exists] at h
    obtain ⟨second, cr₂, hsecond, first, cr₃, hfirst, v, cr₄, hv, h⟩ := h
    have hsecond := read_remaining hsecond
    have hfirst := read_remaining hfirst
    have hv := getU8_remaining hv
    cases h
    omega

theorem copyBytes_spec {maxOutputSize count readOffset : Nat} {w w' : List UInt8}
    {stopped : Bool} (hread : readOffset < w.length)
    (hlimit : maxOutputSize ≠ 0 → w.length ≤ maxOutputSize)
    (h : copyBytes maxOutputSize count readOffset w = (w', stopped)) :
    match stopped with
    | true => maxOutputSize ≠ 0 ∧ w'.length = maxOutputSize ∧
        maxOutputSize < w.length + count
    | false => w'.length = w.length + count ∧
        (maxOutputSize ≠ 0 → w'.length ≤ maxOutputSize) := by
  induction count generalizing readOffset w with
  | zero =>
      obtain ⟨rfl, rfl⟩ := Prod.mk.inj h
      exact ⟨rfl, hlimit⟩
  | succ count ih =>
      rw [copyBytes] at h
      split at h
      · rename_i hfull
        obtain ⟨rfl, rfl⟩ := Prod.mk.inj h
        exact ⟨hfull.1, hfull.2, by omega⟩
      · have hlen : (w ++ w[readOffset]?.toList).length = w.length + 1 := by
          simp [List.getElem?_eq_getElem hread]
        have hrec := ih (by omega) (by omega) h
        cases stopped with
        | true => exact ⟨hrec.1, hrec.2.1, by omega⟩
        | false => exact ⟨by omega, hrec.2⟩

/-- The two loops are at the same point of the stream, with the same output
size. -/
def SameProgress (maxOutputSize : Nat) (s : DecompressState) (t : SizeState) : Prop :=
  t.cr = s.cr ∧ t.ret = s.w.length ∧ (maxOutputSize ≠ 0 → s.w.length ≤ maxOutputSize)

/-- Both loops throw, or both return the same output size. -/
def SameSize : Except Exception PRSDecompressResult → Except Exception Nat → Prop
  | .ok result, .ok n => result.data.length = n
  | .error _, .error _ => True
  | _, _ => False

/-- The output may be cut off and is exactly full, and what is left of the
stream is one control byte that announces a literal. -/
def LiteralCutOff (maxOutputSize : Nat) (allowUnterminated : Bool) (s : DecompressState) :
    Prop :=
  allowUnterminated = true ∧ maxOutputSize ≠ 0 ∧ s.w.length = maxOutputSize ∧
    s.cr.bits &&& 0x0100 = 0 ∧
    ∃ v : UInt8, s.cr.r.remaining = [v] ∧ (0xFF00 ||| v.toNat) &&& 1 = 1

theorem literalCutOff_iff {cr : ControlStreamReader} (heof : cr.r.eof = false) :
    (cr.bits &&& 0x0100 = 0 ∧
        ∃ v : UInt8, cr.r.remaining = [v] ∧ (0xFF00 ||| v.toNat) &&& 1 = 1) ↔
      ∃ cr' e, cr.read = .ok (true, cr') ∧ cr'.getU8 = .error e := by
  obtain ⟨⟨_ | ⟨v, remaining⟩, offset⟩, bits⟩ := cr
  · cases heof
  · constructor
    · rintro ⟨hbits, u, hu, hodd⟩
      obtain ⟨rfl, rfl⟩ := List.cons.inj hu
      refine ⟨⟨⟨[], offset + 1⟩, (0xFF00 ||| v.toNat) >>> 1⟩, .outOfRange "end of string", ?_, rfl⟩
      simp only [ControlStreamReader.read, hbits, if_true]
      change Except.ok (((0xFF00 ||| v.toNat) &&& 1) == 1, _) = _
      rw [hodd]
      rfl
    · rintro ⟨cr', e, hread, hget⟩
      by_cases hbits : bits &&& 0x0100 = 0
      · simp only [ControlStreamReader.read, hbits, if_true] at hread
        obtain ⟨hodd, rfl⟩ := Prod.mk.inj (Except.ok.inj hread)
        rcases remaining with _ | ⟨u, remaining⟩
        · exact ⟨hbits, v, rfl, by simpa using hodd⟩
        · cases hget
      · simp only [ControlStreamReader.read, hbits, if_false] at hread
        obtain ⟨-, rfl⟩ := Prod.mk.inj (Except.ok.inj hread)
        cases hget

theorem checkSize_of_le {maxOutputSize : Nat} (allowUnterminated : Bool) {t : SizeState}
    (h : maxOutputSize ≠ 0 → t.ret ≤ maxOutputSize) :
    checkSize maxOutputSize allowUnterminated t = .ok (.next t) := by
  rw [checkSize, if_neg (by omega)]
  rfl

theorem checkSize_of_lt {maxOutputSize : Nat} (allowUnterminated : Bool) {t : SizeState}
    (hmax : maxOutputSize ≠ 0) (h : maxOutputSize < t.ret) :
    checkSize maxOutputSize allowUnterminated t =
      if allowUnterminated then .ok (.done maxOutputSize)
      else .error (.outOfRange sizeExceeded) := by
  rw [checkSize, if_pos ⟨hmax, h⟩]
  rfl

theorem lockstep {maxOutputSize : Nat} {allowUnterminated : Bool} {s : DecompressState}
    {t : SizeState} (hst : SameProgress maxOutputSize s t)
    (hgood : ¬LiteralCutOff maxOutputSize allowUnterminated s) :
    StepTogether (prsDecompressBody maxOutputSize allowUnterminated)
      (prsDecompressSizeBody maxOutputSize allowUnterminated)
      (SameProgress maxOutputSize) SameSize s t := by
  obtain ⟨ret, cr⟩ := t
  obtain ⟨rfl, rfl, hlimit⟩ := hst
  unfold StepTogether prsDecompressBody prsDecompressSizeBody
  cases heof : s.cr.r.eof with
  | true => exact .inr ⟨_, _, rfl, rfl, rfl⟩
  | false =>
    simp only [Bool.false_eq_true, if_false]
    cases hread : s.cr.read with
    | error e => exact .inr ⟨_, _, rfl, rfl, trivial⟩
    | ok p =>
      obtain ⟨literal, cr⟩ := p
      cases literal with
      | true =>
        simp only [ok_bind, if_true]
        by_cases hfull : maxOutputSize ≠ 0 ∧ s.w.length = maxOutputSize
        · simp only [hfull, and_self, if_true, ne_eq, not_false_eq_true]
          cases hget : cr.getU8 with
          | error e =>
            cases allowUnterminated with
            | true =>
              have hcut := (literalCutOff_iff heof).mpr ⟨cr, e, hread, hget⟩
              exact absurd ⟨rfl, hfull.1, hfull.2, hcut⟩ hgood
            | false => exact .inr ⟨_, _, rfl, rfl, trivial⟩
          | ok p =>
            obtain ⟨v, cr'⟩ := p
            simp only [ok_bind]
            rw [checkSize_of_lt _ hfull.1 (by simp only; omega)]
            cases allowUnterminated with
            | true => exact .inr ⟨_, _, rfl, rfl, hfull.2⟩
            | false => exact .inr ⟨_, _, rfl, rfl, trivial⟩
        · simp only [hfull, if_false]
          cases hget : cr.getU8 with
          | error e => exact .inr ⟨_, _, rfl, rfl, trivial⟩
          | ok p =>
            obtain ⟨v, cr'⟩ := p
            simp only [ok_bind]
            rw [checkSize_of_le _ (by simp only; omega)]
            refine .inl ⟨_, _, rfl, rfl, rfl, ?_, ?_⟩
            · simp
            · simp only [List.length_append, List.length_singleton]
              omega
      | false =>
        simp only [ok_bind, Bool.false_eq_true, if_false]
        cases hcopy : readCopy cr with
        | error e => exact .inr ⟨_, _, rfl, rfl, trivial⟩
        | ok p =>
          obtain ⟨copy, cr'⟩ := p
          cases copy with
          | none => exact .inr ⟨_, _, rfl, rfl, rfl⟩
          | some p =>
            obtain ⟨offset, count⟩ := p
            simp only [ok_bind]
            by_cases hoffset : (s.w.length : Int) + offset < 0 ∨
                (s.w.length : Int) + offset ≥ s.w.length
            · simp only [hoffset, if_true]
              exact .inr ⟨_, _, rfl, rfl, trivial⟩
            · simp only [hoffset, if_false]
              cases hw : copyBytes maxOutputSize count
                  ((s.w.length : Int) + offset).toNat s.w with
              | mk w stopped =>
                have hspec := copyBytes_spec (by omega) hlimit hw
                cases stopped with
                | true =>
                  obtain ⟨hmax, hlen, hlt⟩ := hspec
                  rw [checkSize_of_lt _ hmax hlt]
                  cases allowUnterminated with
                  | true => exact .inr ⟨_, _, rfl, rfl, hlen⟩
                  | false => exact .inr ⟨_, _, rfl, rfl, trivial⟩
                | false =>
                  obtain ⟨hlen, hle⟩ := hspec
                  rw [checkSize_of_le _ (by simp only; omega)]
                  exact .inl ⟨_, _, rfl, rfl, rfl, hlen.symm, hle⟩

/-- A pass that goes on has read a command that can be executed. -/
theorem prsDecompressBody_next {maxOutputSize : Nat} {allowUnterminated : Bool}
    {s s' : DecompressState}
    (h : prsDecompressBody maxOutputSize allowUnterminated s = .next s') :
    (∃ cr v, s.cr.read = .ok (true, cr) ∧ cr.getU8 = .ok (v, s'.cr) ∧ s'.w = s.w ++ [v]) ∨
      ∃ cr offset count, s.cr.read = .ok (false, cr) ∧
        readCopy cr = .ok (some (offset, count), s'.cr) ∧
        0 ≤ (s.w.length : Int) + offset ∧ offset < 0 ∧
        copyBytes maxOutputSize count ((s.w.length : Int) + offset).toNat s.w =
          (s'.w, false) := by
  rw [prsDecompressBody, ofExcept_eq_next_iff] at h
  split at h
  · cases h
  · simp only [bind_eq_ok, Prod.exists] at h
    obtain ⟨literal, cr, hread, h⟩ := h
    split at h
    · rename_i hliteral
      subst hliteral
      split at h
      · split at h <;> cases h
      · simp only [bind_eq_ok, Prod.exists] at h
        obtain ⟨v, cr', hv, h⟩ := h
        cases h
        exact .inl ⟨cr, v, hread, hv, rfl⟩
    · rename_i hliteral
      rw [Bool.not_eq_true] at hliteral
      subst hliteral
      simp only [bind_eq_ok, Prod.exists] at h
      obtain ⟨copy, cr', hcopy, h⟩ := h
      split at h
      · cases h
      · rename_i offset count
        split at h
        · cases h
        · rename_i hoffset
          split at h
          · split at h <;> cases h
          · rename_i w hw
            cases h
            exact .inr ⟨cr, offset, count, hread, hcopy, by omega, by omega, hw⟩

theorem prsDecompressBody_remaining {maxOutputSize : Nat} {allowUnterminated : Bool}
    {s s' : DecompressState}
    (h : prsDecompressBody maxOutputSize allowUnterminated s = .next s') :
    s'.cr.r.remaining.length < s.cr.r.remaining.length := by
  rcases prsDecompressBody_next h with ⟨cr, v, hread, hget, -⟩ | ⟨cr, _, _, hread, hcopy, -⟩
  · have hread := read_remaining hread
    have hget := getU8_remaining hget
    omega
  · have hread := read_remaining hread
    have hcopy := readCopy_remaining hcopy
    omega

theorem exists_run_prsDecompressBody (data : List UInt8) (maxOutputSize : Nat)
    (allowUnterminated : Bool) :
    ∃ r, run (prsDecompressBody maxOutputSize allowUnterminated) (data.length + 1)
      ⟨[], .ofBytes data⟩ = some r :=
  exists_run_eq_some (fun _ => True) (fun s => s.cr.r.remaining.length)
    (fun _ _ _ h => ⟨trivial, prsDecompressBody_remaining h⟩) trivial
    (Nat.lt_succ_self data.length)

/-- In a state where a literal is cut off at the limit, only one of the loops
looks at the byte that is not there. -/
theorem parts {maxOutputSize : Nat} {allowUnterminated : Bool} {s : DecompressState}
    {t : SizeState} (hst : SameProgress maxOutputSize s t)
    (hcut : LiteralCutOff maxOutputSize allowUnterminated s) :
    ∃ r r', prsDecompressBody maxOutputSize allowUnterminated s = .done r ∧
      prsDecompressSizeBody maxOutputSize allowUnterminated t = .done r' ∧ ¬SameSize r r' := by
  obtain ⟨ret, cr⟩ := t
  obtain ⟨rfl, rfl, hlimit⟩ := hst
  obtain ⟨rfl, hmax, hfull, hcut⟩ := hcut
  have heof : s.cr.r.eof = false := by
    obtain ⟨-, v, hv, -⟩ := hcut
    simp [StringReader.eof, hv]
  obtain ⟨cr, e, hread, hget⟩ := (literalCutOff_iff heof).mp hcut
  refine ⟨.ok ⟨s.w, cr.r.offset⟩, .error e, ?_, ?_, not_false⟩
  · simp [prsDecompressBody, heof, hread, hmax, hfull]
  · simp [prsDecompressSizeBody, heof, hread, hget]

theorem sameProgress_ofBytes (maxOutputSize : Nat) (data : List UInt8) :
    SameProgress maxOutputSize ⟨[], .ofBytes data⟩ ⟨0, .ofBytes data⟩ :=
  ⟨rfl, rfl, fun _ => Nat.zero_le _⟩

theorem checkSize_next {maxOutputSize : Nat} {allowUnterminated : Bool} {t t' : SizeState}
    (h : checkSize maxOutputSize allowUnterminated t = .ok (.next t')) : t' = t := by
  rw [checkSize] at h
  split at h
  · split at h <;> cases h
  · cases h
    rfl

theorem prsDecompressSizeBody_remaining {maxOutputSize : Nat} {allowUnterminated : Bool}
    {t t' : SizeState}
    (h : prsDecompressSizeBody maxOutputSize allowUnterminated t = .next t') :
    t'.cr.r.remaining.length < t.cr.r.remaining.length := by
  rw [prsDecompressSizeBody, ofExcept_eq_next_iff] at h
  split at h
  · cases h
  · simp only [bind_eq_ok, Prod.exists] at h
    obtain ⟨literal, cr, hread, h⟩ := h
    have hread := read_remaining hread
    split at h
    · simp only [bind_eq_ok, Prod.exists] at h
      obtain ⟨v, cr', hget, h⟩ := h
      have hget := getU8_remaining hget
      rw [checkSize_next h]
      simp only
      omega
    · simp only [bind_eq_ok, Prod.exists] at h
      obtain ⟨copy, cr', hcopy, h⟩ := h
      have hcopy := readCopy_remaining hcopy
      split at h
      · cases h
      · split at h
        · cases h
        · rw [checkSize_next h]
          simp only
          omega

theorem exists_run_prsDecompressSizeBody (data : List UInt8) (maxOutputSize : Nat)
    (allowUnterminated : Bool) :
    ∃ r, run (prsDecompressSizeBody maxOutputSize allowUnterminated) (data.length + 1)
      ⟨0, .ofBytes data⟩ = some r :=
  exists_run_eq_some (fun _ => True) (fun t => t.cr.r.remaining.length)
    (fun _ _ _ h => ⟨trivial, prsDecompressSizeBody_remaining h⟩) trivial
    (Nat.lt_succ_self data.length)

theorem sameSize_iff (r : Except Exception PRSDecompressResult) (r' : Except Exception Nat) :
    SameSize r r' ↔ ∀ n, r' = .ok n ↔ ∃ result, r = .ok result ∧ result.data.length = n := by
  rcases r with e | result <;> rcases r' with e' | n'
  · simp [SameSize]
  · simp [SameSize]
  · simp [SameSize]
  · simp only [SameSize, Except.ok.injEq, exists_eq_left']
    exact ⟨fun h n => by rw [h], fun h => (h n').mp rfl⟩

/-- The size is computed without decompressing, and agrees with decompressing,
unless the output is to be cut off at a limit that is reached just before a
control byte at the end of the data, which announces a literal. -/
theorem prsDecompressSize_agrees_iff (data : List UInt8) (maxOutputSize : Nat)
    (allowUnterminated : Bool) :
    (∀ n, prsDecompressSize data maxOutputSize allowUnterminated = .ok n ↔
      ∃ result, prsDecompressWithMeta data maxOutputSize allowUnterminated = .ok result ∧
        result.data.length = n) ↔
    ¬∃ s, Reaches (prsDecompressBody maxOutputSize allowUnterminated) ⟨[], .ofBytes data⟩ s ∧
      LiteralCutOff maxOutputSize allowUnterminated s := by
  obtain ⟨r, hr⟩ := exists_run_prsDecompressBody data maxOutputSize allowUnterminated
  obtain ⟨r', hr'⟩ := exists_run_prsDecompressSizeBody data maxOutputSize allowUnterminated
  have hstart := sameProgress_ofBytes maxOutputSize data
  simp only [prsDecompressSize, prsDecompressWithMeta, hr, hr', Option.getD_some]
  rw [← sameSize_iff]
  constructor
  · rintro hsame ⟨s, hreach, hcut⟩
    refine disagree_of_parts ?_ ?_ hstart hreach hcut hr hr' hsame
    · exact fun _ _ => lockstep
    · exact fun _ _ => parts
  · intro hnot
    refine agree_of_lockstep ?_ hstart (fun s hs hcut => hnot ⟨s, hs, hcut⟩) hr hr'
    exact fun _ _ => lockstep

/-- Eight literals, and then a control byte with nothing after it. -/
theorem prsDecompressSize_disagrees :
    ¬∀ n, prsDecompressSize [0xFF, 1, 2, 3, 4, 5, 6, 7, 8, 0x01] 8 true = .ok n ↔
      ∃ result, prsDecompressWithMeta [0xFF, 1, 2, 3, 4, 5, 6, 7, 8, 0x01] 8 true =
        .ok result ∧ result.data.length = n := by
  intro h
  have hsize : prsDecompressSize [0xFF, 1, 2, 3, 4, 5, 6, 7, 8, 0x01] 8 true =
      .error (.outOfRange "end of string") := by decide +kernel
  have hmeta : prsDecompressWithMeta [0xFF, 1, 2, 3, 4, 5, 6, 7, 8, 0x01] 8 true =
      .ok ⟨[1, 2, 3, 4, 5, 6, 7, 8], 10⟩ := by decide +kernel
  have hok := (h 8).mpr ⟨_, hmeta, rfl⟩
  rw [hsize] at hok
  cases hok

end HuntersGuild.PrsDecompression
