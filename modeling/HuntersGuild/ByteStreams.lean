import Mathlib.Data.Nat.Bitwise
import Mathlib.Tactic.Ring
import HuntersGuild.ExceptionRules
import HuntersGuild.InterleavedStream

/-!
The byte readers and writers under the compressors: `phosg::StringReader`,
`ControlStreamReader` and `LZSSInterleavedWriter`.
-/

namespace HuntersGuild.ByteStreams

open HuntersGuild.ExceptionRules
open HuntersGuild.InterleavedStream

/-- How a call can fail. The last two are not C++ exceptions: `undefined` is
undefined behaviour, and `nonterminating` is a loop that does not end. -/
inductive Exception where
  | runtimeError (what : String)
  | logicError (what : String)
  | outOfRange (what : String)
  | invalidArgument (what : String)
  | undefined
  | nonterminating
  deriving DecidableEq

/-- `phosg::StringReader`: the bytes not yet read, and `where()`. -/
structure StringReader where
  remaining : List UInt8
  offset : Nat
  deriving DecidableEq

def StringReader.ofBytes (data : List UInt8) : StringReader :=
  ⟨data, 0⟩

def StringReader.eof (r : StringReader) : Bool :=
  r.remaining.isEmpty

/-- Reading past the end throws `out_of_range`. -/
def StringReader.getU8 : StringReader → Except Exception (UInt8 × StringReader)
  | ⟨[], _⟩ => .error (.outOfRange "end of string")
  | ⟨v :: remaining, offset⟩ => .ok (v, ⟨remaining, offset + 1⟩)

/-- A control stream reader together with the string reader it refers to. -/
structure ControlStreamReader where
  r : StringReader
  bits : Nat
  deriving DecidableEq

def ControlStreamReader.ofBytes (data : List UInt8) : ControlStreamReader :=
  ⟨.ofBytes data, 0x0000⟩

def ControlStreamReader.getU8 (cr : ControlStreamReader) :
    Except Exception (UInt8 × ControlStreamReader) := do
  let (v, r) ← cr.r.getU8
  return (v, { cr with r })

def ControlStreamReader.read (cr : ControlStreamReader) :
    Except Exception (Bool × ControlStreamReader) := do
  let cr ←
    if cr.bits &&& 0x0100 = 0 then do
      let (v, cr) ← cr.getU8
      pure { cr with bits := 0xFF00 ||| v.toNat }
    else pure cr
  return (cr.bits &&& 1 == 1, { cr with bits := cr.bits >>> 1 })

/-- The bits of a control byte in the order in which they are used. -/
def bitsOfByte (v : UInt8) : List Bool :=
  (List.range 8).map v.toNat.testBit

@[simp] theorem bitsOfByte_length (v : UInt8) : (bitsOfByte v).length = 8 := by
  simp [bitsOfByte]

/-- The `bits` field buffers these unused control bits: the high byte marks
which low bits are valid. -/
def Buffers (bits : Nat) (pending : List Bool) : Prop :=
  (pending = [] ∧ bits &&& 0x0100 = 0) ∨
    ∃ v : UInt8, ∃ used < 8, bits = (0xFF00 ||| v.toNat) >>> used ∧
      pending = (bitsOfByte v).drop used

/-- The abstract source that a control stream reader reads from. -/
def Represents (cr : ControlStreamReader) (src : Source UInt8) : Prop :=
  Buffers cr.bits src.pending ∧ cr.r.remaining = src.input

theorem represents_ofBytes (data : List UInt8) :
    Represents (.ofBytes data) ⟨[], data⟩ :=
  ⟨.inl ⟨rfl, Nat.zero_and 0x0100⟩, rfl⟩

theorem marked_testBit (n : Nat) (used : Nat) (hn : n < 256) (hused : used < 8) :
    ((0xFF00 ||| n) >>> used) &&& 0x0100 ≠ 0 ∧
      (((0xFF00 ||| n) >>> used) &&& 1 == 1) = n.testBit used := by
  have hall : ∀ used < 8, ∀ n < 256, ((0xFF00 ||| n) >>> used) &&& 0x0100 ≠ 0 ∧
      (((0xFF00 ||| n) >>> used) &&& 1 == 1) = n.testBit used := by
    decide +kernel
  exact hall used hused n hn

theorem buffers_shift (v : UInt8) {used : Nat} (hused : used < 8) :
    Buffers (((0xFF00 ||| v.toNat) >>> used) >>> 1) ((bitsOfByte v).drop (used + 1)) := by
  rw [← Nat.shiftRight_add]
  by_cases h : used + 1 < 8
  · exact .inr ⟨v, used + 1, h, rfl, rfl⟩
  · obtain rfl : used = 7 := by omega
    refine .inl ⟨by simp [bitsOfByte], ?_⟩
    have hall : ∀ n < 256, ((0xFF00 ||| n) >>> (7 + 1)) &&& 0x0100 = 0 := by
      decide +kernel
    exact hall v.toNat v.toNat_lt

theorem drop_bitsOfByte (v : UInt8) {used : Nat} (hused : used < 8) :
    (bitsOfByte v).drop used = v.toNat.testBit used :: (bitsOfByte v).drop (used + 1) := by
  rw [List.drop_eq_getElem_cons (by simpa using hused)]
  simp [bitsOfByte]

theorem readControl_reload (v : UInt8) (input : List UInt8) :
    (⟨[], v :: input⟩ : Source UInt8).readControl bitsOfByte =
      some (v.toNat.testBit 0, ⟨(bitsOfByte v).drop 1, input⟩) := by
  have hcons := drop_bitsOfByte v (show 0 < 8 by omega)
  simp only [List.drop_zero] at hcons
  simp only [Source.readControl]
  rw [hcons]
  rfl

theorem getU8_represents {cr : ControlStreamReader} {src : Source UInt8}
    (h : Represents cr src) :
    match src.readData with
    | some (v, src') => ∃ cr', cr.getU8 = .ok (v, cr') ∧ Represents cr' src'
    | none => ∃ e, cr.getU8 = .error e := by
  obtain ⟨⟨remaining, offset⟩, bits⟩ := cr
  obtain ⟨pending, input⟩ := src
  obtain ⟨hbits, rfl⟩ := h
  rcases remaining with _ | ⟨v, remaining⟩
  · exact ⟨_, rfl⟩
  · exact ⟨⟨⟨remaining, offset + 1⟩, bits⟩, rfl, hbits, rfl⟩

theorem read_represents {cr : ControlStreamReader} {src : Source UInt8}
    (h : Represents cr src) :
    match src.readControl bitsOfByte with
    | some (bit, src') => ∃ cr', cr.read = .ok (bit, cr') ∧ Represents cr' src'
    | none => ∃ e, cr.read = .error e := by
  obtain ⟨⟨remaining, offset⟩, bits⟩ := cr
  obtain ⟨pending, input⟩ := src
  obtain ⟨hbits, rfl⟩ := h
  rcases hbits with ⟨hpending, hempty⟩ | ⟨v, used, hused, hv, hpending⟩
  · obtain rfl : pending = [] := hpending
    rcases remaining with _ | ⟨v, remaining⟩
    · simp only [Source.readControl, ControlStreamReader.read, hempty, if_true]
      exact ⟨_, rfl⟩
    · obtain ⟨hmark, hbit⟩ := marked_testBit v.toNat 0 v.toNat_lt (by omega)
      simp only [readControl_reload]
      refine ⟨⟨⟨remaining, offset + 1⟩, (0xFF00 ||| v.toNat) >>> 1⟩, ?_, ?_, rfl⟩
      · simp only [ControlStreamReader.read, hempty, if_true]
        rw [← hbit]
        rfl
      · exact buffers_shift v (by omega : 0 < 8)
  · obtain rfl : bits = (0xFF00 ||| v.toNat) >>> used := hv
    obtain rfl : pending = (bitsOfByte v).drop used := hpending
    obtain ⟨hmark, hbit⟩ := marked_testBit v.toNat used v.toNat_lt hused
    simp only [drop_bitsOfByte v hused, Source.readControl]
    refine ⟨⟨⟨remaining, offset⟩, ((0xFF00 ||| v.toNat) >>> used) >>> 1⟩, ?_, ?_, rfl⟩
    · simp only [ControlStreamReader.read, hmark, if_false]
      rw [← hbit]
      rfl
    · exact buffers_shift v hused

/-- The next four results pass between a control stream reader and its source. -/
theorem read_of_reads {cr : ControlStreamReader} {src t : Source UInt8} {bit : Bool}
    {items : List (Item UInt8)} (hcr : Represents cr src)
    (h : Reads bitsOfByte src (.control bit :: items) t) :
    ∃ cr' src', cr.read = .ok (bit, cr') ∧ Represents cr' src' ∧
      Reads bitsOfByte src' items t := by
  cases h with
  | control head tail =>
      have hread := read_represents hcr
      rw [head] at hread
      obtain ⟨cr', hok, hcr'⟩ := hread
      exact ⟨cr', _, hok, hcr', tail⟩

theorem getU8_of_reads {cr : ControlStreamReader} {src t : Source UInt8} {v : UInt8}
    {items : List (Item UInt8)} (hcr : Represents cr src)
    (h : Reads bitsOfByte src (.data v :: items) t) :
    ∃ cr' src', cr.getU8 = .ok (v, cr') ∧ Represents cr' src' ∧
      Reads bitsOfByte src' items t := by
  cases h with
  | data head tail =>
      have hread := getU8_represents hcr
      rw [head] at hread
      obtain ⟨cr', hok, hcr'⟩ := hread
      exact ⟨cr', _, hok, hcr', tail⟩

theorem reads_of_read {cr cr' : ControlStreamReader} {src : Source UInt8} {bit : Bool}
    (hcr : Represents cr src) (h : cr.read = .ok (bit, cr')) :
    ∃ src', Represents cr' src' ∧ Reads bitsOfByte src [.control bit] src' := by
  have hread := read_represents hcr
  cases hsrc : src.readControl bitsOfByte with
  | none =>
      rw [hsrc] at hread
      obtain ⟨e, he⟩ := hread
      rw [he] at h
      cases h
  | some p =>
      obtain ⟨bit', src'⟩ := p
      rw [hsrc] at hread
      obtain ⟨cr'', hok, hcr'⟩ := hread
      obtain ⟨rfl, rfl⟩ := Prod.mk.inj (Except.ok.inj (hok.symm.trans h))
      exact ⟨src', hcr', .control hsrc (.nil _)⟩

theorem reads_of_getU8 {cr cr' : ControlStreamReader} {src : Source UInt8} {v : UInt8}
    (hcr : Represents cr src) (h : cr.getU8 = .ok (v, cr')) :
    ∃ src', Represents cr' src' ∧ Reads bitsOfByte src [.data v] src' := by
  have hread := getU8_represents hcr
  cases hsrc : src.readData with
  | none =>
      rw [hsrc] at hread
      obtain ⟨e, he⟩ := hread
      rw [he] at h
      cases h
  | some p =>
      obtain ⟨v', src'⟩ := p
      rw [hsrc] at hread
      obtain ⟨cr'', hok, hcr'⟩ := hread
      obtain ⟨rfl, rfl⟩ := Prod.mk.inj (Except.ok.inj (hok.symm.trans h))
      exact ⟨src', hcr', .data hsrc (.nil _)⟩

theorem read_remaining {cr cr' : ControlStreamReader} {bit : Bool}
    (h : cr.read = .ok (bit, cr')) :
    cr'.r.remaining.length ≤ cr.r.remaining.length := by
  obtain ⟨⟨remaining, offset⟩, bits⟩ := cr
  simp only [ControlStreamReader.read] at h
  split at h
  · rcases remaining with _ | ⟨v, remaining⟩
    · cases h
    · obtain ⟨-, rfl⟩ := Prod.mk.inj (Except.ok.inj h)
      simp
  · obtain ⟨-, rfl⟩ := Prod.mk.inj (Except.ok.inj h)
    exact le_rfl

theorem StringReader.getU8_remaining {r r' : StringReader} {v : UInt8}
    (h : r.getU8 = .ok (v, r')) : r'.remaining.length + 1 = r.remaining.length := by
  obtain ⟨_ | ⟨v', remaining⟩, offset⟩ := r
  · cases h
  · obtain ⟨-, rfl⟩ := Prod.mk.inj (Except.ok.inj h)
    rfl

theorem eof_of_reads {cr : ControlStreamReader} {src t : Source UInt8}
    {items : List (Item UInt8)} (hcr : Represents cr src) (h : Reads bitsOfByte src items t)
    (hdata : 0 < dataCount items) : cr.r.eof = false := by
  obtain ⟨loads, hlen, -⟩ := h.length_eq bitsOfByte_length
  obtain ⟨-, hinput⟩ := hcr
  cases hremaining : cr.r.remaining with
  | nil => simp [← hinput, hremaining] at hlen; omega
  | cons v remaining => simp [StringReader.eof, hremaining]

theorem getU8_eq_ok_iff {cr cr' : ControlStreamReader} {v : UInt8} :
    cr.getU8 = .ok (v, cr') ↔ cr.r.getU8 = .ok (v, cr'.r) ∧ cr'.bits = cr.bits := by
  obtain ⟨⟨_ | ⟨u, remaining⟩, offset⟩, bits⟩ := cr
  · exact ⟨fun h => (nomatch h), fun h => (nomatch h.1)⟩
  · obtain ⟨r, bits'⟩ := cr'
    constructor
    · intro h
      obtain ⟨rfl, hcr⟩ := Prod.mk.inj (Except.ok.inj h)
      obtain ⟨rfl, rfl⟩ := ControlStreamReader.mk.inj hcr
      exact ⟨rfl, rfl⟩
    · rintro ⟨h, rfl⟩
      obtain ⟨rfl, rfl⟩ := Prod.mk.inj (Except.ok.inj h)
      rfl

theorem getU8_remaining {cr cr' : ControlStreamReader} {v : UInt8}
    (h : cr.getU8 = .ok (v, cr')) : cr'.r.remaining.length + 1 = cr.r.remaining.length :=
  StringReader.getU8_remaining (getU8_eq_ok_iff.mp h).1

theorem two_bytes_or {low high : Nat} (hlow : low < 0x100) :
    low ||| high <<< 8 = high * 0x100 + low := by
  rw [Nat.or_comm, ← Nat.shiftLeft_add_eq_or_of_lt (i := 8) (by omega), Nat.shiftLeft_eq]

/-- The number whose binary digits, least significant first, are `bits`. -/
def bitsValue : List Bool → Nat
  | [] => 0
  | bit :: bits => bit.toNat + 2 * bitsValue bits

theorem bitsValue_lt (bits : List Bool) : bitsValue bits < 2 ^ bits.length := by
  induction bits with
  | nil => simp [bitsValue]
  | cons bit bits ih =>
      have hbit : bit.toNat ≤ 1 := bit.toNat_le
      simp only [bitsValue, List.length_cons, pow_succ]
      omega

theorem bitsValue_concat (bits : List Bool) (bit : Bool) :
    bitsValue (bits ++ [bit]) = bitsValue bits + bit.toNat * 2 ^ bits.length := by
  induction bits with
  | nil => simp [bitsValue]
  | cons b bits ih =>
      simp only [List.cons_append, bitsValue, ih, List.length_cons, pow_succ]
      ring

theorem bitsValue_testBit (bits : List Bool) (i : Nat) :
    (bitsValue bits).testBit i = bits.getD i false := by
  induction bits generalizing i with
  | nil => simp [bitsValue]
  | cons bit bits ih =>
      cases i with
      | zero => cases bit <;> simp [bitsValue, Nat.testBit_zero, Nat.add_mod]
      | succ i =>
          have hhalf : (bit.toNat + 2 * bitsValue bits) / 2 = bitsValue bits := by
            have hbit : bit.toNat ≤ 1 := bit.toNat_le
            omega
          rw [bitsValue, Nat.testBit_succ, hhalf, ih]
          simp

/-- The control byte that holds these bits. -/
def controlByte (bits : List Bool) : UInt8 :=
  UInt8.ofNat (bitsValue bits)

theorem controlByte_toNat {bits : List Bool} (hlen : bits.length ≤ 8) :
    (controlByte bits).toNat = bitsValue bits := by
  have hlt := bitsValue_lt bits
  have hle : 2 ^ bits.length ≤ 2 ^ 8 := Nat.pow_le_pow_right (by omega) hlen
  simp only [controlByte, UInt8.toNat_ofNat']
  exact Nat.mod_eq_of_lt (by omega)

theorem isPrefix_bitsOfByte {bits : List Bool} (hlen : bits.length ≤ 8) :
    bits <+: bitsOfByte (controlByte bits) := by
  rw [List.prefix_iff_getElem?]
  intro i hi
  have hi8 : i < 8 := by omega
  simp [bitsOfByte, hi8, controlByte_toNat hlen, bitsValue_testBit, hi]

theorem bitsOfByte_controlByte {bits : List Bool} (hlen : bits.length = 8) :
    bitsOfByte (controlByte bits) = bits :=
  ((isPrefix_bitsOfByte (by omega)).eq_of_length (by simp [hlen])).symm

/-- `LZSSInterleavedWriter`; `buf` is the used part of the source's buffer. -/
structure LZSSInterleavedWriter where
  w : List UInt8
  buf : List UInt8
  nextControlBit : UInt8
  deriving DecidableEq

namespace LZSSInterleavedWriter

def new : LZSSInterleavedWriter :=
  ⟨[], [0], 1⟩

def flushIfReady (self : LZSSInterleavedWriter) : LZSSInterleavedWriter :=
  if self.nextControlBit = 0 then ⟨self.w ++ self.buf, [0], 1⟩ else self

def close (self : LZSSInterleavedWriter) : List UInt8 :=
  if self.buf.length > 1 ∨ self.nextControlBit ≠ 1 then self.w ++ self.buf else self.w

def writeControl (self : LZSSInterleavedWriter) (v : Bool) :
    Except Exception LZSSInterleavedWriter :=
  if self.nextControlBit = 0 then
    .error (.logicError "write_control called with no space to write")
  else
    .ok { self with
      buf := if v then self.buf.modify 0 (· ||| self.nextControlBit) else self.buf
      nextControlBit := self.nextControlBit <<< 1 }

/-- The buffer has room for 0x19 bytes. -/
def writeData (self : LZSSInterleavedWriter) (v : UInt8) :
    Except Exception LZSSInterleavedWriter :=
  if self.buf.length < 0x19 then .ok { self with buf := self.buf ++ [v] }
  else .error .undefined

/-- The writer has been given exactly these items. In a group with `k` control
bits at most `3 * k - room` data bytes are buffered. -/
inductive Emits : LZSSInterleavedWriter → List (Item UInt8) → Nat → Prop where
  | closed {w : List UInt8} {items : List (Item UInt8)}
      (written : Closed bitsOfByte w items) : Emits ⟨w, [0], 1⟩ items 0
  | opened {w : List UInt8} {bits : List Bool} {group : List UInt8}
      {items : List (Item UInt8)} {room : Nat} (hne : bits ≠ []) (hlen : bits.length ≤ 8)
      (hroom : group.length + room ≤ 3 * bits.length)
      (written : Open bitsOfByte w bits group items) :
      Emits ⟨w, controlByte bits :: group, UInt8.ofNat (2 ^ bits.length)⟩ items room

/-- As `Emits`, with space for the next control bit. -/
def Ready (self : LZSSInterleavedWriter) (items : List (Item UInt8)) : Prop :=
  self.Emits items 0 ∧ self.nextControlBit ≠ 0

theorem new_ready : new.Ready [] :=
  ⟨.closed closed_nil, by decide⟩

theorem nextControlBit_shift {n : Nat} (hn : n < 8) :
    UInt8.ofNat (2 ^ n) ≠ 0 ∧ UInt8.ofNat (2 ^ n) <<< 1 = UInt8.ofNat (2 ^ (n + 1)) := by
  have hall : ∀ n < 8, UInt8.ofNat (2 ^ n) ≠ 0 ∧
      UInt8.ofNat (2 ^ n) <<< 1 = UInt8.ofNat (2 ^ (n + 1)) := by decide
  exact hall n hn

theorem controlByte_concat {bits : List Bool} (hlen : bits.length < 8) (bit : Bool) :
    controlByte (bits ++ [bit]) =
      if bit then controlByte bits ||| UInt8.ofNat (2 ^ bits.length) else controlByte bits := by
  have hor : ∀ n < 8, ∀ v < 2 ^ n,
      UInt8.ofNat v ||| UInt8.ofNat (2 ^ n) = UInt8.ofNat (v + 2 ^ n) := by
    decide +kernel
  cases bit with
  | false => simp [controlByte, bitsValue_concat]
  | true =>
      simp only [controlByte, bitsValue_concat, if_true]
      rw [hor bits.length hlen _ (bitsValue_lt bits)]
      simp

theorem Ready.writeControl {self : LZSSInterleavedWriter} {items : List (Item UInt8)}
    (h : self.Ready items) (bit : Bool) :
    ∃ self', self.writeControl bit = .ok self' ∧
      self'.Emits (items ++ [.control bit]) 3 := by
  obtain ⟨hemits, hnext⟩ := h
  cases hemits with
  | closed written =>
      refine ⟨_, by simp [LZSSInterleavedWriter.writeControl]; rfl, ?_⟩
      have hroom : ([] : List UInt8).length + 3 ≤ 3 * [bit].length := by simp
      convert Emits.opened (List.cons_ne_nil bit []) (by simp) hroom
        (written.control bit) using 2
      · cases bit <;> rfl
      · rfl
  | @opened w bits group items room hne hlen hroom written =>
      have hlt : bits.length < 8 := by
        by_contra hge
        obtain hfull : bits.length = 8 := by omega
        exact hnext (by simp [hfull])
      obtain ⟨hzero, hshift⟩ := nextControlBit_shift hlt
      refine ⟨_, by simp [LZSSInterleavedWriter.writeControl, hzero]; rfl, ?_⟩
      have hlen' : (bits ++ [bit]).length = bits.length + 1 := by simp
      have hroom' : group.length + 3 ≤ 3 * (bits ++ [bit]).length := by omega
      convert Emits.opened (List.append_ne_nil_of_right_ne_nil bits (List.cons_ne_nil bit []))
        (by omega) hroom' (written.control bit) using 2
      · rw [controlByte_concat hlt]
        cases bit <;> simp
      · rw [hshift, hlen']

theorem Emits.writeData {self : LZSSInterleavedWriter} {items : List (Item UInt8)}
    {room : Nat} (h : self.Emits items (room + 1)) (v : UInt8) :
    ∃ self', self.writeData v = .ok self' ∧ self'.Emits (items ++ [.data v]) room := by
  cases h with
  | @opened w bits group items room hne hlen hroom written =>
      have hspace : (controlByte bits :: group).length < 0x19 := by
        rw [List.length_cons]
        omega
      refine ⟨_, by simp only [LZSSInterleavedWriter.writeData, hspace, if_true]; rfl, ?_⟩
      rw [List.cons_append]
      refine .opened hne hlen ?_ (written.data v)
      simp only [List.length_append, List.length_singleton]
      omega

theorem Emits.weaken {self : LZSSInterleavedWriter} {items : List (Item UInt8)} {room : Nat}
    (h : self.Emits items room) : self.Emits items 0 := by
  cases h with
  | closed written => exact .closed written
  | opened hne hlen hroom written => exact .opened hne hlen (by omega) written

theorem Emits.flushIfReady {self : LZSSInterleavedWriter} {items : List (Item UInt8)}
    {room : Nat} (h : self.Emits items room) : self.flushIfReady.Ready items := by
  cases h with
  | closed written => exact ⟨.closed written, show (1 : UInt8) ≠ 0 by decide⟩
  | @opened w bits group items room hne hlen hroom written =>
      by_cases hfull : bits.length = 8
      · have hzero : UInt8.ofNat (2 ^ bits.length) = 0 := by rw [hfull]; rfl
        simp only [LZSSInterleavedWriter.flushIfReady, hzero, if_true]
        exact ⟨.closed (written.close (bitsOfByte_controlByte hfull)), show (1 : UInt8) ≠ 0 by decide⟩
      · obtain ⟨hzero, -⟩ := nextControlBit_shift (show bits.length < 8 by omega)
        simp only [LZSSInterleavedWriter.flushIfReady, hzero, if_false]
        exact ⟨.opened hne hlen (by omega) written, hzero⟩

/-- A reader of the closed output gets exactly the items written. -/
theorem Emits.close_reads {self : LZSSInterleavedWriter} {items : List (Item UInt8)}
    {room : Nat} (h : self.Emits items room) :
    ∃ pending, Reads bitsOfByte ⟨[], self.close⟩ items ⟨pending, []⟩ := by
  cases h with
  | closed written =>
      refine ⟨[], ?_⟩
      simpa [LZSSInterleavedWriter.close] using written []
  | @opened w bits group items room hne hlen hroom written =>
      have hread := written (controlByte bits) [] (isPrefix_bitsOfByte hlen)
      refine ⟨(bitsOfByte (controlByte bits)).drop bits.length, ?_⟩
      have hopen : UInt8.ofNat (2 ^ bits.length) ≠ 1 := by
        have hall : ∀ n ≤ 8, n ≠ 0 → UInt8.ofNat (2 ^ n) ≠ 1 := by decide
        exact hall _ hlen (by simpa using hne)
      simpa [LZSSInterleavedWriter.close, hopen] using hread

end LZSSInterleavedWriter

/-- An operation that succeeds and writes these items. -/
def Writes (op : LZSSInterleavedWriter → Except Exception LZSSInterleavedWriter)
    (items : List (Item UInt8)) : Prop :=
  ∀ w before, w.Ready before → ∃ w', op w = .ok w' ∧ w'.Emits (before ++ items) 0

end HuntersGuild.ByteStreams
