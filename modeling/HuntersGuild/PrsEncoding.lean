import HuntersGuild.WindowSearch
import HuntersGuild.PrsDecoding

/-!
How the encoders write single PRS commands, and what has to hold of the
commands written so far for the decoder to recover the input.
-/

namespace HuntersGuild.PrsEncoding

open HuntersGuild.ExceptionRules
open HuntersGuild.InterleavedStream
open HuntersGuild.ByteStreams
open HuntersGuild.WindowSearch
open HuntersGuild.PrsCommands
open HuntersGuild.PrsDecompression
open HuntersGuild.PrsDecoding

/-- `(offset << 3) | size_field` as an `uint16_t`. -/
def encodeOffset (offset : Int) (sizeField : Nat) : Nat :=
  ((offset * 8) % 0x10000).toNat ||| sizeField

def writeLiteral (w : LZSSInterleavedWriter) (v : UInt8) :
    Except Exception LZSSInterleavedWriter := do
  let w ← w.writeControl true
  w.writeData v

def writeShortCopy (w : LZSSInterleavedWriter) (offset : Int) (size : Nat) :
    Except Exception LZSSInterleavedWriter := do
  let encodedSize := size - 2
  let w ← w.writeControl false
  let w := w.flushIfReady
  let w ← w.writeControl false
  let w := w.flushIfReady
  let w ← w.writeControl (encodedSize &&& 2 != 0)
  let w := w.flushIfReady
  let w ← w.writeControl (encodedSize &&& 1 != 0)
  w.writeData (UInt8.ofNat (offset % 0x100).toNat)

def writeLongCopy (w : LZSSInterleavedWriter) (offset : Int) (size : Nat) :
    Except Exception LZSSInterleavedWriter := do
  let w ← w.writeControl false
  let w := w.flushIfReady
  let w ← w.writeControl true
  let a := encodeOffset offset (size - 2)
  let w ← w.writeData (UInt8.ofNat (a % 0x100))
  w.writeData (UInt8.ofNat (a / 0x100))

def writeExtendedCopy (w : LZSSInterleavedWriter) (offset : Int) (size : Nat) :
    Except Exception LZSSInterleavedWriter := do
  let w ← w.writeControl false
  let w := w.flushIfReady
  let w ← w.writeControl true
  let a := encodeOffset offset 0
  let w ← w.writeData (UInt8.ofNat (a % 0x100))
  let w ← w.writeData (UInt8.ofNat (a / 0x100))
  w.writeData (UInt8.ofNat (size - 1))

def writeStop (w : LZSSInterleavedWriter) : Except Exception LZSSInterleavedWriter := do
  let w ← w.writeControl false
  let w := w.flushIfReady
  let w ← w.writeControl true
  let w ← w.writeData 0
  w.writeData 0

theorem writes_literal (v : UInt8) : Writes (writeLiteral · v) (Command.literal v).items := by
  intro w before hw
  obtain ⟨w₁, h₁, hw₁⟩ := hw.writeControl true
  obtain ⟨w₂, h₂, hw₂⟩ := hw₁.writeData v
  refine ⟨w₂, by simp [writeLiteral, h₁, h₂], ?_⟩
  simpa [Command.items] using hw₂.weaken

theorem encodeOffset_eq {distance sizeField : Nat}
    (hdistance : 1 ≤ distance ∧ distance ≤ 0x1FFF) (hsize : sizeField < 8) :
    encodeOffset (-(distance : Int)) sizeField = (0x2000 - distance) * 8 + sizeField := by
  have hhigh : ((-(distance : Int) * 8) % 0x10000).toNat = (0x2000 - distance) <<< 3 := by
    rw [Nat.shiftLeft_eq]
    omega
  rw [encodeOffset, hhigh, ← Nat.shiftLeft_add_eq_or_of_lt (i := 3) (by omega), Nat.shiftLeft_eq]

theorem writes_shortCopy {distance count : Nat} (hdistance : 1 ≤ distance ∧ distance ≤ 0x100)
    (hcount : 2 ≤ count ∧ count ≤ 5) :
    Writes (writeShortCopy · (-(distance : Int)) count)
      (Command.shortCopy distance count hdistance hcount).items := by
  intro w before hw
  have hbits : ∀ size ≤ 5, ((size - 2) &&& 2 != 0) = (size - 2).testBit 1 ∧
      ((size - 2) &&& 1 != 0) = (size - 2).testBit 0 := by decide
  obtain ⟨hsecond, hfirst⟩ := hbits count hcount.2
  have hoffset : (-(distance : Int) % 0x100).toNat = (0x100 - distance) % 0x100 := by omega
  have hbyte : UInt8.ofNat ((0x100 - distance) % 0x100) = UInt8.ofNat (0x100 - distance) := by
    rw [← UInt8.toNat_inj, UInt8.toNat_ofNat', UInt8.toNat_ofNat']
    omega
  obtain ⟨w₁, h₁, hw₁⟩ := hw.writeControl false
  obtain ⟨w₂, h₂, hw₂⟩ := hw₁.flushIfReady.writeControl false
  obtain ⟨w₃, h₃, hw₃⟩ := hw₂.flushIfReady.writeControl ((count - 2).testBit 1)
  obtain ⟨w₄, h₄, hw₄⟩ := hw₃.flushIfReady.writeControl ((count - 2).testBit 0)
  obtain ⟨w₅, h₅, hw₅⟩ := hw₄.writeData (UInt8.ofNat (0x100 - distance))
  refine ⟨w₅, ?_, ?_⟩
  · simp only [writeShortCopy, h₁, h₂, ok_bind, hsecond, hfirst, hoffset, hbyte, h₃, h₄, h₅]
  · simpa [Command.items] using hw₅.weaken

theorem writes_longCopy {distance count : Nat} (hdistance : 1 ≤ distance ∧ distance ≤ 0x1FFF)
    (hcount : 3 ≤ count ∧ count ≤ 9) :
    Writes (writeLongCopy · (-(distance : Int)) count)
      (Command.longCopy distance count hdistance hcount).items := by
  intro w before hw
  have hoffset := encodeOffset_eq hdistance (show count - 2 < 8 by omega)
  obtain ⟨w₁, h₁, hw₁⟩ := hw.writeControl false
  obtain ⟨w₂, h₂, hw₂⟩ := hw₁.flushIfReady.writeControl true
  obtain ⟨w₃, h₃, hw₃⟩ := hw₂.writeData
    (UInt8.ofNat (((0x2000 - distance) * 8 + (count - 2)) % 0x100))
  obtain ⟨w₄, h₄, hw₄⟩ := hw₃.writeData
    (UInt8.ofNat (((0x2000 - distance) * 8 + (count - 2)) / 0x100))
  refine ⟨w₄, ?_, ?_⟩
  · simp only [writeLongCopy, h₁, h₂, ok_bind, hoffset, h₃, h₄]
  · simpa [Command.items, offsetItems] using hw₄.weaken

theorem writes_extendedCopy {distance count : Nat}
    (hdistance : 1 ≤ distance ∧ distance ≤ 0x1FFF) (hcount : 1 ≤ count ∧ count ≤ 0x100) :
    Writes (writeExtendedCopy · (-(distance : Int)) count)
      (Command.extendedCopy distance count hdistance hcount).items := by
  intro w before hw
  have hoffset := encodeOffset_eq hdistance (show 0 < 8 by omega)
  obtain ⟨w₁, h₁, hw₁⟩ := hw.writeControl false
  obtain ⟨w₂, h₂, hw₂⟩ := hw₁.flushIfReady.writeControl true
  obtain ⟨w₃, h₃, hw₃⟩ := hw₂.writeData (UInt8.ofNat (((0x2000 - distance) * 8 + 0) % 0x100))
  obtain ⟨w₄, h₄, hw₄⟩ := hw₃.writeData (UInt8.ofNat (((0x2000 - distance) * 8 + 0) / 0x100))
  obtain ⟨w₅, h₅, hw₅⟩ := hw₄.writeData (UInt8.ofNat (count - 1))
  refine ⟨w₅, ?_, ?_⟩
  · simp only [writeExtendedCopy, h₁, h₂, ok_bind, hoffset, h₃, h₄, h₅]
  · simpa [Command.items, offsetItems] using hw₅.weaken

theorem writes_stop : Writes writeStop stopItems := by
  intro w before hw
  obtain ⟨w₁, h₁, hw₁⟩ := hw.writeControl false
  obtain ⟨w₂, h₂, hw₂⟩ := hw₁.flushIfReady.writeControl true
  obtain ⟨w₃, h₃, hw₃⟩ := hw₂.writeData 0
  obtain ⟨w₄, h₄, hw₄⟩ := hw₃.writeData 0
  refine ⟨w₄, by simp only [writeStop, h₁, h₂, ok_bind, h₃, h₄], ?_⟩
  simpa [stopItems] using hw₄.weaken

/-- The commands written so far produce the first `z` bytes of the input, and
the writer can take the next command. -/
structure EncodesPrefix (input : List UInt8) (z : Nat) (commands : List Command)
    (w : LZSSInterleavedWriter) : Prop where
  ready : w.Ready (itemsOf commands)
  output : execAll commands [] = some (input.take z)

theorem encodesPrefix_new (input : List UInt8) : EncodesPrefix input 0 [] .new :=
  ⟨LZSSInterleavedWriter.new_ready, by simp [execAll]⟩

/-- The operation writes a command of so many bits that continues the output
from the first `z` bytes of the input by `count` bytes. -/
def WritesNext (input : List UInt8) (z count bits : Nat)
    (op : LZSSInterleavedWriter → Except Exception LZSSInterleavedWriter) : Prop :=
  ∃ command : Command, Writes op command.items ∧
    command.exec (input.take z) = some (input.take (z + count)) ∧ command.bits = bits

theorem EncodesPrefix.write {input : List UInt8} {z count bits : Nat} {commands : List Command}
    {w : LZSSInterleavedWriter} (h : EncodesPrefix input z commands w)
    {op : LZSSInterleavedWriter → Except Exception LZSSInterleavedWriter}
    (hop : WritesNext input z count bits op) :
    ∃ w' commands', op w = .ok w' ∧ EncodesPrefix input (z + count) commands' w'.flushIfReady ∧
      bitsOf commands' = bitsOf commands + bits := by
  obtain ⟨command, hwrites, hexec, hbits⟩ := hop
  obtain ⟨w', hw', hemits⟩ := hwrites w _ h.ready
  refine ⟨w', commands ++ [command], hw', ⟨?_, ?_⟩, ?_⟩
  · rw [itemsOf_concat]
    exact hemits.flushIfReady
  · rw [execAll_concat, h.output]
    exact hexec
  · rw [bitsOf_concat, hbits]

theorem writesNext_literal {input : List UInt8} {z : Nat} (hz : z < input.length) :
    WritesNext input z 1 9 (writeLiteral · (input.getD z 0)) := by
  refine ⟨_, writes_literal _, ?_, rfl⟩
  have hvalue : input[z]?.toList = [input.getD z 0] := by
    rw [List.getElem?_eq_getElem hz, List.getD_eq_getElem _ _ hz]
    rfl
  rw [Command.exec, List.take_add_one, hvalue]

section BestMatch

variable {WindowLength MaxMatchLength : Nat} {window : WindowIndex WindowLength MaxMatchLength}
  {input : List UInt8} {z count : Nat}

/-- A copy of the best match, or of a part of it. -/
theorem copyBack_bestMatch (h : window.Valid) (hpos : 0 < count)
    (hle : count ≤ window.getBestMatch.2) :
    copyBack (window.offset - window.getBestMatch.1) count (window.data.take window.offset) =
      some (window.data.take (window.offset + count)) := by
  have hoffset := h.offset_le
  have hlen : (window.data.take window.offset).length = window.offset := by
    rw [List.length_take]
    omega
  rw [copyBack, if_pos (by omega), h.extend_bestMatch hpos hle]

theorem offset_bestMatch (h : window.Valid) (hpos : 0 < count)
    (hle : count ≤ window.getBestMatch.2) :
    (window.getBestMatch.1 : Int) - window.offset =
      -((window.offset - window.getBestMatch.1 : Nat) : Int) := by
  obtain ⟨hlt, -⟩ := h.bestMatch_bounds (by omega)
  omega

theorem writesNext_shortCopy (h : window.At input z) (hwindow : WindowLength ≤ 0x100)
    (hmax : MaxMatchLength ≤ 5) (hmin : 2 ≤ count) (hle : count ≤ window.getBestMatch.2) :
    WritesNext input z count 12
      (writeShortCopy · ((window.getBestMatch.1 : Int) - z) count) := by
  obtain ⟨hvalid, rfl, rfl⟩ := h
  obtain ⟨hlt, hdistance, hsize, -⟩ := hvalid.bestMatch_bounds (by omega)
  rw [offset_bestMatch hvalid (by omega) hle]
  exact ⟨_, writes_shortCopy (by omega) (by omega), copyBack_bestMatch hvalid (by omega) hle, rfl⟩

theorem writesNext_longCopy (h : window.At input z) (hwindow : WindowLength ≤ 0x1FFF)
    (hmax : MaxMatchLength ≤ 9) (hmin : 3 ≤ count) (hle : count ≤ window.getBestMatch.2) :
    WritesNext input z count 18
      (writeLongCopy · ((window.getBestMatch.1 : Int) - z) count) := by
  obtain ⟨hvalid, rfl, rfl⟩ := h
  obtain ⟨hlt, hdistance, hsize, -⟩ := hvalid.bestMatch_bounds (by omega)
  rw [offset_bestMatch hvalid (by omega) hle]
  exact ⟨_, writes_longCopy (by omega) (by omega), copyBack_bestMatch hvalid (by omega) hle, rfl⟩

theorem writesNext_extendedCopy (h : window.At input z) (hwindow : WindowLength ≤ 0x1FFF)
    (hmax : MaxMatchLength ≤ 0x100) (hmin : 1 ≤ count) (hle : count ≤ window.getBestMatch.2) :
    WritesNext input z count 26
      (writeExtendedCopy · ((window.getBestMatch.1 : Int) - z) count) := by
  obtain ⟨hvalid, rfl, rfl⟩ := h
  obtain ⟨hlt, hdistance, hsize, -⟩ := hvalid.bestMatch_bounds (by omega)
  rw [offset_bestMatch hvalid (by omega) hle]
  exact ⟨_, writes_extendedCopy (by omega) (by omega), copyBack_bestMatch hvalid (by omega) hle, rfl⟩

end BestMatch

/-- The stop command completes an encoding of the whole input. -/
theorem EncodesPrefix.finish {input : List UInt8} {commands : List Command}
    {w : LZSSInterleavedWriter} (h : EncodesPrefix input input.length commands w) :
    ∃ w' pending, writeStop w = .ok w' ∧
      Reads bitsOfByte ⟨[], w'.close⟩ (itemsOf commands ++ stopItems) ⟨pending, []⟩ ∧
      prsDecompress w'.close 0 false = .ok input := by
  obtain ⟨w', hw', hemits⟩ := writes_stop w _ h.ready
  obtain ⟨pending, hreads⟩ := hemits.close_reads
  have houtput := h.output
  rw [List.take_length] at houtput
  exact ⟨w', pending, hw', hreads, prsDecompress_of_reads false hreads houtput⟩

end HuntersGuild.PrsEncoding
