import HuntersGuild.PrsStreamingLogs
import HuntersGuild.PrsStreamingOutput

/-!
What a `PRSCompressor` writes decompresses to what was passed to it.
-/

namespace HuntersGuild.PrsStreamingRoundTrip

open HuntersGuild.ByteStreams
open HuntersGuild.ExceptionRules
open HuntersGuild.InterleavedStream
open HuntersGuild.PrsCommands
open HuntersGuild.PrsDecoding
open HuntersGuild.PrsDecompression
open HuntersGuild.PrsEncoding (encodeOffset encodeOffset_eq)
open HuntersGuild.PrsStreaming
open HuntersGuild.PrsStreamingLogs
open HuntersGuild.PrsStreamingOutput
open HuntersGuild.RingBuffer
open HuntersGuild.SlidingCopy

/-- Only the output has changed. -/
def Wrote (prs written : PRSCompressor) : Prop :=
  ∃ offset bits output, written =
    { prs with controlByteOffset := offset, pendingControlBits := bits, output := output }

theorem Wrote.trans {prs written written' : PRSCompressor} (h : Wrote prs written) (h' : Wrote written written') :
    Wrote prs written' := by
  obtain ⟨_, _, _, rfl⟩ := h
  obtain ⟨offset, bits, output, rfl⟩ := h'
  exact ⟨offset, bits, output, rfl⟩

theorem wrote_writeControl (prs : PRSCompressor) (z : Bool) : Wrote prs (prs.writeControl z) := by
  rw [PRSCompressor.writeControl]
  split <;> exact ⟨_, _, _, rfl⟩

theorem wrote_putU8 (prs : PRSCompressor) (v : UInt8) : Wrote prs (prs.putU8 v) :=
  ⟨_, _, _, rfl⟩

theorem Wrote.reverseLog {prs written : PRSCompressor} (h : Wrote prs written) :
    written.reverseLog = prs.reverseLog := by
  obtain ⟨_, _, _, rfl⟩ := h
  rfl

theorem Wrote.forwardLog {prs written : PRSCompressor} (h : Wrote prs written) :
    written.forwardLog = prs.forwardLog := by
  obtain ⟨_, _, _, rfl⟩ := h
  rfl

/-- The commands written so far produce the history. -/
structure Encodes (level : Int) (input history : List UInt8) (commands : List Command) (prs : PRSCompressor) :
    Prop where
  holds : Holds level input history prs
  emits : Emits prs (itemsOf commands)
  output : execAll commands [] = some history

section Commands

variable {level : Int} {input history : List UInt8} {commands : List Command} {prs written : PRSCompressor}

theorem holds_of_wrote (h : Holds level input history prs) (hwrote : Wrote prs written) :
    Holds level input history written := by
  obtain ⟨_, _, _, rfl⟩ := hwrote
  exact ⟨h.compressionLevel, h.opened, h.inputBytes, h.length, h.forward, h.waiting, h.reverse, h.agrees⟩

/-- A command is written, and then its bytes are moved to the reverse log. -/
theorem Encodes.write (h : Encodes level input history commands prs) (hwrote : Wrote prs written) (command : Command)
    (hemits : Emits written (itemsOf commands ++ command.items))
    (hexec : command.exec history = some (moved prs.forwardLog command.size history)) :
    Encodes level input (moved prs.forwardLog command.size history) (commands ++ [command])
      (written.moveForwardDataToReverseLog command.size) := by
  obtain ⟨log, heq, hlog, -⟩ := (holds_of_wrote h.holds hwrote).moveForward command.size
  have hmoved : moved written.forwardLog command.size history = moved prs.forwardLog command.size history := by
    rw [hwrote.forwardLog]
  rw [hmoved] at hlog
  rw [heq]
  refine ⟨hlog, ?_, ?_⟩
  · rw [itemsOf_concat]
    exact hemits.of_eq rfl rfl rfl
  · rw [execAll_concat, h.output]
    exact hexec

theorem Encodes.advanceLiteral (h : Encodes level input history commands prs) :
    Encodes level input (moved prs.forwardLog 1 history)
      (commands ++ [.literal (wrappedAt prs.forwardLog history.length)]) prs.advanceLiteral := by
  have hwrote := wrote_writeControl prs true
  have hbyte : wrappedAt (prs.writeControl true).forwardLog (prs.writeControl true).reverseLog.endOffset =
      wrappedAt prs.forwardLog history.length := by
    rw [hwrote.forwardLog, hwrote.reverseLog, h.holds.endOffset]
  have hemits := (h.emits.writeControl true).putU8 (List.append_ne_nil_of_right_ne_nil _ (List.cons_ne_nil _ _))
    (wrappedAt prs.forwardLog history.length)
  rw [List.append_assoc] at hemits
  have hwritten := h.write (hwrote.trans (wrote_putU8 _ _)) (.literal (wrappedAt prs.forwardLog history.length))
    hemits rfl
  rw [PRSCompressor.advanceLiteral]
  rw [hbyte]
  exact hwritten

/-- A copy inside the input goes on as the input does. -/
theorem copyBack_of_holds {distance count : Nat} (h : Holds level input history prs)
    (hdistance : distance ≤ history.length)
    (hend : history.length + count ≤ input.length)
    (hextend : extend distance count (input.take history.length) = input.take (history.length + count)) :
    copyBack distance count history = some (moved prs.forwardLog count history) := by
  have htake := h.agrees.eq_take (by omega)
  rw [PrsCommands.copyBack, if_pos hdistance, h.moved_eq_take hend, ← hextend, ← htake]

theorem Encodes.advanceShortCopy {distance count : Nat} (h : Encodes level input history commands prs)
    (hdistance : 1 ≤ distance ∧ distance ≤ 0x100) (hcount : 2 ≤ count ∧ count ≤ 5)
    (hcopy : PrsCommands.copyBack distance count history = some (moved prs.forwardLog count history)) :
    Encodes level input (moved prs.forwardLog count history)
      (commands ++ [.shortCopy distance count hdistance hcount])
      (prs.advanceShortCopy (-(distance : Int)) count) := by
  have hbits : ∀ size ≤ 5, ((size - 2) &&& 2 != 0) = (size - 2).testBit 1 ∧
      ((size - 2) &&& 1 != 0) = (size - 2).testBit 0 := by decide
  obtain ⟨hsecond, hfirst⟩ := hbits count hcount.2
  have hoffset : (-(distance : Int) % 0x100).toNat = (0x100 - distance) % 0x100 := by omega
  have hbyte : UInt8.ofNat ((0x100 - distance) % 0x100) = UInt8.ofNat (0x100 - distance) := by
    rw [← UInt8.toNat_inj, UInt8.toNat_ofNat', UInt8.toNat_ofNat']
    omega
  have hemits := ((((h.emits.writeControl false).writeControl false).writeControl
    ((count - 2).testBit 1)).writeControl ((count - 2).testBit 0)).putU8
    (List.append_ne_nil_of_right_ne_nil _ (List.cons_ne_nil _ _)) (UInt8.ofNat (0x100 - distance))
  simp only [List.append_assoc] at hemits
  have hwrote := ((((wrote_writeControl prs false).trans (wrote_writeControl _ false)).trans
    (wrote_writeControl _ ((count - 2).testBit 1))).trans (wrote_writeControl _ ((count - 2).testBit 0))).trans
    (wrote_putU8 _ (UInt8.ofNat (0x100 - distance)))
  have hwritten := h.write hwrote (.shortCopy distance count hdistance hcount) hemits hcopy
  rw [PRSCompressor.advanceShortCopy]
  rw [hsecond, hfirst, hoffset, hbyte]
  exact hwritten

/-- What the two longer copies begin with. -/
theorem emits_offset {items : List (Item UInt8)} {distance sizeField : Nat} (h : Emits prs items)
    (hdistance : 1 ≤ distance ∧ distance ≤ 0x1FFF) (hsize : sizeField < 8) :
    Emits ((((prs.writeControl false).writeControl true).putU8
      (.ofNat (encodeOffset (-(distance : Int)) sizeField % 0x100))).putU8
      (.ofNat (encodeOffset (-(distance : Int)) sizeField / 0x100)))
      (items ++ ([.control false, .control true] ++ offsetItems distance sizeField)) ∧
    Wrote prs ((((prs.writeControl false).writeControl true).putU8
      (.ofNat (encodeOffset (-(distance : Int)) sizeField % 0x100))).putU8
      (.ofNat (encodeOffset (-(distance : Int)) sizeField / 0x100))) := by
  have hne : ∀ (before : List (Item UInt8)) (item : Item UInt8), before ++ [item] ≠ [] := fun before item =>
    List.append_ne_nil_of_right_ne_nil before (List.cons_ne_nil item [])
  rw [encodeOffset_eq hdistance hsize]
  refine ⟨?_, ((wrote_writeControl prs false).trans (wrote_writeControl _ true)).trans
    ((wrote_putU8 _ _).trans (wrote_putU8 _ _))⟩
  have hemits := (((h.writeControl false).writeControl true).putU8 (hne _ _)
    (.ofNat (((0x2000 - distance) * 8 + sizeField) % 0x100))).putU8 (hne _ _)
    (.ofNat (((0x2000 - distance) * 8 + sizeField) / 0x100))
  simp only [List.append_assoc] at hemits
  exact hemits

theorem Encodes.advanceLongCopy {distance count : Nat} (h : Encodes level input history commands prs)
    (hdistance : 1 ≤ distance ∧ distance ≤ 0x1FFF) (hcount : 3 ≤ count ∧ count ≤ 9)
    (hcopy : PrsCommands.copyBack distance count history = some (moved prs.forwardLog count history)) :
    Encodes level input (moved prs.forwardLog count history)
      (commands ++ [.longCopy distance count hdistance hcount]) (prs.advanceLongCopy (-(distance : Int)) count) := by
  obtain ⟨hemits, hwrote⟩ := emits_offset h.emits hdistance (show count - 2 < 8 by omega)
  exact h.write hwrote (.longCopy distance count hdistance hcount) hemits hcopy

theorem Encodes.advanceExtendedCopy {distance count : Nat} (h : Encodes level input history commands prs)
    (hdistance : 1 ≤ distance ∧ distance ≤ 0x1FFF) (hcount : 1 ≤ count ∧ count ≤ 0x100)
    (hcopy : PrsCommands.copyBack distance count history = some (moved prs.forwardLog count history)) :
    Encodes level input (moved prs.forwardLog count history)
      (commands ++ [.extendedCopy distance count hdistance hcount])
      (prs.advanceExtendedCopy (-(distance : Int)) count) := by
  obtain ⟨hemits, hwrote⟩ := emits_offset h.emits hdistance (show 0 < 8 by decide)
  have hlast := hemits.putU8 (List.append_ne_nil_of_right_ne_nil _ (List.cons_ne_nil _ _)) (.ofNat (count - 1))
  rw [List.append_assoc] at hlast
  exact h.write (hwrote.trans (wrote_putU8 _ _)) (.extendedCopy distance count hdistance hcount) hlast hcopy

end Commands

section Runs

variable {level : Int} {input history : List UInt8} {commands : List Command} {prs : PRSCompressor}

theorem Encodes.advanceLiterals (steps : List Nat) (h : Encodes level input history commands prs) :
    ∃ history' commands', Encodes level input history' commands'
        (steps.foldl (fun prs _ => prs.advanceLiteral) prs) ∧
      history'.length = history.length + steps.length := by
  induction steps generalizing history commands prs with
  | nil => exact ⟨history, commands, h, rfl⟩
  | cons step steps ih =>
      obtain ⟨history', commands', hlast, hlen⟩ := ih h.advanceLiteral
      refine ⟨history', commands', hlast, ?_⟩
      rw [hlen, moved_length, List.length_cons]
      omega

/-- A match that is in the window and no longer than a command can say is written. -/
theorem Encodes.writeMatch {best : BestMatch} (h : Encodes level input history commands prs)
    (hsize : best.size ≤ 0x100) (hoffset : 0 < best.size → best.offset < history.length)
    (hwindow : 0 < best.size → history.length < best.offset + 0x2000)
    (hend : 0 < best.size → history.length + best.size ≤ input.length)
    (hcopies : 0 < best.size → extend (history.length - best.offset) best.size (input.take history.length) =
      input.take (history.length + best.size)) :
    ∃ prs' history' commands', prs.writeMatch best = .ok prs' ∧ Encodes level input history' commands' prs' ∧
      history.length < history'.length ∧ history'.length ≤ max input.length (history.length + 1) := by
  have hliteral : ∃ prs' history' commands',
      Except.ok prs.advanceLiteral = (.ok prs' : Except Exception PRSCompressor) ∧
      Encodes level input history' commands' prs' ∧
      history.length < history'.length ∧ history'.length ≤ max input.length (history.length + 1) := by
    refine ⟨_, _, _, rfl, h.advanceLiteral, ?_, ?_⟩ <;> rw [moved_length] <;> omega
  rw [PRSCompressor.writeMatch, h.holds.endOffset]
  dsimp only [pure_eq_ok]
  by_cases hsmall : best.size < 2
  · rw [if_pos hsmall]
    exact hliteral
  rw [if_neg hsmall]
  have hpos : 0 < best.size := by omega
  have hlt := hoffset hpos
  have hnear := hwindow hpos
  have hinside := hend hpos
  have hcopy := copyBack_of_holds h.holds (Nat.sub_le _ _) hinside (hcopies hpos)
  have hback : (best.offset : Int) - history.length = -((history.length - best.offset : Nat) : Int) := by omega
  have hgrows : history.length < (moved prs.forwardLog best.size history).length ∧
      (moved prs.forwardLog best.size history).length ≤ max input.length (history.length + 1) := by
    rw [moved_length]
    omega
  rw [hback]
  by_cases hshort : -((history.length - best.offset : Nat) : Int) ≥ -0x100 ∧ best.size ≤ 5
  · rw [if_pos hshort]
    exact ⟨_, _, _, rfl, h.advanceShortCopy (by omega) (by omega) hcopy, hgrows⟩
  rw [if_neg hshort]
  by_cases htwo : best.size < 3
  · rw [if_pos htwo]
    exact hliteral
  rw [if_neg htwo]
  by_cases hlong : -((history.length - best.offset : Nat) : Int) ≥ -0x1FFF ∧ best.size ≤ 9
  · rw [if_pos hlong]
    exact ⟨_, _, _, rfl, h.advanceLongCopy (by omega) (by omega) hcopy, hgrows⟩
  rw [if_neg hlong, if_pos ⟨by omega, hsize⟩]
  exact ⟨_, _, _, rfl, h.advanceExtendedCopy (by omega) (by omega) hcopy, hgrows⟩

theorem Encodes.advance (hlevel : level ≤ 0x100) (h : Encodes level input history commands prs) :
    ∃ prs' history' commands', prs.advance = .ok prs' ∧ Encodes level input history' commands' prs' ∧
      history.length < history'.length ∧
      history'.length ≤ max input.length (history.length + level.toNat + 1) := by
  have hstart : Fits input history.length level.toNat ⟨0, 0, 0⟩ :=
    ⟨Nat.zero_le _, Nat.zero_le _, fun h => absurd h (Nat.lt_irrefl 0), fun h => absurd h (Nat.lt_irrefl 0),
      fun h => absurd h (Nat.lt_irrefl 0), fun h => absurd h (Nat.lt_irrefl 0)⟩
  have hliterals : ∀ numLiterals ∈ List.range (prs.compressionLevel + 1).toNat, numLiterals ≤ level.toNat := by
    intro numLiterals hmem
    have hlt := List.mem_range.mp hmem
    rw [h.holds.compressionLevel] at hlt
    omega
  obtain ⟨log, best, hsearch, hlog, hbest⟩ := h.holds.search (show level.toNat ≤ 0x2000 by omega) _ hliterals hstart
  obtain ⟨hle, hsize, hoffset, hwindow, hend, hcopies⟩ := hbest
  have hsearched : Encodes level input history commands { prs with reverseLog := log } :=
    ⟨hlog, h.emits.of_eq rfl rfl rfl, h.output⟩
  obtain ⟨history₁, commands₁, h₁, hlen⟩ := hsearched.advanceLiterals (List.range best.literals)
  rw [List.length_range] at hlen
  rw [← hlen] at hoffset hwindow hend hcopies
  obtain ⟨prs', history', commands', hwrite, hencodes, hgrows, hmax⟩ :=
    h₁.writeMatch hsize hoffset hwindow hend hcopies
  refine ⟨prs', history', commands', ?_, hencodes, by omega, by omega⟩
  rw [PRSCompressor.advance, hsearch, ok_bind]
  exact hwrite

/-- The next byte goes into a cell of the forward log that is free. -/
theorem Encodes.receive (h : Encodes level input history commands prs) (hle : history.length ≤ input.length)
    (hfree : input.length ≤ history.length + 0x100) (v : UInt8) :
    Encodes level (input ++ [v]) history commands { prs with
      forwardLog := wrappedSet prs.forwardLog prs.inputBytes v
      inputBytes := prs.inputBytes + 1 } := by
  obtain ⟨⟨hlevel, hopened, hinput, hlength, hforward, -, hreverse, hagrees⟩, hemits, houtput⟩ := h
  refine ⟨⟨hlevel, hopened, ?_, ?_, ?_, ?_, hreverse, ?_⟩, hemits.of_eq rfl rfl rfl, houtput⟩
  · rw [List.length_append, ← hinput]
    rfl
  · exact List.length_set.trans hlength
  · dsimp only
    rw [wrappedSet, hinput]
    exact hforward.push history.length (Nat.le_refl _) (by omega) (by omega) v
  · rw [List.length_append, List.length_singleton]
    omega
  · intro i hi _
    rw [hagrees i hi (by omega), List.getElem?_append_left (by omega)]

theorem Encodes.addByte (hlevel : level ≤ 0x100) (h : Encodes level input history commands prs)
    (hle : history.length ≤ input.length) (v : UInt8) :
    ∃ prs' history' commands', prs.addByte v = .ok prs' ∧ Encodes level (input ++ [v]) history' commands' prs' ∧
      history'.length ≤ (input ++ [v]).length := by
  have hlonger : (input ++ [v]).length = input.length + 1 := List.length_append
  rw [hlonger, PRSCompressor.addByte, h.holds.endOffset, h.holds.length, h.holds.inputBytes]
  by_cases hfull : history.length + 0x101 ≤ input.length
  · obtain ⟨prs', history', commands', hadvance, hencodes, hgrows, hmax⟩ := h.advance hlevel
    have hwaiting := h.holds.waiting
    refine ⟨_, history', commands', ?_, hencodes.receive (by omega) (by omega) v, by omega⟩
    rw [if_pos hfull, hadvance, ok_bind]
    rfl
  · refine ⟨_, history, commands, ?_, h.receive hle (by omega) v, by omega⟩
    rw [if_neg hfull, pure_eq_ok, ok_bind]
    rfl

theorem Encodes.add (hlevel : level ≤ 0x100) (data : List UInt8) (h : Encodes level input history commands prs)
    (hle : history.length ≤ input.length) :
    ∃ prs' history' commands', prs.add data = .ok prs' ∧ Encodes level (input ++ data) history' commands' prs' ∧
      history'.length ≤ (input ++ data).length := by
  have hbytes : ∃ prs' history' commands', data.foldlM PRSCompressor.addByte prs = .ok prs' ∧
      Encodes level (input ++ data) history' commands' prs' ∧ history'.length ≤ (input ++ data).length := by
    induction data generalizing input history commands prs with
    | nil => exact ⟨prs, history, commands, rfl, (List.append_nil input).symm ▸ h, by rw [List.append_nil]; exact hle⟩
    | cons v data ih =>
        obtain ⟨prs₁, history₁, commands₁, hbyte, h₁, hle₁⟩ := h.addByte hlevel hle v
        obtain ⟨prs', history', commands', hrest, hencodes, hle'⟩ := ih h₁ hle₁
        rw [List.append_assoc] at hencodes hle'
        exact ⟨prs', history', commands', by rw [List.foldlM_cons, hbyte, ok_bind, hrest], hencodes, hle'⟩
  rw [PRSCompressor.add, h.holds.opened, if_neg Bool.false_ne_true]
  exact hbytes

theorem Encodes.advanceAll (hlevel : level ≤ 0x100) (fuel : Nat) (h : Encodes level input history commands prs)
    (hfuel : input.length ≤ history.length + fuel) (hmax : history.length ≤ input.length + level.toNat) :
    ∃ prs' history' commands', prs.advanceAll fuel = .ok prs' ∧ Encodes level input history' commands' prs' ∧
      input.length ≤ history'.length ∧ history'.length ≤ input.length + level.toNat := by
  induction fuel generalizing history commands prs with
  | zero =>
      refine ⟨prs, history, commands, ?_, h, hfuel, hmax⟩
      rw [PRSCompressor.advanceAll, h.holds.endOffset, h.holds.inputBytes, if_neg (by omega), pure_eq_ok]
  | succ fuel ih =>
      rw [PRSCompressor.advanceAll, h.holds.endOffset, h.holds.inputBytes]
      by_cases hmore : history.length < input.length
      · obtain ⟨prs₁, history₁, commands₁, hadvance, h₁, hgrows, hmax₁⟩ := h.advance hlevel
        rw [if_pos hmore, hadvance, ok_bind]
        exact ih h₁ (by omega) (by omega)
      · rw [if_neg hmore]
        exact ⟨prs, history, commands, rfl, h, by omega, hmax⟩

/-- The stop command ends what was written. -/
theorem Encodes.finish (h : Encodes level input history commands prs) :
    ∃ flushed, ((((prs.writeControl false).writeControl true).putU8 0).putU8 0).flushControl = .ok flushed ∧
      prsDecompress flushed.output 0 false = .ok history := by
  have hne : ∀ (before : List (Item UInt8)) (item : Item UInt8), before ++ [item] ≠ [] := fun before item =>
    List.append_ne_nil_of_right_ne_nil before (List.cons_ne_nil item [])
  have hemits := (((h.emits.writeControl false).writeControl true).putU8 (hne _ _) 0).putU8 (hne _ _) 0
  obtain ⟨flushed, pending, hflush, hreads⟩ := hemits.flushControl (hne _ _)
  simp only [List.append_assoc] at hreads
  exact ⟨flushed, hflush, prsDecompress_of_reads false hreads h.output⟩

/-- `close` takes the rest of the input and then ends the output. -/
theorem close_of_advanceAll {prs₁ : PRSCompressor} (hopened : prs.closed = false)
    (hall : prs.advanceAll prs.inputBytes = .ok prs₁) (h₁ : Encodes level input history commands prs₁) :
    ∃ closed, prs.close = .ok closed ∧ prsDecompress closed.output 0 false = .ok history := by
  obtain ⟨flushed, hflush, hdecompress⟩ := h₁.finish
  refine ⟨{ flushed with closed := true }, ?_, hdecompress⟩
  rw [PRSCompressor.close, hopened, if_neg Bool.false_ne_true, hall, ok_bind]
  dsimp only
  rw [hflush, ok_bind, pure_eq_ok]

/-- What `close` makes decompresses to the input and at most a few bytes more. -/
theorem Encodes.close (hlevel : level ≤ 0x100) (h : Encodes level input history commands prs)
    (hle : history.length ≤ input.length) :
    ∃ prs' extra, prs.close = .ok prs' ∧ prsDecompress prs'.output 0 false = .ok (input ++ extra) ∧
      extra.length ≤ level.toNat := by
  obtain ⟨prs₁, history₁, commands₁, hall, h₁, hdone, hmax⟩ :=
    h.advanceAll hlevel prs.inputBytes (by rw [h.holds.inputBytes]; omega) (by omega)
  obtain ⟨closed, hclose, hdecompress⟩ := close_of_advanceAll h.holds.opened hall h₁
  have hprefix : input = history₁.take input.length :=
    Agrees.eq_take (fun i hi hlt => (h₁.holds.agrees i hlt hi).symm) hdone
  have hsplit : history₁ = input ++ history₁.drop input.length := by
    conv_lhs => rw [← List.take_append_drop input.length history₁, ← hprefix]
  refine ⟨closed, history₁.drop input.length, hclose, ?_, ?_⟩
  · rw [hdecompress]
    exact congrArg Except.ok hsplit
  · rw [List.length_drop]
    omega

end Runs

theorem encodes_new (level : Int) : Encodes level [] [] [] (.new level) := by
  refine ⟨⟨rfl, rfl, rfl, List.length_replicate, remembers_nil _ _ _, Nat.zero_le _, follows_new, ?_⟩,
    emits_new level, rfl⟩
  exact fun i hi => absurd hi (Nat.not_lt_zero i)

/-- The pieces are passed to `add` one after the other, and then the compressor is closed. -/
def compressPieces (compressionLevel : Int) (pieces : List (List UInt8)) : Except Exception (List UInt8) := do
  let prs ← pieces.foldlM PRSCompressor.add (.new compressionLevel)
  let prs ← prs.close
  return prs.output

theorem Encodes.addAll {level : Int} (hlevel : level ≤ 0x100) (pieces : List (List UInt8)) {input history : List UInt8}
    {commands : List Command} {prs : PRSCompressor} (h : Encodes level input history commands prs)
    (hle : history.length ≤ input.length) :
    ∃ prs' history' commands', pieces.foldlM PRSCompressor.add prs = .ok prs' ∧
      Encodes level (input ++ pieces.flatten) history' commands' prs' ∧
      history'.length ≤ (input ++ pieces.flatten).length := by
  induction pieces generalizing input history commands prs with
  | nil =>
      rw [List.flatten_nil, List.append_nil]
      exact ⟨prs, history, commands, rfl, h, hle⟩
  | cons piece pieces ih =>
      obtain ⟨prs₁, history₁, commands₁, hadd, h₁, hle₁⟩ := h.add hlevel piece hle
      obtain ⟨prs', history', commands', hrest, hencodes, hle'⟩ := ih h₁ hle₁
      rw [List.append_assoc, ← List.flatten_cons] at hencodes hle'
      exact ⟨prs', history', commands', by rw [List.foldlM_cons, hadd, ok_bind, hrest], hencodes, hle'⟩

/-- However the input is cut into pieces, it comes back. With look-ahead there can be bytes
after it, but not more than literals were looked ahead. -/
theorem compressPieces_continues {level : Int} (hlevel : level ≤ 0x100) (pieces : List (List UInt8)) :
    ∃ out extra, compressPieces level pieces = .ok out ∧
      prsDecompress out 0 false = .ok (pieces.flatten ++ extra) ∧ extra.length ≤ level.toNat := by
  obtain ⟨prs, history, commands, hadds, h, hle⟩ := (encodes_new level).addAll hlevel pieces (Nat.le_refl _)
  obtain ⟨closed, extra, hclose, hdecompress, hextra⟩ := h.close hlevel hle
  refine ⟨closed.output, extra, ?_, hdecompress, hextra⟩
  rw [compressPieces, hadds, ok_bind, hclose, ok_bind, pure_eq_ok]

theorem compressPieces_continues_one :
    ∃ out extra, compressPieces 1 [[0], [0, 7]] = .ok out ∧
      prsDecompress out 0 false = .ok ([[0], [0, 7]].flatten ++ extra) ∧ extra.length ≤ Int.toNat 1 :=
  compressPieces_continues (by decide) [[0], [0, 7]]

/-! Look-ahead over the end of the input: after the last byte nothing matches anything, and
the first empty match is taken. -/

section Overrun

variable {level : Int} {prs : PRSCompressor}

theorem matchSize_past {z : Nat} (hpast : prs.inputBytes ≤ z) (place fuel : Nat) :
    prs.matchSize z place fuel 0 = 0 := by
  cases fuel with
  | zero => rfl
  | succ fuel => rw [PRSCompressor.matchSize, if_neg (fun h => absurd h.1 (Nat.not_lt_of_le hpast))]

theorem searchMatches_past {z : Nat} (hpast : prs.inputBytes ≤ z) (numLiterals : Nat) {best : BestMatch}
    (hliterals : 0 < best.literals) (places : List Nat) :
    prs.searchMatches z numLiterals best places = best := by
  induction places with
  | nil => rfl
  | cons place places ih =>
      have hworse : ¬ 0 ≥ best.size + best.literals := by omega
      rw [PRSCompressor.searchMatches, matchSize_past hpast]
      dsimp only
      rw [if_neg hworse, ih, ite_self, ite_self]

theorem index_length_of_holds {input history : List UInt8} (h : Holds level input history prs) (v : UInt8) :
    (prs.reverseLog.index v).length ≤ history.length := by
  rw [h.reverse.index, ← h.reverse.endOffset]
  refine (List.length_filter_le _ _).trans ?_
  rw [List.length_range']
  exact Nat.le_add_left _ _

/-- The only place behind one literal is the first one. -/
theorem index_singleton_of_holds {input : List UInt8} {b : UInt8} (h : Holds level input [b] prs)
    (hsize : 1 ≤ prs.reverseLog.size) : prs.reverseLog.index b = [0] := by
  have hend := h.reverse.endOffset
  rw [List.length_singleton] at hend
  obtain ⟨hoffset, hone⟩ : prs.reverseLog.offset = 0 ∧ prs.reverseLog.size = 1 := by omega
  rw [h.reverse.index, hoffset, hone]
  simp

/-- With one byte of input the search takes the empty match behind it. -/
theorem search_overruns (h : Holds level [0] [] prs) (hforward : prs.forwardLog = List.replicate 0x101 0) {count : Nat}
    (hcount : count ≤ 0x2001) :
    ∃ log best, (List.range count).foldlM (fun (prs, best) numLiterals => prs.searchBehind best numLiterals)
        (prs, ⟨0, 0, 0⟩) = .ok ({ prs with reverseLog := log }, best) ∧
      Holds level [0] [] { prs with reverseLog := log } ∧ best.size = 0 ∧ best.literals = min (count - 1) 1 := by
  have hinput : prs.inputBytes = 1 := h.inputBytes
  have hbytes : ∀ i, wrappedAt prs.forwardLog i = 0 := by
    intro i
    rw [hforward, wrappedAt, List.getD_eq_getElem?_getD, List.getElem?_replicate]
    split <;> rfl
  induction count with
  | zero => exact ⟨prs.reverseLog, ⟨0, 0, 0⟩, rfl, h, rfl, rfl⟩
  | succ count ih =>
      obtain ⟨log, best, hrun, hlog, hsize, hliterals⟩ := ih (by omega)
      obtain ⟨longer, log', hstep, hlonger, hlog', hlen⟩ := hlog.searchBehind_eq (Nat.le_of_succ_le_succ hcount) best
      have hrun' : ∀ {result}, { prs with reverseLog := log }.searchBehind best count = .ok result →
          (List.range (count + 1)).foldlM (fun (prs, best) numLiterals => prs.searchBehind best numLiterals)
            (prs, ⟨0, 0, 0⟩) = .ok result := by
        intro result hstep
        rw [List.range_succ, List.foldlM_append, hrun, ok_bind, List.foldlM_cons]
        dsimp only
        rw [hstep, ok_bind]
        rfl
      refine ⟨log', _, hrun' hstep, hlog', ?_⟩
      dsimp only
      rw [hbytes, List.length_nil]
      have hpast : ∀ z, 1 ≤ z → { prs with reverseLog := longer }.inputBytes ≤ z := fun z hz => hinput.le.trans hz
      obtain rfl | rfl | hmore : count = 0 ∨ count = 1 ∨ 2 ≤ count := by omega
      · have hnone := List.eq_nil_of_length_eq_zero (Nat.le_zero.mp (index_length_of_holds hlonger 0))
        dsimp only at hnone
        rw [hnone]
        exact ⟨hsize, hliterals⟩
      · have hone : moved prs.forwardLog 1 [] = [0] := congrArg (fun b => [b]) (hbytes 0)
        have hplaces := index_singleton_of_holds (hone ▸ hlonger) hlen
        dsimp only at hplaces
        rw [hplaces, PRSCompressor.searchMatches, matchSize_past (hpast (0 + 1) (Nat.le_refl 1))]
        dsimp only
        rw [hsize, hliterals, if_neg (by decide), if_neg (by decide), if_pos (by decide)]
        exact ⟨rfl, rfl⟩
      · rw [searchMatches_past (hpast (0 + count) (by omega)) _ (by omega)]
        exact ⟨hsize, by omega⟩

theorem popAll_error (steps : List Nat) {log : IndexedLog} (hsize : log.size < steps.length) :
    steps.foldlM (fun log _ => log.popBack) log = .error (.logicError "pop_back called on empty IndexedLog") := by
  induction steps generalizing log with
  | nil => exact absurd hsize (Nat.not_lt_zero _)
  | cons step steps ih =>
      rw [List.foldlM_cons, IndexedLog.popBack]
      by_cases hempty : log.size = 0
      · rw [if_pos hempty, throw_eq_error, error_bind]
      · rw [if_neg hempty]
        refine ih ?_
        rw [List.length_cons] at hsize
        show log.size - 1 < steps.length
        omega

/-- So many literals do not fit into the log. -/
theorem searchBehind_error {input history : List UInt8} (h : Holds level input history prs) {numLiterals : Nat}
    (hmany : 0x2000 < numLiterals) (best : BestMatch) :
    prs.searchBehind best numLiterals = .error (.logicError "pop_back called on empty IndexedLog") := by
  obtain ⟨longer, heq, hlonger, -⟩ := h.moveForward numLiterals
  have hsize : longer.size ≤ 0x2000 := hlonger.reverse.size_le
  have herror := popAll_error (List.range numLiterals)
    (show longer.size < (List.range numLiterals).length by rw [List.length_range]; omega)
  rw [PRSCompressor.searchBehind, heq]
  dsimp only
  rw [herror, error_bind]

theorem foldlM_error {σ ε : Type} {f : σ → Nat → Except ε σ} {e : ε} {s : σ} (count : Nat)
    (hcount : (List.range count).foldlM f s = .error e) {more : Nat} (hle : count ≤ more) :
    (List.range more).foldlM f s = .error e := by
  induction hle with
  | refl => exact hcount
  | step _ ih => rw [List.range_succ, List.foldlM_append, ih, error_bind]

/-- The compressor after one zero byte. -/
def zeroAdded (level : Int) : PRSCompressor :=
  { PRSCompressor.new level with inputBytes := 1 }

theorem wrappedSet_zero (level : Int) :
    wrappedSet (PRSCompressor.new level).forwardLog 0 0 = List.replicate 0x101 0 := List.set_replicate_self

theorem add_zero (level : Int) : (PRSCompressor.new level).add [0] = .ok (zeroAdded level) := by
  have hfull : ¬ (PRSCompressor.new level).reverseLog.endOffset + (PRSCompressor.new level).forwardLog.length ≤
      (PRSCompressor.new level).inputBytes := by
    show ¬ 0 + (List.replicate 0x101 (0 : UInt8)).length ≤ 0
    rw [List.length_replicate]
    decide
  have hopened : ¬ (PRSCompressor.new level).closed := Bool.false_ne_true
  rw [PRSCompressor.add, if_neg hopened, List.foldlM_cons, PRSCompressor.addByte, if_neg hfull]
  show Except.ok { PRSCompressor.new level with
    forwardLog := wrappedSet (PRSCompressor.new level).forwardLog 0 0, inputBytes := 1 } = _
  rw [wrappedSet_zero]
  rfl

theorem encodes_zeroAdded (level : Int) : Encodes level [0] [] [] (zeroAdded level) := by
  have h := (encodes_new level).receive (Nat.le_refl _) (Nat.zero_le _) 0
  have hreceived : { PRSCompressor.new level with
      forwardLog := wrappedSet (PRSCompressor.new level).forwardLog 0 0, inputBytes := 1 } = zeroAdded level := by
    rw [wrappedSet_zero]
    rfl
  exact hreceived ▸ h

theorem advance_overruns (hpos : 1 ≤ level) (hlevel : level ≤ 0x2000) :
    ∃ prs' history' commands', (zeroAdded level).advance = .ok prs' ∧ Encodes level [0] history' commands' prs' ∧
      2 ≤ history'.length := by
  have h := encodes_zeroAdded level
  obtain ⟨log, best, hsearch, hlog, hsize, hliterals⟩ := search_overruns h.holds rfl
    (show (level + 1).toNat ≤ 0x2001 by omega)
  have hsearched : Encodes level [0] [] [] { zeroAdded level with reverseLog := log } :=
    ⟨hlog, h.emits.of_eq rfl rfl rfl, h.output⟩
  obtain ⟨history₁, commands₁, h₁, hlen⟩ := hsearched.advanceLiterals (List.range best.literals)
  have hempty : ¬ 0 < best.size := by omega
  obtain ⟨prs', history', commands', hwrite, hencodes, hgrows, -⟩ := h₁.writeMatch (by omega)
    (fun hsome => absurd hsome hempty) (fun hsome => absurd hsome hempty) (fun hsome => absurd hsome hempty)
    (fun hsome => absurd hsome hempty)
  rw [List.length_range, List.length_nil] at hlen
  refine ⟨prs', history', commands', ?_, hencodes, by omega⟩
  rw [PRSCompressor.advance]
  show _ >>= _ = _
  rw [show (zeroAdded level).compressionLevel = level from rfl, hsearch, ok_bind]
  exact hwrite

theorem advance_error (hlevel : 0x2000 < level) :
    (zeroAdded level).advance = .error (.logicError "pop_back called on empty IndexedLog") := by
  obtain ⟨log, best, hsearch, hlog, -⟩ := search_overruns (encodes_zeroAdded level).holds rfl (Nat.le_refl 0x2001)
  have hstep := searchBehind_error hlog (show 0x2000 < 0x2001 by decide) best
  have hrun : (List.range 0x2002).foldlM (fun (prs, best) numLiterals => prs.searchBehind best numLiterals)
      (zeroAdded level, ⟨0, 0, 0⟩) = .error (.logicError "pop_back called on empty IndexedLog") := by
    rw [List.range_succ, List.foldlM_append, hsearch, ok_bind, List.foldlM_cons]
    dsimp only
    rw [hstep, error_bind]
  have herror := foldlM_error 0x2002 hrun (show 0x2002 ≤ (level + 1).toNat by omega)
  rw [PRSCompressor.advance]
  show _ >>= _ = _
  rw [show (zeroAdded level).compressionLevel = level from rfl, herror, error_bind]

/-- With look-ahead a single zero byte does not come back. -/
theorem compressPieces_zero (hpos : 1 ≤ level) {out : List UInt8} (hout : compressPieces level [[0]] = .ok out) :
    prsDecompress out 0 false ≠ .ok [0] := by
  rw [compressPieces, List.foldlM_cons, add_zero, ok_bind, List.foldlM_nil, pure_eq_ok, ok_bind] at hout
  have h := encodes_zeroAdded level
  have hfirst : (zeroAdded level).reverseLog.endOffset < (zeroAdded level).inputBytes := Nat.zero_lt_one
  have hinput : (zeroAdded level).inputBytes = 1 := rfl
  by_cases hlevel : level ≤ 0x2000
  · obtain ⟨prs', history', commands', hadvance, h', hlong⟩ := advance_overruns hpos hlevel
    have hdone : ¬ prs'.reverseLog.endOffset < prs'.inputBytes := by
      rw [h'.holds.endOffset, h'.holds.inputBytes, List.length_singleton]
      omega
    have hall : (zeroAdded level).advanceAll (zeroAdded level).inputBytes = .ok prs' := by
      rw [hinput, PRSCompressor.advanceAll, if_pos hfirst, hadvance, ok_bind, PRSCompressor.advanceAll, if_neg hdone,
        pure_eq_ok]
    obtain ⟨closed, hclose, hdecompress⟩ := close_of_advanceAll h.holds.opened hall h'
    rw [hclose, ok_bind, pure_eq_ok, Except.ok.injEq] at hout
    intro hzero
    rw [← hout, hdecompress, Except.ok.injEq] at hzero
    rw [hzero, List.length_singleton] at hlong
    omega
  · rw [PRSCompressor.close, h.holds.opened, if_neg Bool.false_ne_true, hinput, PRSCompressor.advanceAll,
      if_pos hfirst, advance_error (by omega), error_bind, error_bind, error_bind] at hout
    cases hout

end Overrun

/-- The input comes back exactly, however it is cut into pieces, as long as the compressor does
not look ahead. -/
theorem compressPieces_roundTrip_iff (level : Int) :
    (∀ pieces, ∃ out, compressPieces level pieces = .ok out ∧ prsDecompress out 0 false = .ok pieces.flatten) ↔
      level ≤ 0 := by
  refine ⟨fun h => ?_, fun hlevel pieces => ?_⟩
  · obtain ⟨out, hout, hdecompress⟩ := h [[0]]
    by_contra hpos
    exact compressPieces_zero (by omega) hout hdecompress
  · have hsmall : level ≤ 0x100 := by omega
    obtain ⟨prs, history, commands, hadds, h, hle⟩ := (encodes_new level).addAll hsmall pieces (Nat.le_refl _)
    obtain ⟨closed, extra, hclose, hdecompress, hextra⟩ := h.close hsmall hle
    obtain rfl : extra = [] := List.eq_nil_of_length_eq_zero (by omega)
    rw [List.append_nil] at hdecompress
    refine ⟨closed.output, ?_, hdecompress⟩
    rw [compressPieces, hadds, ok_bind, hclose, ok_bind, pure_eq_ok]

end HuntersGuild.PrsStreamingRoundTrip
