import HuntersGuild.FuelLoop
import HuntersGuild.ForwardRelaxation
import HuntersGuild.Bc0Decompression
import HuntersGuild.WindowSearch

/-!
The BC0 encoders `bc0_compress`, `bc0_compress_optimal` and `bc0_encode`, and
that `bc0_decompress` inverts them.
-/

namespace HuntersGuild.Bc0Compression

open HuntersGuild.ExceptionRules
open HuntersGuild.FuelLoop
open HuntersGuild.ForwardRelaxation
open HuntersGuild.InterleavedStream
open HuntersGuild.SlidingCopy
open HuntersGuild.ByteStreams
open HuntersGuild.Bc0Decompression
open HuntersGuild.WindowSearch

def writeLiteral (w : LZSSInterleavedWriter) (v : UInt8) :
    Except Exception LZSSInterleavedWriter := do
  let w ← w.writeControl true
  w.writeData v

def writeBackreference (w : LZSSInterleavedWriter) (memoOffset size : Nat) :
    Except Exception LZSSInterleavedWriter := do
  let w ← w.writeControl false
  let w ← w.writeData (UInt8.ofNat (memoOffset &&& 0xFF))
  w.writeData (UInt8.ofNat (((memoOffset >>> 4) &&& 0xF0) ||| (size - 3)))

/-- `match_offset - 0x12` as a `size_t`. -/
def shiftedOffset (matchOffset : Nat) : Nat :=
  (matchOffset + (2 ^ 64 - 0x12)) % 2 ^ 64

/-- The loop that finds the backreferences, for `count` offsets: for each of
them the memo offset and the maximum size of a copy. -/
def findBackreferences : Nat → WindowIndex 0x1000 0x12 → List (Nat × Nat) :=
  WindowIndex.scan fun window =>
    let found := window.getBestMatch
    if found.2 ≥ 3 then (shiftedOffset found.1 &&& 0xFFF, found.2) else (0, 0)

/-- The edges of a node. A BC0 node does not record the type of its command. -/
def backreferenceEdges (copies : List (Nat × Nat)) (z : Nat) : List (Edge Unit) :=
  ⟨1, (), 9⟩ ::
    (List.range' 3 ((copies.getD z (0, 0)).2 + 1 - 3)).map fun x => ⟨x, (), 17⟩

structure GenerateState where
  offset : Nat
  w : LZSSInterleavedWriter
  deriving DecidableEq

def generateBody (inData : List UInt8) (copies : List (Nat × Nat)) (links : List Nat)
    (s : GenerateState) : Step GenerateState (Except Exception LZSSInterleavedWriter) :=
  Step.ofExcept do
    if s.offset < inData.length then
      let toOffset := links.getD s.offset 0
      let copySize := toOffset - s.offset
      let w ←
        if copySize ≥ 3 ∧ copySize ≤ 0x12 then
          writeBackreference s.w (copies.getD s.offset (0, 0)).1 copySize
        else if copySize = 1 then
          writeLiteral s.w (inData.getD s.offset 0)
        else
          pure s.w
      return .next ⟨toOffset, w.flushIfReady⟩
    else
      return .done s.w

def bc0CompressOptimal (inData : List UInt8) : Except Exception (List UInt8) := do
  let copies := findBackreferences inData.length (.new inData)
  let nodes := relaxAll (backreferenceEdges copies) inData.length
    (initialNodes inData.length 0 ())
  let links := backtrace nodes inData.length inData.length (List.replicate (inData.length + 1) 0)
  let w ← (run (generateBody inData copies links) (inData.length + 1) ⟨0, .new⟩).getD
    (.error .nonterminating)
  return w.close

structure CompressState where
  window : WindowIndex 0x1000 0x12
  w : LZSSInterleavedWriter
  deriving DecidableEq

def compressBody (inData : List UInt8) (s : CompressState) :
    Step CompressState (Except Exception LZSSInterleavedWriter) :=
  Step.ofExcept do
    if s.window.offset < inData.length then
      let found := s.window.getBestMatch
      let (w, size) ←
        if found.2 ≥ 3 then do
          let w ← writeBackreference s.w (shiftedOffset found.1) found.2
          pure (w, found.2)
        else do
          let w ← writeLiteral s.w (inData.getD s.window.offset 0)
          pure (w, 1)
      return .next ⟨WindowIndex.advance^[size] s.window, w.flushIfReady⟩
    else
      return .done s.w

def bc0Compress (inData : List UInt8) : Except Exception (List UInt8) := do
  let w ← (run (compressBody inData) (inData.length + 1) ⟨.new inData, .new⟩).getD
    (.error .nonterminating)
  return w.close

def encodeStep (inData : List UInt8) (w : LZSSInterleavedWriter) (z : Nat) :
    Except Exception LZSSInterleavedWriter := do
  let w ← writeLiteral w (inData.getD z 0)
  return w.flushIfReady

def bc0Encode (inData : List UInt8) : Except Exception (List UInt8) := do
  let w ← (List.range inData.length).foldlM (encodeStep inData) .new
  return w.close

theorem writes_literal (v : UInt8) : Writes (writeLiteral · v) (literalItems v) := by
  intro w before hw
  obtain ⟨w₁, h₁, hw₁⟩ := hw.writeControl true
  obtain ⟨w₂, h₂, hw₂⟩ := hw₁.writeData v
  refine ⟨w₂, by simp [writeLiteral, h₁, h₂], ?_⟩
  simpa [literalItems] using hw₂.weaken

theorem writes_backreference (memoOffset size : Nat) :
    Writes (writeBackreference · memoOffset size) (backreferenceItems memoOffset size) := by
  intro w before hw
  obtain ⟨w₁, h₁, hw₁⟩ := hw.writeControl false
  obtain ⟨w₂, h₂, hw₂⟩ := hw₁.writeData (UInt8.ofNat (memoOffset &&& 0xFF))
  obtain ⟨w₃, h₃, hw₃⟩ := hw₂.writeData
    (UInt8.ofNat (((memoOffset >>> 4) &&& 0xF0) ||| (size - 3)))
  refine ⟨w₃, by simp only [writeBackreference, h₁, h₂, h₃, ok_bind], ?_⟩
  simpa [backreferenceItems] using hw₃.weaken

/-- The items written so far decompress to the first `z` bytes of the input. -/
def EncodesPrefix (input : List UInt8) (z : Nat) (w : LZSSInterleavedWriter) : Prop :=
  ∃ items, w.Ready items ∧ Decodes items (input.take z)

theorem encodesPrefix_new (input : List UInt8) : EncodesPrefix input 0 .new :=
  ⟨[], LZSSInterleavedWriter.new_ready, decodes_nil⟩

/-- The operation writes a command that continues the output from the first
`z` bytes of the input by `count` bytes. -/
def WritesNext (input : List UInt8) (z count : Nat)
    (op : LZSSInterleavedWriter → Except Exception LZSSInterleavedWriter) : Prop :=
  ∃ items, Writes op items ∧ ∀ before, Decodes before (input.take z) →
    Decodes (before ++ items) (input.take (z + count))

theorem EncodesPrefix.write {input : List UInt8} {z count : Nat} {w : LZSSInterleavedWriter}
    (h : EncodesPrefix input z w)
    {op : LZSSInterleavedWriter → Except Exception LZSSInterleavedWriter}
    (hop : WritesNext input z count op) :
    ∃ w', op w = .ok w' ∧ EncodesPrefix input (z + count) w'.flushIfReady := by
  obtain ⟨before, hready, hdecodes⟩ := h
  obtain ⟨items, hwrites, hnext⟩ := hop
  obtain ⟨w', hw', hemits⟩ := hwrites w before hready
  exact ⟨w', hw', before ++ items, hemits.flushIfReady, hnext before hdecodes⟩

theorem EncodesPrefix.finish {input : List UInt8} {w : LZSSInterleavedWriter}
    (h : EncodesPrefix input input.length w) : bc0Decompress w.close = .ok input := by
  obtain ⟨items, hready, hdecodes⟩ := h
  obtain ⟨pending, hreads⟩ := hready.1.close_reads
  rw [List.take_length] at hdecodes
  exact hdecodes.bc0Decompress hreads

theorem writesNext_literal {input : List UInt8} {z : Nat} (hz : z < input.length) :
    WritesNext input z 1 (writeLiteral · (input.getD z 0)) := by
  refine ⟨_, writes_literal _, fun before hbefore => ?_⟩
  have hvalue : input[z]?.toList = [input.getD z 0] := by
    rw [List.getElem?_eq_getElem hz, List.getD_eq_getElem _ _ hz]
    rfl
  rw [List.take_add_one, hvalue]
  exact hbefore.literal _

theorem shiftedOffset_mod (matchOffset : Nat) :
    shiftedOffset matchOffset % 0x1000 = (matchOffset + 0x0FEE) % 0x1000 := by
  rw [shiftedOffset]
  omega

/-- The memo is as long as the window, so that every match can be encoded. -/
theorem writesNext_backreference {input : List UInt8} {z size : Nat}
    {window : WindowIndex 0x1000 0x12} (h : window.At input z) (memoOffset : Nat)
    (hmemo : memoOffset % 0x1000 = shiftedOffset window.getBestMatch.1 % 0x1000)
    (hmin : 3 ≤ size) (hle : size ≤ window.getBestMatch.2) :
    WritesNext input z size (writeBackreference · memoOffset size) := by
  obtain ⟨hvalid, rfl, rfl⟩ := h
  obtain ⟨hlt, hreach, hmax, -⟩ := hvalid.bestMatch_bounds (by omega)
  refine ⟨_, writes_backreference memoOffset size, fun before hbefore => ?_⟩
  have hoffset := hvalid.offset_le
  have hlen : (window.data.take window.offset).length = window.offset := by
    rw [List.length_take]
    omega
  have hnext := hbefore.backreference window.getBestMatch.1
    ⟨hmin, hle.trans hmax⟩ (by omega) (by omega) (by rw [hmemo, shiftedOffset_mod])
  rw [hlen, hvalid.extend_bestMatch (by omega) hle] at hnext
  exact hnext

theorem bc0Encode_round_trip (inData : List UInt8) :
    ∃ out, bc0Encode inData = .ok out ∧ bc0Decompress out = .ok inData := by
  obtain ⟨w, hw, hencodes⟩ := exists_foldlM_range (f := encodeStep inData)
    (EncodesPrefix inData) (fun z hz w h => by
      obtain ⟨w', hw', hencodes⟩ := h.write (writesNext_literal hz)
      exact ⟨w'.flushIfReady, by simp only [encodeStep, hw', ok_bind, pure_eq_ok], hencodes⟩)
    (encodesPrefix_new inData)
  refine ⟨w.close, ?_, hencodes.finish⟩
  simp only [bc0Encode, hw, ok_bind, pure_eq_ok]

/-- One pass of the greedy encoder encodes some more bytes. -/
theorem compressBody_encodes {inData : List UInt8} {z : Nat} {s : CompressState}
    (hwindow : s.window.At inData z) (hs : EncodesPrefix inData z s.w) (hz : z < inData.length) :
    ∃ s' count, compressBody inData s = .next s' ∧ 0 < count ∧ z + count ≤ inData.length ∧
      s'.window.At inData (z + count) ∧ EncodesPrefix inData (z + count) s'.w := by
  by_cases hfound : s.window.getBestMatch.2 ≥ 3
  · have hend := hwindow.add_bestMatch_le (by omega)
    obtain ⟨w', hw', hencodes⟩ := hs.write
      (writesNext_backreference hwindow (shiftedOffset s.window.getBestMatch.1) rfl hfound le_rfl)
    refine ⟨⟨WindowIndex.advance^[s.window.getBestMatch.2] s.window, w'.flushIfReady⟩, _, ?_,
      by omega, hend, hwindow.iterate_advance (by omega) hend, hencodes⟩
    simp only [compressBody, hwindow.offset_eq, hz, if_true, hfound, hw', ok_bind, pure_eq_ok,
      ofExcept_next]
  · obtain ⟨w', hw', hencodes⟩ := hs.write (writesNext_literal hz)
    refine ⟨⟨WindowIndex.advance^[1] s.window, w'.flushIfReady⟩, 1, ?_, by omega, hz,
      hwindow.iterate_advance (by omega) hz, hencodes⟩
    simp only [compressBody, hwindow.offset_eq, hz, if_true, hfound, if_false, hw', ok_bind,
      pure_eq_ok, ofExcept_next]

theorem bc0Compress_round_trip (inData : List UInt8) :
    ∃ out, bc0Compress inData = .ok out ∧ bc0Decompress out = .ok inData := by
  have hstart : ∃ z ≤ inData.length, (WindowIndex.new inData : WindowIndex 0x1000 0x12).At inData z ∧
      EncodesPrefix inData z .new :=
    ⟨0, Nat.zero_le _, WindowIndex.new_at inData, encodesPrefix_new inData⟩
  obtain ⟨r, hrun, w, rfl, hencodes⟩ := exists_run_of_invariant (compressBody inData)
    (s := ⟨.new inData, .new⟩)
    (fun s => ∃ z ≤ inData.length, s.window.At inData z ∧ EncodesPrefix inData z s.w)
    (fun s => inData.length - s.window.offset)
    (fun r => ∃ w, r = .ok w ∧ EncodesPrefix inData inData.length w)
    (fun s ⟨z, hz, hwindow, hs⟩ => by
      have hoffset := hwindow.offset_eq
      rcases Nat.lt_or_eq_of_le hz with hlt | rfl
      · obtain ⟨s', count, hgo, hpos, hle, hwindow', hs'⟩ := compressBody_encodes hwindow hs hlt
        have hoffset' := hwindow'.offset_eq
        exact .inl ⟨s', hgo, ⟨_, hle, hwindow', hs'⟩, by omega⟩
      · refine .inr ⟨_, ?_, s.w, rfl, hs⟩
        simp [compressBody, hoffset, pure_eq_ok])
    hstart
    (show _ < inData.length + 1 from Nat.lt_succ_of_le (Nat.sub_le _ _))
  refine ⟨w.close, ?_, hencodes.finish⟩
  simp only [bc0Compress, hrun, Option.getD_some, ok_bind, pure_eq_ok]

/-- Every edge is a literal or a part of the best match of the window. -/
theorem edge_window {inData : List UInt8} {z : Nat} (hz : z < inData.length) {e : Edge Unit}
    (he : e ∈ backreferenceEdges (findBackreferences inData.length (.new inData)) z) :
    e.size = 1 ∨ ∃ window : WindowIndex 0x1000 0x12, window.At inData z ∧ 3 ≤ e.size ∧
      e.size ≤ window.getBestMatch.2 ∧
        ((findBackreferences inData.length (.new inData)).getD z (0, 0)).1 % 0x1000 =
          shiftedOffset window.getBestMatch.1 % 0x1000 := by
  have hstart : (WindowIndex.new inData : WindowIndex 0x1000 0x12).At inData 0 :=
    WindowIndex.new_at inData
  obtain ⟨window, hw, hcopy⟩ := hstart.scan_getD
    (fun window =>
      let found := window.getBestMatch
      if found.2 ≥ 3 then (shiftedOffset found.1 &&& 0xFFF, found.2) else (0, 0))
    (0, 0) (by omega) (by omega) hz
  rw [Nat.zero_add] at hw
  rcases List.mem_cons.mp he with rfl | he
  · exact .inl rfl
  · obtain ⟨x, hx, rfl⟩ := List.mem_map.mp he
    rw [List.mem_range'_1] at hx
    simp only [findBackreferences, hcopy] at hx ⊢
    refine .inr ⟨window, hw, ?_⟩
    split at hx
    · rename_i hfound
      simp only [hfound, if_true]
      refine ⟨by omega, by omega, ?_⟩
      rw [and_memo_mask, Nat.mod_mod]
    · simp only at hx
      omega

theorem edges_forward (inData : List UInt8) :
    Forward (backreferenceEdges (findBackreferences inData.length (.new inData)))
      inData.length where
  size_pos := fun _ hz _ he => by
    rcases edge_window hz he with hone | ⟨_, _, hmin, -⟩ <;> omega
  size_le := fun _ hz _ he => by
    rcases edge_window hz he with hone | ⟨_, hw, hmin, hle, -⟩
    · omega
    · have hend := hw.add_bestMatch_le (by omega)
      omega
  exists_next := fun _ _ => ⟨⟨1, (), 9⟩, List.mem_cons_self, rfl⟩

/-- The nodes after the shortest paths have been found. -/
def pathNodes (inData : List UInt8) : List (PathNode Unit) :=
  relaxAll (backreferenceEdges (findBackreferences inData.length (.new inData))) inData.length
    (initialNodes inData.length 0 ())

def pathLinks (inData : List UInt8) : List Nat :=
  backtrace (pathNodes inData) inData.length inData.length
    (List.replicate (inData.length + 1) 0)

theorem pathNodes_relaxed (inData : List UInt8) :
    Relaxed (backreferenceEdges (findBackreferences inData.length (.new inData))) inData.length 0
      inData.length [] (pathNodes inData) :=
  relaxAll_relaxed () (edges_forward inData)

/-- What holds between the passes of the generating loop. -/
structure GeneratedAt (inData : List UInt8) (s : GenerateState) : Prop where
  linked : Linked (pathNodes inData) (pathLinks inData) inData.length s.offset
  encodes : EncodesPrefix inData s.offset s.w

theorem generateBody_step {inData : List UInt8} {s : GenerateState} (h : GeneratedAt inData s) :
    (∃ s', generateBody inData (findBackreferences inData.length (.new inData))
        (pathLinks inData) s = .next s' ∧ GeneratedAt inData s' ∧
        inData.length - s'.offset < inData.length - s.offset) ∨
      ∃ r, generateBody inData (findBackreferences inData.length (.new inData))
          (pathLinks inData) s = .done r ∧
        ∃ w, r = .ok w ∧ EncodesPrefix inData inData.length w := by
  obtain ⟨offset, w⟩ := s
  obtain ⟨hlinked, hencodes⟩ := h
  simp only at hlinked hencodes ⊢
  cases hlinked with
  | finish =>
      refine .inr ⟨.ok w, ?_, w, rfl, hencodes⟩
      simp [generateBody, pure_eq_ok]
  | @step u v node hto hnode hfrom hlt rest =>
      have hv := rest.le
      have hz : offset < inData.length := by omega
      obtain ⟨e, he, hsize, -⟩ := (pathNodes_relaxed inData).edge_of_node hv (by omega) hnode
      rw [hfrom] at he hsize
      have hto' : (pathLinks inData).getD offset 0 = v := by
        rw [List.getD_eq_getElem?_getD, hto, Option.getD_some]
      have hcopySize : v - offset = e.size := by omega
      rcases edge_window hz he with hone | ⟨window, hw, hmin, hle, hmemo⟩
      · obtain ⟨w', hw', hencodes'⟩ := hencodes.write (writesNext_literal hz)
        rw [show offset + 1 = v by omega] at hencodes'
        refine .inl ⟨⟨v, w'.flushIfReady⟩, ?_, ⟨rest, hencodes'⟩, Nat.sub_lt_sub_left hz hlt⟩
        simp only [generateBody, hz, if_true, hto', hcopySize, hone, hw', ok_bind, pure_eq_ok]
        rfl
      · have hmax := hle.trans window.bestMatch_le
        obtain ⟨w', hw', hencodes'⟩ := hencodes.write (writesNext_backreference hw _ hmemo hmin hle)
        rw [hsize] at hencodes'
        refine .inl ⟨⟨v, w'.flushIfReady⟩, ?_, ⟨rest, hencodes'⟩, Nat.sub_lt_sub_left hz hlt⟩
        simp only [generateBody, hz, if_true, hto', hcopySize, hmin, hmax, and_self, hw',
          ok_bind, pure_eq_ok, ofExcept_next]

theorem bc0CompressOptimal_round_trip (inData : List UInt8) :
    ∃ out, bc0CompressOptimal inData = .ok out ∧ bc0Decompress out = .ok inData := by
  have hstart : GeneratedAt inData ⟨0, .new⟩ :=
    ⟨backtrace_linked (pathNodes_relaxed inData) le_rfl (by simp) .finish,
      encodesPrefix_new inData⟩
  obtain ⟨r, hrun, w, rfl, hencodes⟩ := exists_run_of_invariant
    (generateBody inData (findBackreferences inData.length (.new inData)) (pathLinks inData))
    (GeneratedAt inData) (fun s => inData.length - s.offset)
    (fun r => ∃ w, r = .ok w ∧ EncodesPrefix inData inData.length w)
    (fun s hs => generateBody_step hs) hstart
    (show _ < inData.length + 1 from Nat.lt_succ_of_le (Nat.sub_le _ _))
  refine ⟨w.close, ?_, hencodes.finish⟩
  simp only [pathNodes, pathLinks] at hrun
  simp only [bc0CompressOptimal, hrun, Option.getD_some, ok_bind, pure_eq_ok]

/-- Each of the three BC0 encoders succeeds, and its output decompresses to the
input. -/
theorem bc0_round_trip (inData : List UInt8) :
    (∃ out, bc0Compress inData = .ok out ∧ bc0Decompress out = .ok inData) ∧
      (∃ out, bc0CompressOptimal inData = .ok out ∧ bc0Decompress out = .ok inData) ∧
      ∃ out, bc0Encode inData = .ok out ∧ bc0Decompress out = .ok inData :=
  ⟨bc0Compress_round_trip inData, bc0CompressOptimal_round_trip inData,
    bc0Encode_round_trip inData⟩

end HuntersGuild.Bc0Compression
