import HuntersGuild.FuelLoop
import HuntersGuild.ForwardRelaxation
import HuntersGuild.WindowSearch
import HuntersGuild.PrsEncoding

/-!
The three PRS encoders that search a sliding window of the whole input:
`prs_compress_optimal`, `prs_compress_indexed` and `prs_compress_pessimal`.
-/

namespace HuntersGuild.PrsCompression

open HuntersGuild.ExceptionRules
open HuntersGuild.FuelLoop
open HuntersGuild.ForwardRelaxation
open HuntersGuild.InterleavedStream
open HuntersGuild.ByteStreams
open HuntersGuild.WindowSearch
open HuntersGuild.PrsCommands
open HuntersGuild.PrsDecompression
open HuntersGuild.PrsEncoding

/-- `PRSPathNode::CommandType`. -/
inductive CommandType where
  | none
  | literal
  | shortCopy
  | longCopy
  | extendedCopy
  deriving DecidableEq

/-- The loop of an indexing thread, for `count` offsets: for each of them the
offset and the maximum size of a copy, if there is one of at least `minSize`
bytes. -/
def findCopies {WindowLength MaxMatchLength : Nat} (minSize : Nat) :
    Nat → WindowIndex WindowLength MaxMatchLength → List (Int × Nat) :=
  WindowIndex.scan fun window =>
    let found := window.getBestMatch
    if found.2 ≥ minSize then ((found.1 : Int) - window.offset, found.2) else (0, 0)

/-- The copies of each `PRSPathNode`. The last node has none. -/
structure NodeCopies where
  shortCopies : List (Int × Nat)
  longCopies : List (Int × Nat)
  extendedCopies : List (Int × Nat)
  deriving DecidableEq

def NodeCopies.find (inData : List UInt8) : NodeCopies where
  shortCopies := findCopies 2 inData.length (.new inData : WindowIndex 0x100 5)
  longCopies := findCopies 3 inData.length (.new inData : WindowIndex 0x1FFF 9)
  extendedCopies := findCopies 1 inData.length (.new inData : WindowIndex 0x1FFF 0x100)

/-- The edges for copies of at least `minSize` and at most `maxSize` bytes. -/
def copyEdges (kind : CommandType) (bits minSize maxSize : Nat) : List (Edge CommandType) :=
  (List.range' minSize (maxSize + 1 - minSize)).map fun x => ⟨x, kind, bits⟩

/-- What can be written at offset `z`, in the order in which it is tried. -/
def NodeCopies.edges (copies : NodeCopies) (z : Nat) : List (Edge CommandType) :=
  [⟨1, .literal, 9⟩] ++
    copyEdges .shortCopy 12 2 (copies.shortCopies.getD z (0, 0)).2 ++
    copyEdges .longCopy 18 3 (copies.longCopies.getD z (0, 0)).2 ++
    copyEdges .extendedCopy 26 1 (copies.extendedCopies.getD z (0, 0)).2

/-- The bits of a stop command. -/
def stopBits : Nat := 18

structure GenerateState where
  offset : Nat
  w : LZSSInterleavedWriter
  deriving DecidableEq

/-- Write the command that leads from a node to the next node of the path. -/
def writeNode (inData : List UInt8) (copies : NodeCopies) (offset copySize : Nat)
    (fromCommandType : CommandType) (w : LZSSInterleavedWriter) :
    Except Exception LZSSInterleavedWriter :=
  match fromCommandType with
  | .literal =>
      if copySize ≠ 1 then
        throw (.logicError "incorrect size for LITERAL copy type")
      else
        writeLiteral w (inData.getD offset 0)
  | .shortCopy =>
      if copySize < 2 ∨ copySize > 5 then
        throw (.logicError "incorrect size for SHORT_COPY copy type")
      else
        writeShortCopy w (copies.shortCopies.getD offset (0, 0)).1 copySize
  | .longCopy =>
      if copySize < 2 ∨ copySize > 9 then
        throw (.logicError "incorrect size for LONG_COPY copy type")
      else
        writeLongCopy w (copies.longCopies.getD offset (0, 0)).1 copySize
  | .extendedCopy =>
      if copySize < 1 ∨ copySize > 0x100 then
        throw (.logicError "incorrect size for EXTENDED_COPY copy type")
      else
        writeExtendedCopy w (copies.extendedCopies.getD offset (0, 0)).1 copySize
  | .none => throw (.logicError "invalid copy type in shortest path")

def generateBody (inData : List UInt8) (copies : NodeCopies)
    (nodes : List (PathNode CommandType)) (links : List Nat) (s : GenerateState) :
    Step GenerateState (Except Exception LZSSInterleavedWriter) :=
  Step.ofExcept do
    if s.offset < inData.length then
      let toOffset := links.getD s.offset 0
      let nextNode := nodes.getD toOffset ⟨0, .none, none⟩
      let w ← writeNode inData copies s.offset (toOffset - s.offset) nextNode.kind s.w
      return .next ⟨toOffset, w.flushIfReady⟩
    else
      return .done s.w

def prsCompressOptimal (inData : List UInt8) : Except Exception (List UInt8) := do
  let copies := NodeCopies.find inData
  let nodes := relaxAll copies.edges inData.length (initialNodes inData.length stopBits .none)
  let links := backtrace nodes inData.length inData.length (List.replicate (inData.length + 1) 0)
  let w ← (run (generateBody inData copies nodes links) (inData.length + 1) ⟨0, .new⟩).getD
    (.error .nonterminating)
  let w ← writeStop w
  return w.close

structure PessimalState where
  window : WindowIndex 0x1FFF 1
  w : LZSSInterleavedWriter
  deriving DecidableEq

def pessimalStep (inData : List UInt8) (s : PessimalState) (z : Nat) :
    Except Exception PessimalState := do
  let found := s.window.getBestMatch
  let w ←
    if found.2 ≥ 1 then
      writeExtendedCopy s.w ((found.1 : Int) - s.window.offset) 1
    else
      writeLiteral s.w (inData.getD z 0)
  return ⟨s.window.advance, w.flushIfReady⟩

def prsCompressPessimal (inData : List UInt8) : Except Exception (List UInt8) := do
  let s ← (List.range inData.length).foldlM (pessimalStep inData) ⟨.new inData, .new⟩
  let w ← writeStop s.w
  return w.close

structure IndexedState where
  wShort : WindowIndex 0x100 5
  wLong : WindowIndex 0x1FFF 9
  wExtended : WindowIndex 0x1FFF 0x100
  w : LZSSInterleavedWriter
  deriving DecidableEq

/-- The command type with the highest score. -/
def chooseCommand (shortSize longSize extendedSize : Nat) : CommandType :=
  let scoreLiteral := 52
  let scoreShort := shortSize * 39
  let scoreLong := longSize * 26
  let scoreExtended := extendedSize * 18
  if scoreLiteral < scoreShort then
    if scoreShort < scoreLong then
      if scoreLong < scoreExtended then .extendedCopy else .longCopy
    else
      if scoreShort < scoreExtended then .extendedCopy else .shortCopy
  else
    if scoreLiteral < scoreLong then
      if scoreLong < scoreExtended then .extendedCopy else .longCopy
    else
      if scoreLiteral < scoreExtended then .extendedCopy else .literal

/-- Write the chosen command, and say how many bytes it consumes. -/
def writeChosen (inData : List UInt8) (s : IndexedState) :
    Except Exception (LZSSInterleavedWriter × Nat) := do
  let mShort := s.wShort.getBestMatch
  let mLong := s.wLong.getBestMatch
  let mExtended := s.wExtended.getBestMatch
  match chooseCommand mShort.2 mLong.2 mExtended.2 with
  | .literal =>
      let w ← writeLiteral s.w (inData.getD s.wShort.offset 0)
      return (w, 1)
  | .shortCopy =>
      let w ← writeShortCopy s.w ((mShort.1 : Int) - s.wShort.offset) mShort.2
      return (w, mShort.2)
  | .longCopy =>
      let w ← writeLongCopy s.w ((mLong.1 : Int) - s.wLong.offset) mLong.2
      return (w, mLong.2)
  | .extendedCopy =>
      let w ← writeExtendedCopy s.w ((mExtended.1 : Int) - s.wExtended.offset) mExtended.2
      return (w, mExtended.2)
  | .none => throw (.logicError "invalid command type")

def indexedBody (inData : List UInt8) (s : IndexedState) :
    Step IndexedState (Except Exception LZSSInterleavedWriter) :=
  Step.ofExcept do
    if s.wShort.offset < inData.length then
      let (w, bytesConsumed) ← writeChosen inData s
      if bytesConsumed = 0 then
        throw (.logicError "no input data was consumed")
      else
        return .next ⟨WindowIndex.advance^[bytesConsumed] s.wShort,
          WindowIndex.advance^[bytesConsumed] s.wLong,
          WindowIndex.advance^[bytesConsumed] s.wExtended, w.flushIfReady⟩
    else
      return .done s.w

def prsCompressIndexed (inData : List UInt8) : Except Exception (List UInt8) := do
  let w ← (run (indexedBody inData) (inData.length + 1)
    ⟨.new inData, .new inData, .new inData, .new⟩).getD (.error .nonterminating)
  let w ← writeStop w
  return w.close

/-- One byte of the pessimal encoder. -/
theorem pessimalStep_encodes {inData : List UInt8} {z : Nat} (hz : z < inData.length)
    {s : PessimalState} (hwindow : s.window.At inData z)
    (hs : ∃ commands, EncodesPrefix inData z commands s.w) :
    ∃ s', pessimalStep inData s z = .ok s' ∧ s'.window.At inData (z + 1) ∧
      ∃ commands, EncodesPrefix inData (z + 1) commands s'.w := by
  obtain ⟨commands, hs⟩ := hs
  have hadvance := hwindow.advance (by omega) hz
  by_cases hfound : s.window.getBestMatch.2 ≥ 1
  · have hnext := writesNext_extendedCopy hwindow le_rfl (by omega) le_rfl hfound
    obtain ⟨w', commands', hw', hencodes, -⟩ := hs.write hnext
    refine ⟨⟨s.window.advance, w'.flushIfReady⟩, ?_, hadvance, commands', hencodes⟩
    simp only [pessimalStep, hfound, if_true, hwindow.offset_eq, hw', ok_bind, pure_eq_ok]
  · obtain ⟨w', commands', hw', hencodes, -⟩ := hs.write (writesNext_literal hz)
    refine ⟨⟨s.window.advance, w'.flushIfReady⟩, ?_, hadvance, commands', hencodes⟩
    simp only [pessimalStep, hfound, if_false, hw', ok_bind, pure_eq_ok]

theorem prsCompressPessimal_round_trip (inData : List UInt8) :
    ∃ out, prsCompressPessimal inData = .ok out ∧ prsDecompress out 0 false = .ok inData := by
  obtain ⟨s, hs, -, commands, hencodes⟩ := exists_foldlM_range (f := pessimalStep inData)
    (n := inData.length) (s := ⟨.new inData, .new⟩)
    (fun z s => s.window.At inData z ∧ ∃ commands, EncodesPrefix inData z commands s.w)
    (fun z hz s h => pessimalStep_encodes hz h.1 h.2)
    ⟨WindowIndex.new_at inData, [], encodesPrefix_new inData⟩
  obtain ⟨w, pending, hw, -, hdecode⟩ := hencodes.finish
  refine ⟨w.close, ?_, hdecode⟩
  simp only [prsCompressPessimal, hs, ok_bind, hw, pure_eq_ok]

/-- The chosen command type is a literal, or has a match of sufficient size. -/
theorem chooseCommand_sizes (shortSize longSize extendedSize : Nat) :
    match chooseCommand shortSize longSize extendedSize with
    | .literal => True
    | .shortCopy => 2 ≤ shortSize
    | .longCopy => 3 ≤ longSize
    | .extendedCopy => 1 ≤ extendedSize
    | .none => False := by
  simp only [chooseCommand]
  split_ifs <;> simp only <;> omega

/-- The windows and the writer of the indexed encoder after `z` bytes. -/
structure IndexedAt (inData : List UInt8) (z : Nat) (s : IndexedState) : Prop where
  wShort : s.wShort.At inData z
  wLong : s.wLong.At inData z
  wExtended : s.wExtended.At inData z
  encodes : ∃ commands, EncodesPrefix inData z commands s.w

theorem writeChosen_encodes {inData : List UInt8} {z : Nat} {s : IndexedState}
    (h : IndexedAt inData z s) (hz : z < inData.length) :
    ∃ w count, writeChosen inData s = .ok (w, count) ∧ 0 < count ∧ z + count ≤ inData.length ∧
      ∃ commands, EncodesPrefix inData (z + count) commands w.flushIfReady := by
  obtain ⟨hShort, hLong, hExtended, commands, hencodes⟩ := h
  have hchosen := chooseCommand_sizes s.wShort.getBestMatch.2 s.wLong.getBestMatch.2
    s.wExtended.getBestMatch.2
  simp only [writeChosen]
  rw [hShort.offset_eq, hLong.offset_eq, hExtended.offset_eq]
  cases hkind : chooseCommand s.wShort.getBestMatch.2 s.wLong.getBestMatch.2
    s.wExtended.getBestMatch.2 with
  | none => simp [hkind] at hchosen
  | literal =>
      obtain ⟨w, commands', hw, hencodes, -⟩ := hencodes.write (writesNext_literal hz)
      exact ⟨w, 1, by simp only [hw, ok_bind, pure_eq_ok], by omega, hz, commands', hencodes⟩
  | shortCopy =>
      simp only [hkind] at hchosen
      obtain ⟨w, commands', hw, hencodes, -⟩ :=
        hencodes.write (writesNext_shortCopy hShort le_rfl le_rfl hchosen le_rfl)
      exact ⟨w, _, by simp [hw, pure_eq_ok], by omega, hShort.add_bestMatch_le (by omega),
        commands', hencodes⟩
  | longCopy =>
      simp only [hkind] at hchosen
      obtain ⟨w, commands', hw, hencodes, -⟩ :=
        hencodes.write (writesNext_longCopy hLong le_rfl le_rfl hchosen le_rfl)
      exact ⟨w, _, by simp [hw, pure_eq_ok], by omega, hLong.add_bestMatch_le (by omega),
        commands', hencodes⟩
  | extendedCopy =>
      simp only [hkind] at hchosen
      obtain ⟨w, commands', hw, hencodes, -⟩ :=
        hencodes.write (writesNext_extendedCopy hExtended le_rfl le_rfl hchosen le_rfl)
      exact ⟨w, _, by simp [hw, pure_eq_ok], by omega, hExtended.add_bestMatch_le (by omega),
        commands', hencodes⟩

/-- One pass of the indexed encoder encodes some more bytes. -/
theorem indexedBody_encodes {inData : List UInt8} {z : Nat} {s : IndexedState}
    (h : IndexedAt inData z s) (hz : z < inData.length) :
    ∃ s' count, indexedBody inData s = .next s' ∧ 0 < count ∧ z + count ≤ inData.length ∧
      IndexedAt inData (z + count) s' := by
  obtain ⟨w, count, hw, hpos, hle, hencodes⟩ := writeChosen_encodes h hz
  refine ⟨⟨WindowIndex.advance^[count] s.wShort, WindowIndex.advance^[count] s.wLong,
      WindowIndex.advance^[count] s.wExtended, w.flushIfReady⟩, count, ?_, hpos, hle,
    ⟨h.wShort.iterate_advance (by omega) hle, h.wLong.iterate_advance (by omega) hle,
      h.wExtended.iterate_advance (by omega) hle, hencodes⟩⟩
  simp only [indexedBody, h.wShort.offset_eq, hz, if_true, hw, ok_bind, hpos.ne', if_false,
    pure_eq_ok, ofExcept_next]

theorem indexedBody_step {inData : List UInt8} {z : Nat} {s : IndexedState}
    (hz : z ≤ inData.length) (h : IndexedAt inData z s) :
    (∃ s', indexedBody inData s = .next s' ∧ (∃ z ≤ inData.length, IndexedAt inData z s') ∧
        inData.length - s'.wShort.offset < inData.length - s.wShort.offset) ∨
      ∃ r, indexedBody inData s = .done r ∧
        ∃ w, r = .ok w ∧ ∃ commands, EncodesPrefix inData inData.length commands w := by
  have hoffset := h.wShort.offset_eq
  rcases Nat.lt_or_eq_of_le hz with hlt | rfl
  · obtain ⟨s', count, hgo, hpos, hle, hs'⟩ := indexedBody_encodes h hlt
    have hoffset' := hs'.wShort.offset_eq
    exact .inl ⟨s', hgo, ⟨_, hle, hs'⟩, by omega⟩
  · refine .inr ⟨_, ?_, s.w, rfl, h.encodes⟩
    simp [indexedBody, hoffset, pure_eq_ok]

theorem prsCompressIndexed_round_trip (inData : List UInt8) :
    ∃ out, prsCompressIndexed inData = .ok out ∧ prsDecompress out 0 false = .ok inData := by
  have hstart : IndexedAt inData 0 ⟨.new inData, .new inData, .new inData, .new⟩ :=
    ⟨WindowIndex.new_at inData, WindowIndex.new_at inData, WindowIndex.new_at inData, [],
      encodesPrefix_new inData⟩
  obtain ⟨r, hrun, w, rfl, commands, hencodes⟩ := exists_run_of_invariant (indexedBody inData)
    (fun s => ∃ z ≤ inData.length, IndexedAt inData z s)
    (fun s => inData.length - s.wShort.offset)
    (fun r => ∃ w, r = .ok w ∧ ∃ commands, EncodesPrefix inData inData.length commands w)
    (fun s ⟨z, hz, hs⟩ => indexedBody_step hz hs) ⟨0, Nat.zero_le _, hstart⟩
    (show _ < inData.length + 1 from Nat.lt_succ_of_le (Nat.sub_le _ _))
  obtain ⟨w', pending, hw', -, hdecode⟩ := hencodes.finish
  refine ⟨w'.close, ?_, hdecode⟩
  simp only [prsCompressIndexed, hrun, Option.getD_some, ok_bind, hw', pure_eq_ok]

theorem mem_copyEdges {kind : CommandType} {bits minSize maxSize : Nat} {e : Edge CommandType} :
    e ∈ copyEdges kind bits minSize maxSize ↔
      (minSize ≤ e.size ∧ e.size ≤ maxSize) ∧ e.kind = kind ∧ e.cost = bits := by
  obtain ⟨size, kind', cost⟩ := e
  simp only [copyEdges, List.mem_map, List.mem_range'_1, Edge.mk.injEq]
  constructor
  · rintro ⟨x, hx, rfl, rfl, rfl⟩
    exact ⟨by omega, rfl, rfl⟩
  · rintro ⟨hx, rfl, rfl⟩
    exact ⟨size, by omega, rfl, rfl, rfl⟩

/-- What an indexing thread leaves in a node comes from the window there. -/
theorem findCopies_window (WindowLength MaxMatchLength minSize : Nat)
    (hwindow : 0 < WindowLength) (hmin : 0 < minSize) {inData : List UInt8} {z : Nat}
    (hz : z < inData.length) :
    ∃ window : WindowIndex WindowLength MaxMatchLength, window.At inData z ∧
      let copy := (findCopies minSize inData.length
        (.new inData : WindowIndex WindowLength MaxMatchLength)).getD z (0, 0)
      ∀ size ≥ minSize, (size ≤ copy.2 ↔ size ≤ window.getBestMatch.2) ∧
        (size ≤ copy.2 → copy.1 = (window.getBestMatch.1 : Int) - z) := by
  have hstart : (WindowIndex.new inData : WindowIndex WindowLength MaxMatchLength).At inData 0 :=
    WindowIndex.new_at inData
  obtain ⟨window, hw, hcopy⟩ := hstart.scan_getD
    (fun window =>
      let found := window.getBestMatch
      if found.2 ≥ minSize then ((found.1 : Int) - window.offset, found.2) else (0, 0))
    (0, 0) hwindow (by omega) hz
  rw [Nat.zero_add] at hw
  refine ⟨window, hw, ?_⟩
  simp only [findCopies, hcopy, hw.offset_eq]
  intro size hsize
  have hpos : 0 < size := hmin.trans_le hsize
  split
  · exact ⟨Iff.rfl, fun _ => rfl⟩
  · exact ⟨by simp only; omega, fun h => by simp only at h; omega⟩

/-- A copy edge is a part of the best match of the window. -/
theorem copyEdge_window {WindowLength MaxMatchLength minSize bits : Nat} {kind : CommandType}
    (hwindow : 0 < WindowLength) (hmin : 0 < minSize) {inData : List UInt8} {z : Nat}
    (hz : z < inData.length) {copy : Int × Nat}
    (hcopy : copy = (findCopies minSize inData.length
      (.new inData : WindowIndex WindowLength MaxMatchLength)).getD z (0, 0))
    {e : Edge CommandType} (he : e ∈ copyEdges kind bits minSize copy.2) :
    ∃ window : WindowIndex WindowLength MaxMatchLength, window.At inData z ∧
      minSize ≤ e.size ∧ e.size ≤ window.getBestMatch.2 ∧
      copy.1 = (window.getBestMatch.1 : Int) - z ∧ e.kind = kind ∧ e.cost = bits := by
  subst hcopy
  obtain ⟨⟨hsize, hmax⟩, hkind, hcost⟩ := mem_copyEdges.mp he
  obtain ⟨window, hw, hsizes⟩ := findCopies_window WindowLength MaxMatchLength minSize hwindow hmin hz
  obtain ⟨hbest, hoffset⟩ := hsizes e.size hsize
  exact ⟨window, hw, hsize, hbest.mp hmax, hoffset hmax, hkind, hcost⟩

theorem mem_edges {copies : NodeCopies} {z : Nat} {e : Edge CommandType} :
    e ∈ copies.edges z ↔ e = ⟨1, .literal, 9⟩ ∨
      e ∈ copyEdges .shortCopy 12 2 (copies.shortCopies.getD z (0, 0)).2 ∨
      e ∈ copyEdges .longCopy 18 3 (copies.longCopies.getD z (0, 0)).2 ∨
      e ∈ copyEdges .extendedCopy 26 1 (copies.extendedCopies.getD z (0, 0)).2 := by
  simp only [NodeCopies.edges, List.mem_append, List.mem_singleton, or_assoc]

/-- Along an edge, a command of its size and cost is written. -/
theorem writesNext_edge {inData : List UInt8} {z : Nat} (hz : z < inData.length)
    {e : Edge CommandType} (he : e ∈ (NodeCopies.find inData).edges z) :
    WritesNext inData z e.size e.cost
      (writeNode inData (NodeCopies.find inData) z e.size e.kind) := by
  obtain ⟨size, kind, cost⟩ := e
  rcases mem_edges.mp he with he | he | he | he
  · obtain ⟨rfl, rfl, rfl⟩ := Edge.mk.inj he
    exact writesNext_literal hz
  · obtain ⟨window, hw, hmin, hbest, hoffset, rfl, rfl⟩ :=
      copyEdge_window (by omega) (by omega) hz rfl he
    simp only at hmin hbest
    have hle := window.bestMatch_le
    have hwrite : writeNode inData (NodeCopies.find inData) z size .shortCopy =
        (writeShortCopy · ((window.getBestMatch.1 : Int) - z) size) := by
      funext w
      rw [writeNode, if_neg (by omega), ← hoffset]
      rfl
    rw [hwrite]
    exact writesNext_shortCopy hw le_rfl le_rfl hmin hbest
  · obtain ⟨window, hw, hmin, hbest, hoffset, rfl, rfl⟩ :=
      copyEdge_window (by omega) (by omega) hz rfl he
    simp only at hmin hbest
    have hle := window.bestMatch_le
    have hwrite : writeNode inData (NodeCopies.find inData) z size .longCopy =
        (writeLongCopy · ((window.getBestMatch.1 : Int) - z) size) := by
      funext w
      rw [writeNode, if_neg (by omega), ← hoffset]
      rfl
    rw [hwrite]
    exact writesNext_longCopy hw le_rfl le_rfl hmin hbest
  · obtain ⟨window, hw, hmin, hbest, hoffset, rfl, rfl⟩ :=
      copyEdge_window (by omega) (by omega) hz rfl he
    simp only at hmin hbest
    have hle := window.bestMatch_le
    have hwrite : writeNode inData (NodeCopies.find inData) z size .extendedCopy =
        (writeExtendedCopy · ((window.getBestMatch.1 : Int) - z) size) := by
      funext w
      rw [writeNode, if_neg (by omega), ← hoffset]
      rfl
    rw [hwrite]
    exact writesNext_extendedCopy hw le_rfl le_rfl hmin hbest

theorem edge_size_le {inData : List UInt8} {z : Nat} (hz : z < inData.length)
    {e : Edge CommandType} (he : e ∈ (NodeCopies.find inData).edges z) :
    0 < e.size ∧ z + e.size ≤ inData.length := by
  rcases mem_edges.mp he with rfl | he | he | he
  · exact ⟨Nat.zero_lt_one, hz⟩
  all_goals
    obtain ⟨window, hw, hmin, hbest, -⟩ := copyEdge_window (by omega) (by omega) hz rfl he
    have hend := hw.add_bestMatch_le (by omega)
    exact ⟨by omega, by omega⟩

theorem edges_forward (inData : List UInt8) :
    Forward (NodeCopies.find inData).edges inData.length where
  size_pos := fun _ hz _ he => (edge_size_le hz he).1
  size_le := fun _ hz _ he => (edge_size_le hz he).2
  exists_next := fun _ _ => ⟨⟨1, .literal, 9⟩, mem_edges.mpr (.inl rfl), rfl⟩

/-- The nodes after the shortest paths have been found. -/
def pathNodes (inData : List UInt8) : List (PathNode CommandType) :=
  relaxAll (NodeCopies.find inData).edges inData.length
    (initialNodes inData.length stopBits .none)

def pathLinks (inData : List UInt8) : List Nat :=
  backtrace (pathNodes inData) inData.length inData.length
    (List.replicate (inData.length + 1) 0)

theorem pathNodes_relaxed (inData : List UInt8) :
    Relaxed (NodeCopies.find inData).edges inData.length stopBits inData.length []
      (pathNodes inData) :=
  relaxAll_relaxed .none (edges_forward inData)

theorem pathLinks_linked (inData : List UInt8) :
    Linked (pathNodes inData) (pathLinks inData) inData.length 0 :=
  backtrace_linked (pathNodes_relaxed inData) le_rfl (by simp) .finish

/-- The generated commands take the bits that the shortest path counted. -/
structure GeneratedAt (inData : List UInt8) (s : GenerateState) : Prop where
  linked : Linked (pathNodes inData) (pathLinks inData) inData.length s.offset
  encodes : ∃ commands, EncodesPrefix inData s.offset commands s.w ∧
    costAt (pathNodes inData) s.offset = some (stopBits + bitsOf commands)

theorem generateBody_step {inData : List UInt8} {s : GenerateState} (h : GeneratedAt inData s) :
    (∃ s', generateBody inData (NodeCopies.find inData) (pathNodes inData) (pathLinks inData) s =
        .next s' ∧ GeneratedAt inData s' ∧
        inData.length - s'.offset < inData.length - s.offset) ∨
      ∃ r, generateBody inData (NodeCopies.find inData) (pathNodes inData) (pathLinks inData) s =
          .done r ∧ ∃ w, r = .ok w ∧ GeneratedAt inData ⟨inData.length, w⟩ := by
  obtain ⟨offset, w⟩ := s
  obtain ⟨hlinked, commands, hencodes, hcost⟩ := h
  simp only at hlinked hencodes hcost ⊢
  cases hlinked with
  | finish =>
      refine .inr ⟨.ok w, ?_, w, rfl, .finish, commands, hencodes, hcost⟩
      simp [generateBody, pure_eq_ok]
  | @step u v node hto hnode hfrom hlt rest =>
      have hv := rest.le
      have hz : offset < inData.length := by omega
      obtain ⟨e, he, hsize, hkind, cost, hcost', hnext⟩ :=
        (pathNodes_relaxed inData).edge_of_node hv (by omega) hnode
      rw [hfrom] at he hsize hcost'
      obtain rfl := Option.some.inj (hcost'.symm.trans hcost)
      obtain ⟨w', commands', hw', hencodes', hbits⟩ := hencodes.write (writesNext_edge hz he)
      rw [hsize] at hencodes'
      refine .inl ⟨⟨v, w'.flushIfReady⟩, ?_, ⟨rest, commands', hencodes', ?_⟩,
        Nat.sub_lt_sub_left hz hlt⟩
      · have hto' : (pathLinks inData).getD offset 0 = v := by
          rw [List.getD_eq_getElem?_getD, hto, Option.getD_some]
        have hnode' : (pathNodes inData).getD v ⟨0, .none, none⟩ = node := by
          rw [List.getD_eq_getElem?_getD, hnode, Option.getD_some]
        simp only [generateBody, hz, if_true, hto', hnode', ← hkind,
          show v - offset = e.size by omega, hw', ok_bind, pure_eq_ok, ofExcept_next]
      · rw [hnext, hbits, Nat.add_assoc]

/-- The optimal encoder writes a path of least cost, and it decodes to the
input. -/
theorem prsCompressOptimal_spec (inData : List UInt8) :
    ∃ out commands pending, prsCompressOptimal inData = .ok out ∧
      Reads bitsOfByte ⟨[], out⟩ (itemsOf commands ++ stopItems) ⟨pending, []⟩ ∧
      costAt (pathNodes inData) inData.length = some (stopBits + bitsOf commands) ∧
      prsDecompress out 0 false = .ok inData := by
  have hstart : GeneratedAt inData ⟨0, .new⟩ :=
    ⟨pathLinks_linked inData, [], encodesPrefix_new inData, (pathNodes_relaxed inData).start⟩
  obtain ⟨r, hrun, w, rfl, -, commands, hencodes, hcost⟩ := exists_run_of_invariant
    (generateBody inData (NodeCopies.find inData) (pathNodes inData) (pathLinks inData))
    (GeneratedAt inData) (fun s => inData.length - s.offset)
    (fun r => ∃ w, r = .ok w ∧ GeneratedAt inData ⟨inData.length, w⟩)
    (fun s hs => generateBody_step hs) hstart
    (show _ < inData.length + 1 from Nat.lt_succ_of_le (Nat.sub_le _ _))
  obtain ⟨w', pending, hw', hreads, hdecode⟩ := hencodes.finish
  refine ⟨w'.close, commands, pending, ?_, hreads, hcost, hdecode⟩
  simp only [pathNodes, pathLinks] at hrun
  simp only [prsCompressOptimal, hrun, Option.getD_some, ok_bind, hw', pure_eq_ok]

/-- Each of the three encoders succeeds, and its output decodes to the input. -/
theorem prsCompress_round_trip (inData : List UInt8) :
    (∃ out, prsCompressOptimal inData = .ok out ∧ prsDecompress out 0 false = .ok inData) ∧
      (∃ out, prsCompressIndexed inData = .ok out ∧ prsDecompress out 0 false = .ok inData) ∧
      ∃ out, prsCompressPessimal inData = .ok out ∧ prsDecompress out 0 false = .ok inData := by
  obtain ⟨out, -, -, hout, -, -, hdecode⟩ := prsCompressOptimal_spec inData
  exact ⟨⟨out, hout, hdecode⟩, prsCompressIndexed_round_trip inData,
    prsCompressPessimal_round_trip inData⟩

end HuntersGuild.PrsCompression
