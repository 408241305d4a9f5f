import HuntersGuild.PrsCompression

/-!
No stop-terminated PRS stream of an input is shorter than the output of
`prs_compress_optimal`: the commands of a stream are a path through the nodes
of the encoder, and the length of a stream grows with the bits of its commands.
-/

namespace HuntersGuild.PrsOptimality

open HuntersGuild.ForwardRelaxation
open HuntersGuild.InterleavedStream
open HuntersGuild.SlidingCopy
open HuntersGuild.ByteStreams
open HuntersGuild.WindowSearch
open HuntersGuild.PrsCommands
open HuntersGuild.PrsDecompression
open HuntersGuild.PrsDecoding
open HuntersGuild.PrsEncoding
open HuntersGuild.PrsCompression

/-- A copy within the reach of a window is at most as long as its best match. -/
theorem le_bestMatch_of_copyBack {WindowLength MaxMatchLength distance count : Nat}
    {window : WindowIndex WindowLength MaxMatchLength} {inData out out' : List UInt8}
    (hw : window.At inData out.length) (hpos : 0 < distance) (hdistance : distance ≤ WindowLength)
    (hcount : count ≤ MaxMatchLength) (hback : copyBack distance count out = some out')
    (hpre : out' <+: inData) : count ≤ window.getBestMatch.2 := by
  obtain ⟨hvalid, hoffset, rfl⟩ := hw
  rw [copyBack] at hback
  split at hback
  · rename_i hle
    obtain rfl := Option.some.inj hback
    have hlen := extend_length count hpos hle
    have hend := hpre.length_le
    have hmem : out.length - distance ∈ window.index := by
      rw [hvalid.mem_iff]
      omega
    refine le_trans ?_ (hvalid.getMatchLength_le hmem)
    rw [WindowIndex.getMatchLength, hoffset]
    refine le_matchLength (by omega) hcount (by omega) fun k hk => ?_
    rw [getElem?_of_extend_isPrefix hpos hle hpre hk]
    congr 1
    omega
  · cases hback

theorem mem_copyEdges_of_copyBack {WindowLength MaxMatchLength minSize distance count : Nat}
    (kind : CommandType) (bits : Nat) {inData out out' : List UInt8} (hlt : out.length < inData.length)
    (hmin : 0 < minSize) (hpos : 0 < distance) (hdistance : distance ≤ WindowLength)
    (hcount : minSize ≤ count ∧ count ≤ MaxMatchLength)
    (hback : copyBack distance count out = some out') (hpre : out' <+: inData) :
    ⟨count, kind, bits⟩ ∈ copyEdges kind bits minSize
      ((findCopies minSize inData.length
        (.new inData : WindowIndex WindowLength MaxMatchLength)).getD out.length (0, 0)).2 := by
  obtain ⟨window, hw, hsizes⟩ :=
    findCopies_window WindowLength MaxMatchLength minSize (by omega) hmin hlt
  have hbest := le_bestMatch_of_copyBack hw hpos hdistance hcount.2 hback hpre
  exact mem_copyEdges.mpr ⟨⟨hcount.1, (hsizes count hcount.1).1.mpr hbest⟩, rfl, rfl⟩

/-- Every command that continues the input goes along an edge of its size and
its bits. -/
theorem exists_edge_of_exec {inData out out' : List UInt8} {command : Command}
    (hexec : command.exec out = some out') (hpre : out' <+: inData)
    (hlt : out.length < inData.length) :
    ∃ e ∈ (NodeCopies.find inData).edges out.length,
      e.size = command.size ∧ e.cost = command.bits := by
  cases command with
  | literal value => exact ⟨_, mem_edges.mpr (.inl rfl), rfl, rfl⟩
  | shortCopy distance count hdistance hcount =>
      have he := mem_copyEdges_of_copyBack .shortCopy 12 hlt (by omega) hdistance.1 hdistance.2 hcount
        hexec hpre
      exact ⟨_, mem_edges.mpr (.inr (.inl he)), rfl, rfl⟩
  | longCopy distance count hdistance hcount =>
      have he := mem_copyEdges_of_copyBack .longCopy 18 hlt (by omega) hdistance.1 hdistance.2 hcount
        hexec hpre
      exact ⟨_, mem_edges.mpr (.inr (.inr (.inl he))), rfl, rfl⟩
  | extendedCopy distance count hdistance hcount =>
      have he := mem_copyEdges_of_copyBack .extendedCopy 26 hlt (by omega) hdistance.1 hdistance.2 hcount
        hexec hpre
      exact ⟨_, mem_edges.mpr (.inr (.inr (.inr he))), rfl, rfl⟩

theorem Command.size_pos (command : Command) : 0 < command.size := by
  cases command <;> simp only [Command.size] <;> omega

/-- The commands of a stream are a walk whose cost is their bits. -/
theorem walk_of_execAll {inData : List UInt8} {commands : List Command} {out : List UInt8}
    (hexec : execAll commands [] = some out) (hpre : out <+: inData) :
    Walk (NodeCopies.find inData).edges inData.length out.length (bitsOf commands) := by
  induction commands using List.reverseRecOn generalizing out with
  | nil =>
      obtain rfl := Option.some.inj hexec
      exact .start
  | append_singleton commands command ih =>
      rw [execAll_concat, Option.bind_eq_some_iff] at hexec
      obtain ⟨mid, hmid, hlast⟩ := hexec
      have hwalk := ih hmid ((exec_isPrefix hlast).trans hpre)
      have hlen := exec_length hlast
      have hend := hpre.length_le
      have hpos := Command.size_pos command
      have hlt : mid.length < inData.length := by omega
      obtain ⟨e, he, hsize, hcost⟩ := exists_edge_of_exec hlast hpre hlt
      rw [hlen, bitsOf_concat, ← hsize, ← hcost]
      exact .step hwalk hlt he

/-- The length of a stream is that of its bits, rounded up to whole bytes. -/
theorem length_of_reads {data : List UInt8} {items : List (Item UInt8)} {t : Source UInt8}
    (h : Reads bitsOfByte ⟨[], data⟩ items t) :
    controlCount items + 8 * dataCount items ≤ 8 * data.length ∧
      (t.input = [] → 8 * data.length < controlCount items + 8 * dataCount items + 8) := by
  obtain ⟨loads, hlen, hbits⟩ := h.length_eq bitsOfByte_length
  have hpending := h.pending_length_lt bitsOfByte_length (.inl rfl)
  have hlt : t.pending.length < 8 := by
    rcases hpending with hnil | hlt
    · simp [hnil]
    · exact hlt
  simp only [List.length_nil] at hlen hbits
  refine ⟨by omega, fun hinput => ?_⟩
  rw [hinput, List.length_nil] at hlen
  omega

/-- No stop-terminated stream that decompresses to the input is shorter than
the output of the optimal encoder. -/
theorem prsCompressOptimal_optimal {inData stream : List UInt8} (hstop : StopTerminated stream)
    (hdecode : prsDecompress stream 0 false = .ok inData) :
    ∃ out, prsCompressOptimal inData = .ok out ∧ out.length ≤ stream.length := by
  obtain ⟨out, best, pending, hout, hbest, hcost, -⟩ := prsCompressOptimal_spec inData
  obtain ⟨commands, stop, t, hreads, hcontrol, hdata, hexec⟩ := hstop.reads hdecode
  obtain ⟨c, hc, hle⟩ := (pathNodes_relaxed inData).cost_le_of_walk
    (walk_of_execAll hexec List.prefix_rfl)
  obtain rfl := Option.some.inj (hcost.symm.trans hc)
  obtain ⟨-, hlength⟩ := length_of_reads hbest
  obtain ⟨hlength', -⟩ := length_of_reads hreads
  have hshort := hlength rfl
  have hbits := bitsOf_eq best
  have hbits' := bitsOf_eq commands
  have hstopControl : controlCount stopItems = 2 := rfl
  have hstopData : dataCount stopItems = 2 := rfl
  simp only [controlCount_append, dataCount_append] at hshort hlength'
  exact ⟨out, hout, by omega⟩

/-- A stream of one literal, one overlapping copy and a stop command. -/
theorem prsCompressOptimal_optimal_repeated :
    StopTerminated [0x51, 7, 0xFF, 0, 0] ∧
      prsDecompress [0x51, 7, 0xFF, 0, 0] 0 false = .ok [7, 7, 7, 7] ∧
      ∃ out, prsCompressOptimal [7, 7, 7, 7] = .ok out ∧ out.length ≤ 5 := by
  have hstop : StopTerminated [0x51, 7, 0xFF, 0, 0] := by
    refine ⟨⟨[7, 7, 7, 7], ⟨⟨[0, 0], 3⟩, 0x7FA⟩⟩, _, _, ?_, rfl, rfl, rfl⟩
    exact .head rfl (.head rfl .refl)
  have hdecode : prsDecompress [0x51, 7, 0xFF, 0, 0] 0 false = .ok [7, 7, 7, 7] := by
    decide +kernel
  exact ⟨hstop, hdecode, prsCompressOptimal_optimal hstop hdecode⟩

end HuntersGuild.PrsOptimality
