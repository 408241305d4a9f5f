import HuntersGuild.ByteStreams

/-!
HDLC frames and how they are unescaped in place.
-/

namespace HuntersGuild.HdlcFrames

open HuntersGuild.ExceptionRules
open HuntersGuild.ByteStreams

/-- The bytes that a frame's body stands for. A lone escape byte at the end is
an abort sequence. -/
def unescapeBody : List UInt8 → Option (List UInt8)
  | [] => some []
  | 0x7D :: [] => none
  | 0x7D :: ch :: rest => (unescapeBody rest).map ((ch ^^^ 0x20) :: ·)
  | ch :: rest => (unescapeBody rest).map (ch :: ·)

/-- A body between its sentinels. -/
def frame (body : List UInt8) : List UInt8 := 0x7E :: (body ++ [0x7E])

/-- The frame that an escaped frame stands for. -/
def unescaped (escaped : List UInt8) : Option (List UInt8) :=
  (unescapeBody (escaped.drop 1).dropLast).map frame

/-- The loop of `unescape_hdlc_frame_inplace`, with its data and offsets. -/
def unescapeLoop (size : Nat) : Nat → List UInt8 → Nat → Nat → Except Exception (List UInt8 × Nat)
  | 0, _, _, _ => .error .nonterminating
  | fuel + 1, data, readOffset, writeOffset =>
      if readOffset < size - 1 then
        let ch := data.getD readOffset 0
        if ch = 0x7D then
          if size - 1 ≤ readOffset + 1 then .error (.runtimeError "abort sequence received")
          else
            let ch := data.getD (readOffset + 1) 0 ^^^ 0x20
            unescapeLoop size fuel (data.set writeOffset ch) (readOffset + 2) (writeOffset + 1)
        else unescapeLoop size fuel (data.set writeOffset ch) (readOffset + 1) (writeOffset + 1)
      else .ok (data, writeOffset)

/-- `unescape_hdlc_frame_inplace`: what the data is then, and the new size. -/
def unescapeHdlcFrameInplace (data : List UInt8) : Except Exception (List UInt8 × Nat) :=
  if data.length < 2 then .error (.runtimeError "escaped HDLC frame is too small")
  else if data.getD 0 0 ≠ 0x7E then .error (.runtimeError "HDLC frame does not begin with 7E")
  else if data.getD (data.length - 1) 0 ≠ 0x7E then
    .error (.runtimeError "HDLC frame does not end with 7E")
  else do
    let (data', writeOffset) ← unescapeLoop data.length data.length data 1 1
    if data.length - 1 < writeOffset then
      throw (.logicError "unescaping HDLC frame resulted in longer data string")
    else return (data'.set writeOffset 0x7E, writeOffset + 1)

@[simp] theorem length_frame (body : List UInt8) : (frame body).length = body.length + 2 := by
  simp [frame]

theorem unescaped_frame (body : List UInt8) :
    unescaped (frame body) = (unescapeBody body).map frame := by
  rw [unescaped, frame, List.drop_one, List.tail_cons, List.dropLast_concat]

theorem unescapeBody_cons {ch : UInt8} (hch : ch ≠ 0x7D) (rest : List UInt8) :
    unescapeBody (ch :: rest) = (unescapeBody rest).map (ch :: ·) := by
  rw [unescapeBody]
  · intro h
    exact absurd h hch
  · intro _ _ h
    exact absurd h hch

/-! The loop has written some bytes, then there is a gap, then what is not read
yet and the last sentinel. -/

section Loop

variable {written gap rest data : List UInt8} {size readOffset writeOffset : Nat}

/-- Where the loop is. -/
structure At (written gap rest data : List UInt8) (size readOffset writeOffset : Nat) : Prop where
  data_eq : data = written ++ (gap ++ (rest ++ [0x7E]))
  size_eq : size = written.length + gap.length + rest.length + 1
  readOffset_eq : readOffset = written.length + gap.length
  writeOffset_eq : writeOffset = written.length

theorem At.getD (used : List UInt8) {ch : UInt8}
    (h : At written gap (used ++ ch :: rest) data size readOffset writeOffset) :
    data.getD (readOffset + used.length) 0 = ch := by
  have hdata : data = (written ++ (gap ++ used)) ++ (ch :: rest ++ [0x7E]) := by
    rw [h.data_eq]
    simp only [List.append_assoc]
  have hoffset : readOffset + used.length = (written ++ (gap ++ used)).length := by
    rw [h.readOffset_eq]
    simp only [List.length_append, Nat.add_assoc]
  rw [hdata, hoffset, List.getD_eq_getElem?_getD, List.getElem?_append_right (Nat.le_refl _),
    Nat.sub_self]
  rfl

/-- Writing goes to a byte that has been read already. -/
theorem At.set (used : List UInt8) (hused : used ≠ []) (ch : UInt8)
    (h : At written gap (used ++ rest) data size readOffset writeOffset) :
    ∃ gap', gap'.length + 1 = gap.length + used.length ∧
      At (written ++ [ch]) gap' rest (data.set writeOffset ch) size (readOffset + used.length)
        (writeOffset + 1) := by
  obtain ⟨first, gap', hsplit⟩ : ∃ first gap', gap ++ used = first :: gap' :=
    List.exists_cons_of_ne_nil (List.append_ne_nil_of_right_ne_nil gap hused)
  have hlength : gap'.length + 1 = gap.length + used.length := by
    rw [← List.length_append, hsplit, List.length_cons]
  have hdata : data = written ++ (first :: gap' ++ (rest ++ [0x7E])) := by
    rw [h.data_eq, ← hsplit]
    simp only [List.append_assoc]
  refine ⟨gap', hlength, ?_, ?_, ?_, ?_⟩
  · rw [hdata, h.writeOffset_eq, List.set_append_right _ _ (Nat.le_refl _), Nat.sub_self]
    simp
  · rw [h.size_eq]
    simp only [List.length_append, List.length_singleton]
    omega
  · rw [h.readOffset_eq, List.length_append, List.length_singleton]
    omega
  · rw [h.writeOffset_eq, List.length_append, List.length_singleton]

theorem At.lt {ch : UInt8} (h : At written gap (ch :: rest) data size readOffset writeOffset) :
    readOffset < size - 1 := by
  rw [h.size_eq, h.readOffset_eq, List.length_cons]
  omega

theorem At.done (h : At written gap [] data size readOffset writeOffset) (fuel : Nat) :
    unescapeLoop size (fuel + 1) data readOffset writeOffset = .ok (data, writeOffset) := by
  have hend : ¬ readOffset < size - 1 := by
    rw [h.size_eq, h.readOffset_eq, List.length_nil]
    omega
  rw [unescapeLoop, if_neg hend]

theorem At.abort (h : At written gap [0x7D] data size readOffset writeOffset) (fuel : Nat) :
    unescapeLoop size (fuel + 1) data readOffset writeOffset =
      .error (.runtimeError "abort sequence received") := by
  have hread : data.getD readOffset 0 = 0x7D := h.getD []
  have hend : size - 1 ≤ readOffset + 1 := by
    rw [h.size_eq, h.readOffset_eq, List.length_singleton]
    omega
  simp only [unescapeLoop, if_pos h.lt, hread, if_true, if_pos hend]

theorem At.escape {ch : UInt8}
    (h : At written gap (0x7D :: ch :: rest) data size readOffset writeOffset) (fuel : Nat) :
    unescapeLoop size (fuel + 1) data readOffset writeOffset =
      unescapeLoop size fuel (data.set writeOffset (ch ^^^ 0x20)) (readOffset + 2)
        (writeOffset + 1) := by
  have hread : data.getD readOffset 0 = 0x7D := h.getD []
  have hnext : data.getD (readOffset + 1) 0 = ch := h.getD [0x7D]
  have hmore : ¬ size - 1 ≤ readOffset + 1 := by
    rw [h.size_eq, h.readOffset_eq, List.length_cons, List.length_cons]
    omega
  simp only [unescapeLoop, if_pos h.lt, hread, if_true, if_neg hmore, hnext]

theorem At.literal {ch : UInt8} (hch : ch ≠ 0x7D)
    (h : At written gap (ch :: rest) data size readOffset writeOffset) (fuel : Nat) :
    unescapeLoop size (fuel + 1) data readOffset writeOffset =
      unescapeLoop size fuel (data.set writeOffset ch) (readOffset + 1) (writeOffset + 1) := by
  have hread : data.getD readOffset 0 = ch := h.getD []
  simp only [unescapeLoop, if_pos h.lt, hread, if_neg hch]

theorem ok_written (written result gap' : List UInt8) (ch : UInt8) (writeOffset : Nat) :
    (.ok (written ++ [ch] ++ (result ++ (gap' ++ [0x7E])), writeOffset + 1 + result.length) :
        Except Exception (List UInt8 × Nat)) =
      .ok (written ++ (ch :: result ++ (gap' ++ [0x7E])), writeOffset + (ch :: result).length) := by
  simp only [List.append_assoc, List.cons_append, List.nil_append, List.length_cons,
    Nat.add_comm 1, Nat.add_assoc]

theorem ne_escape {ch : UInt8} (hlone : ch = 0x7D → rest = [] → False)
    (hpair : ∀ next rest', ch = 0x7D → rest = next :: rest' → False) : ch ≠ 0x7D := by
  rintro rfl
  cases rest with
  | nil => exact hlone rfl rfl
  | cons next rest => exact hpair next rest rfl rfl

theorem At.run_of_some {body result : List UInt8} (hbody : unescapeBody body = some result) :
    ∀ {fuel : Nat} {written gap data : List UInt8} {readOffset writeOffset : Nat},
      At written gap body data size readOffset writeOffset → body.length < fuel →
      ∃ gap' : List UInt8, gap'.length + result.length = gap.length + body.length ∧
        unescapeLoop size fuel data readOffset writeOffset =
          .ok (written ++ (result ++ (gap' ++ [0x7E])), writeOffset + result.length) := by
  induction body using unescapeBody.induct generalizing result with
  | case1 =>
      rintro (_ | fuel) written gap data readOffset writeOffset h hfuel
      · exact absurd hfuel (Nat.not_lt_zero _)
      · obtain rfl := Option.some.inj hbody
        refine ⟨gap, rfl, ?_⟩
        rw [h.done, h.data_eq]
        rfl
  | case2 => cases hbody
  | case3 ch rest ih =>
      rintro (_ | fuel) written gap data readOffset writeOffset h hfuel
      · exact absurd hfuel (Nat.not_lt_zero _)
      · obtain ⟨result, hrest, rfl⟩ := Option.map_eq_some_iff.mp hbody
        obtain ⟨mid, hmid, hset⟩ := h.set [0x7D, ch] (List.cons_ne_nil _ _) (ch ^^^ 0x20)
        have hlt : rest.length < fuel := by
          rw [List.length_cons, List.length_cons] at hfuel
          omega
        obtain ⟨gap', hgap, hrun⟩ := ih hrest hset hlt
        refine ⟨gap', ?_, ?_⟩
        · simp only [List.length_cons, List.length_nil] at hmid ⊢
          omega
        · rw [h.escape]
          exact hrun.trans (ok_written written result gap' (ch ^^^ 0x20) writeOffset)
  | case4 ch rest hch hch' ih =>
      rintro (_ | fuel) written gap data readOffset writeOffset h hfuel
      · exact absurd hfuel (Nat.not_lt_zero _)
      · have hne := ne_escape hch hch'
        rw [unescapeBody_cons hne] at hbody
        obtain ⟨result, hrest, rfl⟩ := Option.map_eq_some_iff.mp hbody
        obtain ⟨mid, hmid, hset⟩ := h.set [ch] (List.cons_ne_nil _ _) ch
        have hlt : rest.length < fuel := by
          rw [List.length_cons] at hfuel
          omega
        obtain ⟨gap', hgap, hrun⟩ := ih hrest hset hlt
        refine ⟨gap', ?_, ?_⟩
        · simp only [List.length_cons, List.length_nil] at hmid ⊢
          omega
        · rw [h.literal hne]
          exact hrun.trans (ok_written written result gap' ch writeOffset)

theorem At.run_of_none {body : List UInt8} (hbody : unescapeBody body = none) :
    ∀ {fuel : Nat} {written gap data : List UInt8} {readOffset writeOffset : Nat},
      At written gap body data size readOffset writeOffset → body.length < fuel →
      unescapeLoop size fuel data readOffset writeOffset =
        .error (.runtimeError "abort sequence received") := by
  induction body using unescapeBody.induct with
  | case1 => cases hbody
  | case2 =>
      rintro (_ | fuel) written gap data readOffset writeOffset h hfuel
      · exact absurd hfuel (Nat.not_lt_zero _)
      · exact h.abort fuel
  | case3 ch rest ih =>
      rintro (_ | fuel) written gap data readOffset writeOffset h hfuel
      · exact absurd hfuel (Nat.not_lt_zero _)
      · obtain ⟨mid, -, hset⟩ := h.set [0x7D, ch] (List.cons_ne_nil _ _) (ch ^^^ 0x20)
        have hlt : rest.length < fuel := by
          rw [List.length_cons, List.length_cons] at hfuel
          omega
        rw [h.escape]
        exact ih (Option.map_eq_none_iff.mp hbody) hset hlt
  | case4 ch rest hch hch' ih =>
      rintro (_ | fuel) written gap data readOffset writeOffset h hfuel
      · exact absurd hfuel (Nat.not_lt_zero _)
      · have hne := ne_escape hch hch'
        rw [unescapeBody_cons hne] at hbody
        obtain ⟨mid, -, hset⟩ := h.set [ch] (List.cons_ne_nil _ _) ch
        have hlt : rest.length < fuel := by
          rw [List.length_cons] at hfuel
          omega
        rw [h.literal hne]
        exact ih (Option.map_eq_none_iff.mp hbody) hset hlt

end Loop

theorem at_start (body : List UInt8) :
    At [0x7E] [] body (frame body) (frame body).length 1 1 where
  data_eq := rfl
  size_eq := by
    rw [length_frame, List.length_singleton, List.length_nil]
    omega
  readOffset_eq := rfl
  writeOffset_eq := rfl

theorem unescapeHdlcFrameInplace_frame (body : List UInt8) :
    unescapeHdlcFrameInplace (frame body) = do
      let (data', writeOffset) ←
        unescapeLoop (frame body).length (frame body).length (frame body) 1 1
      if (frame body).length - 1 < writeOffset then
        throw (.logicError "unescaping HDLC frame resulted in longer data string")
      else return (data'.set writeOffset 0x7E, writeOffset + 1) := by
  have hlong : ¬ (frame body).length < 2 := by rw [length_frame]; omega
  have hfirst : ¬ (frame body).getD 0 0 ≠ 0x7E := not_not.mpr rfl
  have hlast : ¬ (frame body).getD ((frame body).length - 1) 0 ≠ 0x7E := by
    apply not_not.mpr
    rw [length_frame, frame, List.getD_eq_getElem?_getD]
    change ((body ++ [0x7E])[body.length]?).getD 0 = 0x7E
    rw [List.getElem?_append_right (Nat.le_refl _), Nat.sub_self]
    rfl
  rw [unescapeHdlcFrameInplace, if_neg hlong, if_neg hfirst, if_neg hlast]

/-- Unescaping in place leaves the frame at the front of the data. -/
theorem unescape_of_some {body result : List UInt8} (hbody : unescapeBody body = some result) :
    ∃ data', unescapeHdlcFrameInplace (frame body) = .ok (data', result.length + 2) ∧
      data'.take (result.length + 2) = frame result ∧ data'.length = (frame body).length := by
  have hfuel : body.length < (frame body).length := by rw [length_frame]; omega
  obtain ⟨gap', hgap, hrun⟩ := (at_start body).run_of_some hbody hfuel
  rw [List.length_nil, Nat.zero_add] at hgap
  refine ⟨[0x7E] ++ (result ++ (gap' ++ [0x7E]).set 0 0x7E), ?_, ?_, ?_⟩
  · have hshort : ¬ (frame body).length - 1 < 1 + result.length := by
      rw [length_frame]
      omega
    rw [unescapeHdlcFrameInplace_frame, hrun, ok_bind]
    simp only [if_neg hshort]
    rw [List.set_append_right _ _ (by rw [List.length_singleton]; omega), List.length_singleton,
      Nat.add_sub_cancel_left, List.set_append_right _ _ (Nat.le_refl _), Nat.sub_self,
      Nat.add_comm 1]
    rfl
  · cases gap' with
    | nil => simp [frame, List.take_append]
    | cons first gap' => simp [frame, List.take_append]
  · simp only [List.length_append, List.length_singleton, List.length_set, length_frame]
    omega

theorem unescape_of_none {body : List UInt8} (hbody : unescapeBody body = none) :
    unescapeHdlcFrameInplace (frame body) =
      .error (.runtimeError "abort sequence received") := by
  have hfuel : body.length < (frame body).length := by rw [length_frame]; omega
  rw [unescapeHdlcFrameInplace_frame, (at_start body).run_of_none hbody hfuel]
  rfl

end HuntersGuild.HdlcFrames
