import HuntersGuild.HdlcClients

/-!
Which frames a raw HDLC client passes on, for every way in which the socket
splits them.
-/

namespace HuntersGuild.HdlcReassembly

open HuntersGuild.ByteStreams
open HuntersGuild.StatefulPrograms
open HuntersGuild.HdlcFrames
open HuntersGuild.HdlcClients

/-- An escaped frame: two sentinels, and none between them. -/
def IsFrame (escaped : List UInt8) : Prop :=
  ∃ body, escaped = frame body ∧ 0x7E ∉ body

/-- The frames that the first `size` bytes of a stream contain as a whole. -/
def completed : List (List UInt8) → Nat → List (List UInt8)
  | [], _ => []
  | escaped :: frames, size =>
      if escaped.length ≤ size then escaped :: completed frames (size - escaped.length)
      else []

/-! ## Looking past the received bytes -/

theorem keeps_overran_look (size : Nat) : Keeps (fun c => c.overran = true) (look size) := by
  apply keeps_modify
  intro c h
  change (c.overran || _) = true
  rw [h, Bool.true_or]

theorem passFrame_run (c : RawClient) (frameStartOffset frameEndOffset : Nat) :
    (passFrame frameStartOffset frameEndOffset).run c =
      match unescapeHdlcFrameInplace
          ((c.buffer.drop frameStartOffset).take (frameEndOffset - frameStartOffset)) with
      | .ok (data, unescapedSize) => .ok ⟨⟩ { c with
          buffer := c.buffer.take frameStartOffset ++ (data ++ c.buffer.drop frameEndOffset)
          frames := c.frames ++ [data.take unescapedSize] }
      | .error e => .error e c := by
  unfold passFrame
  rw [run_get_bind]
  dsimp only
  cases unescapeHdlcFrameInplace
    ((c.buffer.drop frameStartOffset).take (frameEndOffset - frameStartOffset)) <;> rfl

theorem keeps_overran_passFrame (frameStartOffset frameEndOffset : Nat) :
    Keeps (fun c => c.overran = true) (passFrame frameStartOffset frameEndOffset) := by
  intro c h
  rw [passFrame_run]
  cases unescapeHdlcFrameInplace
    ((c.buffer.drop frameStartOffset).take (frameEndOffset - frameStartOffset)) <;> exact h

/-- What the loop does with a byte that it has looked at. -/
theorem keeps_overran_round (buffer : List UInt8) (frameStartOffset : Nat) {next : Nat → Handler Nat}
    (hnext : ∀ frameStartOffset, Keeps (fun c => c.overran = true) (next frameStartOffset)) :
    Keeps (fun c => c.overran = true)
      (if buffer.getD frameStartOffset 0 ≠ 0x7E then
        throw (.runtimeError "HDLC frame does not begin with 7E")
      else
        match findSentinel buffer (frameStartOffset + 1) with
        | none => do
            look buffer.length
            return frameStartOffset
        | some frameEndOffset => do
            look (frameEndOffset + 1)
            passFrame frameStartOffset (frameEndOffset + 1)
            next (frameEndOffset + 1)) := by
  split
  · exact (readOnly_throw _).keeps
  · split
    · exact (keeps_overran_look _).bind fun _ => (readOnly_pure _).keeps
    · exact (keeps_overran_look _).bind fun _ =>
        (keeps_overran_passFrame _ _).bind fun _ => hnext _

theorem keeps_overran_processFrames (fuel frameStartOffset : Nat) :
    Keeps (fun c => c.overran = true) (processFrames fuel frameStartOffset) := by
  induction fuel generalizing frameStartOffset with
  | zero => exact (readOnly_throw _).keeps
  | succ fuel ih =>
      apply keeps_get_bind
      intro c h
      split
      · exact h
      · exact (keeps_overran_look _).bind (fun _ => keeps_overran_round _ _ ih) c h

/-- The end of a round. -/
theorem keeps_overran_discard (frameStartOffset : Nat) :
    Keeps (fun c => c.overran = true) (do
      let c ← get
      if c.bufferBytes < frameStartOffset then
        throw (.logicError "frame start offset is beyond buffer bounds")
      else set (c.discard frameStartOffset) : Handler PUnit) := by
  apply keeps_get_bind
  intro c h
  split
  · exact h
  · change (c.discard frameStartOffset).overran = true
    unfold RawClient.discard
    split
    · exact h
    · split <;> exact h

theorem keeps_overran_receive (chunk : List UInt8) :
    Keeps (fun c => c.overran = true) (receive chunk) := by
  have hstore : Keeps (fun c => c.overran = true)
      (modify fun c : RawClient => c.grow.store chunk : Handler PUnit) := keeps_modify fun _ h => h
  exact hstore.bind fun _ => keeps_get_bind fun c h =>
    (keeps_overran_processFrames _ _).bind keeps_overran_discard c h

theorem keeps_overran_handle (reads : List (List UInt8)) :
    Keeps (fun c => c.overran = true) (handle reads) := by
  induction reads with
  | nil => exact (readOnly_pure _).keeps
  | cons chunk reads ih => exact (keeps_overran_receive chunk).bind fun _ => ih

/-! ## Frames at the front of the unread bytes -/

section Frames

variable {c : RawClient} {front tail body result : List UInt8}

theorem idxOf?_sentinel (hbody : 0x7E ∉ body) (tail : List UInt8) :
    (body ++ 0x7E :: tail).idxOf? 0x7E = some body.length := by
  induction body with
  | nil => rfl
  | cons ch body ih =>
      rw [List.mem_cons, not_or] at hbody
      have hne : (ch == 0x7E) = false := beq_eq_false_iff_ne.mpr (Ne.symm hbody.1)
      rw [List.cons_append, List.idxOf?_cons, hne, ih hbody.2]
      rfl

/-- A sentinel is not found before the place where the bytes without one end. -/
theorem le_of_idxOf?_append {i : Nat} (hbody : 0x7E ∉ body)
    (h : (body ++ tail).idxOf? 0x7E = some i) : body.length ≤ i := by
  induction body generalizing i with
  | nil => exact Nat.zero_le i
  | cons ch body ih =>
      rw [List.mem_cons, not_or] at hbody
      have hne : (ch == 0x7E) = false := beq_eq_false_iff_ne.mpr (Ne.symm hbody.1)
      rw [List.cons_append, List.idxOf?_cons, hne] at h
      obtain ⟨j, hj, rfl⟩ := Option.map_eq_some_iff.mp h
      exact Nat.succ_le_succ (ih hbody.2 hj)

theorem look_run {size : Nat} (h : size ≤ c.bufferBytes) : (look size).run c = .ok ⟨⟩ c := by
  have hfalse : decide (c.bufferBytes < size) = false := decide_eq_false (Nat.not_lt.mpr h)
  change EStateM.Result.ok PUnit.unit { c with overran := c.overran || _ } = _
  rw [hfalse, Bool.or_false]

theorem findSentinel_frame (hbody : 0x7E ∉ body) :
    findSentinel (front ++ (frame body ++ tail)) (front.length + 1) =
      some (front.length + body.length + 1) := by
  have hdrop : (front ++ (frame body ++ tail)).drop (front.length + 1) =
      body ++ (0x7E :: tail) := by
    rw [List.drop_append, Nat.add_sub_cancel_left, List.drop_eq_nil_of_le (Nat.le_succ _)]
    simp [frame]
  rw [findSentinel, hdrop, idxOf?_sentinel hbody]
  simp only [Option.map_some, Nat.add_right_comm]

/-- A whole frame that can be unescaped is passed on, and the loop goes on
behind it. -/
theorem processFrames_frame (hbody : 0x7E ∉ body) (hresult : unescapeBody body = some result)
    (hbuffer : c.buffer = front ++ (frame body ++ tail))
    (hbytes : front.length + (frame body).length ≤ c.bufferBytes) (fuel : Nat) :
    ∃ data : List UInt8, data.length = (frame body).length ∧
      (processFrames (fuel + 1) front.length).run c =
        (processFrames fuel (front ++ data).length).run
          { c with
            buffer := (front ++ data) ++ tail
            frames := c.frames ++ [frame result] } := by
  obtain ⟨data, hdata, htake, hlength⟩ := unescape_of_some hresult
  rw [length_frame] at hbytes
  have hmore : ¬ c.buffer.length ≤ front.length := by
    rw [hbuffer, List.length_append, List.length_append, length_frame]
    omega
  have hfirst : ¬ c.buffer.getD front.length 0 ≠ 0x7E := by
    apply not_not.mpr
    rw [hbuffer, List.getD_eq_getElem?_getD, List.getElem?_append_right (Nat.le_refl _),
      Nat.sub_self]
    rfl
  have hfind : findSentinel c.buffer (front.length + 1) =
      some (front.length + body.length + 1) := by
    rw [hbuffer]
    exact findSentinel_frame hbody
  have hend : front.length + body.length + 1 + 1 = (front ++ frame body).length := by
    rw [List.length_append, length_frame, Nat.add_assoc, Nat.add_assoc]
  have hcut : (c.buffer.drop front.length).take
      (front.length + body.length + 1 + 1 - front.length) = frame body := by
    rw [hend, List.length_append, Nat.add_sub_cancel_left, hbuffer, List.drop_left,
      List.take_left]
  have hrest : c.buffer.drop (front.length + body.length + 1 + 1) = tail := by
    rw [hend, hbuffer, ← List.append_assoc, List.drop_left]
  have hpass : (passFrame front.length (front.length + body.length + 1 + 1)).run c =
      .ok ⟨⟩ { c with
        buffer := (front ++ data) ++ tail
        frames := c.frames ++ [frame result] } := by
    rw [passFrame_run, hcut, hdata, hrest, hbuffer, List.take_left, ← htake, List.append_assoc]
  have hoffset : front.length + body.length + 1 + 1 = (front ++ data).length := by
    rw [hend, List.length_append, List.length_append, hlength]
  refine ⟨data, hlength, ?_⟩
  rw [processFrames, run_get_bind, if_neg hmore, run_bind_of_ok (look_run (by omega)),
    if_neg hfirst, hfind, ← hoffset]
  rw [run_bind_of_ok (look_run (by omega)), run_bind_of_ok hpass]

end Frames

/-- An escaped frame that stands for a frame. -/
def Valid (escaped : List UInt8) : Prop :=
  ∃ body result, escaped = frame body ∧ 0x7E ∉ body ∧ unescapeBody body = some result

/-- The unread bytes do not contain the next frame as a whole. -/
def Short (unread : List UInt8) : List (List UInt8) → Prop
  | [] => unread = []
  | escaped :: _ => unread.length < escaped.length

section Loop

variable {c : RawClient} {front unread stale future : List UInt8} {frames : List (List UInt8)}

/-- What is there of a frame that is not complete has no second sentinel. -/
theorem exists_partial {body rest : List UInt8} (hbody : 0x7E ∉ body)
    (hunread : unread ++ future = frame body ++ rest) (hshort : unread.length < (frame body).length)
    (hne : unread ≠ []) : ∃ begun, unread = 0x7E :: begun ∧ 0x7E ∉ begun := by
  cases unread with
  | nil => exact absurd rfl hne
  | cons first begun =>
      obtain ⟨rfl, htail⟩ := List.cons.inj hunread
      refine ⟨begun, rfl, ?_⟩
      rw [length_frame, List.length_cons] at hshort
      have hstream : begun ++ future = body ++ ([0x7E] ++ rest) := by
        rw [← List.append_assoc]
        exact htail
      have hbegun : begun <+: body :=
        List.prefix_of_prefix_length_le (List.prefix_append begun future)
          (hstream ▸ List.prefix_append body _) (by omega)
      exact fun hmem => hbody (hbegun.subset hmem)

theorem getD_front (first : UInt8) (rest : List UInt8) :
    (front ++ (first :: rest)).getD front.length 0 = first := by
  rw [List.getD_eq_getElem?_getD, List.getElem?_append_right (Nat.le_refl _), Nat.sub_self]
  rfl

theorem drop_front (first : UInt8) (rest : List UInt8) :
    (front ++ (first :: rest)).drop (front.length + 1) = rest := by
  rw [List.drop_append, Nat.add_sub_cancel_left, List.drop_eq_nil_of_le (Nat.le_succ _)]
  rfl

/-- When all of the buffer has been received, the loop stops at the frame that
is not complete. -/
theorem processFrames_stop (hframes : ∀ escaped ∈ frames, Valid escaped)
    (hbuffer : c.buffer = front ++ unread) (hfull : c.bufferBytes = c.buffer.length)
    (hunread : unread ++ future = frames.flatten) (hshort : Short unread frames) (fuel : Nat) :
    (processFrames (fuel + 1) front.length).run c = .ok front.length c := by
  rw [processFrames, run_get_bind]
  by_cases hne : unread = []
  · obtain rfl := hne
    rw [List.append_nil] at hbuffer
    rw [hbuffer, if_pos (Nat.le_refl _)]
    rfl
  · cases frames with
    | nil => exact absurd hshort hne
    | cons escaped frames =>
        obtain ⟨body, -, rfl, hbody, -⟩ := hframes escaped List.mem_cons_self
        obtain ⟨begun, rfl, hbegun⟩ := exists_partial hbody hunread hshort hne
        have hlength : c.buffer.length = front.length + (begun.length + 1) := by
          rw [hbuffer, List.length_append, List.length_cons]
        have hmore : ¬ c.buffer.length ≤ front.length := by omega
        have hfind : findSentinel c.buffer (front.length + 1) = none := by
          rw [findSentinel, hbuffer, drop_front, List.idxOf?_eq_none_iff.mpr hbegun]
          rfl
        have hfirst : ¬ c.buffer.getD front.length 0 ≠ 0x7E := by
          rw [hbuffer, getD_front]
          exact not_not.mpr rfl
        rw [if_neg hmore, run_bind_of_ok (look_run (by omega)), if_neg hfirst, hfind]
        exact run_bind_of_ok (look_run (Nat.le_of_eq hfull.symm))

/-- A look past the received bytes is not forgotten. -/
theorem overran_look_bind {size : Nat} {α : Type} {next : PUnit → Handler α}
    (hnext : ∀ a, Keeps (fun c => c.overran = true) (next a)) (h : c.bufferBytes < size) :
    (finalState ((look size >>= next).run c)).overran = true := by
  apply hnext ⟨⟩
  change (c.overran || decide (c.bufferBytes < size)) = true
  rw [decide_eq_true h, Bool.or_true]

/-- Otherwise it looks past what has been received, whatever is there. -/
theorem processFrames_overrun (hframes : ∀ escaped ∈ frames, Valid escaped)
    (hbuffer : c.buffer = front ++ (unread ++ stale)) (hstale : stale ≠ [])
    (hbytes : c.bufferBytes = front.length + unread.length)
    (hunread : unread ++ future = frames.flatten) (hshort : Short unread frames) (fuel : Nat) :
    (finalState ((processFrames (fuel + 1) front.length).run c)).overran = true := by
  have hpos := List.length_pos_iff.mpr hstale
  have hlength : c.buffer.length = front.length + (unread.length + stale.length) := by
    rw [hbuffer, List.length_append, List.length_append]
  have hmore : ¬ c.buffer.length ≤ front.length := by omega
  rw [processFrames, run_get_bind, if_neg hmore]
  by_cases hne : unread = []
  · obtain rfl := hne
    rw [List.length_nil] at hbytes
    exact overran_look_bind
      (fun _ => keeps_overran_round _ _ (keeps_overran_processFrames fuel)) (by omega)
  · cases frames with
    | nil => exact absurd hshort hne
    | cons escaped frames =>
        obtain ⟨body, -, rfl, hbody, -⟩ := hframes escaped List.mem_cons_self
        obtain ⟨begun, rfl, hbegun⟩ := exists_partial hbody hunread hshort hne
        rw [List.length_cons] at hbytes hlength
        have hfirst : ¬ c.buffer.getD front.length 0 ≠ 0x7E := by
          rw [hbuffer, List.cons_append, getD_front]
          exact not_not.mpr rfl
        have hfind : findSentinel c.buffer (front.length + 1) =
            ((begun ++ stale).idxOf? 0x7E).map (front.length + 1 + ·) := by
          rw [findSentinel, hbuffer, List.cons_append, drop_front]
        rw [run_bind_of_ok (look_run (by omega)), if_neg hfirst, hfind]
        cases hidx : (begun ++ stale).idxOf? 0x7E with
        | none => exact overran_look_bind (fun _ => (readOnly_pure _).keeps) (by omega)
        | some i =>
            have hfar : begun.length ≤ i := le_of_idxOf?_append hbegun hidx
            refine overran_look_bind (fun _ => (keeps_overran_passFrame _ _).bind fun _ =>
              keeps_overran_processFrames fuel _) ?_
            change c.bufferBytes < front.length + 1 + i + 1
            omega

/-- Either the next frame is not complete, or it is at the front. -/
theorem short_or_append {escaped : List UInt8}
    (hunread : unread ++ future = (escaped :: frames).flatten) :
    Short unread (escaped :: frames) ∨
      ∃ rest, unread = escaped ++ rest ∧ rest ++ future = frames.flatten := by
  rcases Nat.lt_or_ge unread.length escaped.length with hlt | hge
  · exact .inl hlt
  · have hescaped : escaped <+: unread :=
      List.prefix_of_prefix_length_le (hunread ▸ List.prefix_append escaped frames.flatten)
        (List.prefix_append unread future) hge
    obtain ⟨rest, rfl⟩ := hescaped
    rw [List.flatten_cons, List.append_assoc] at hunread
    exact .inr ⟨rest, rfl, List.append_cancel_left hunread⟩

/-- All complete frames are passed on when all of the buffer has been received. -/
theorem processFrames_full (hframes : ∀ escaped ∈ frames, Valid escaped) :
    ∀ {fuel : Nat} {c : RawClient} {front unread : List UInt8},
      c.buffer = front ++ unread → c.bufferBytes = c.buffer.length →
      unread ++ future = frames.flatten → unread.length < fuel →
      ∃ done rest passed front' unread',
        frames = done ++ rest ∧ done.map unescaped = passed.map some ∧
        unread.length = done.flatten.length + unread'.length ∧
        unread' ++ future = rest.flatten ∧ Short unread' rest ∧
        (front' ++ unread').length = c.buffer.length ∧
        (processFrames fuel front.length).run c =
          .ok front'.length
            { c with buffer := front' ++ unread', frames := c.frames ++ passed } := by
  induction frames with
  | nil =>
      intro fuel c front unread hbuffer hfull hunread hfuel
      obtain ⟨fuel, rfl⟩ : ∃ n, fuel = n + 1 := ⟨fuel - 1, by omega⟩
      have hshort : Short unread [] := (List.append_eq_nil_iff.mp hunread).1
      refine ⟨[], [], [], front, unread, rfl, rfl, (Nat.zero_add _).symm, hunread, hshort, ?_, ?_⟩
      · rw [hbuffer]
      · rw [processFrames_stop hframes hbuffer hfull hunread hshort, List.append_nil, ← hbuffer]
  | cons escaped frames ih =>
      intro fuel c front unread hbuffer hfull hunread hfuel
      obtain ⟨fuel, rfl⟩ : ∃ n, fuel = n + 1 := ⟨fuel - 1, by omega⟩
      rcases short_or_append hunread with hshort | ⟨tail, rfl, htail⟩
      · refine ⟨[], escaped :: frames, [], front, unread, rfl, rfl, (Nat.zero_add _).symm, hunread,
          hshort, ?_, ?_⟩
        · rw [hbuffer]
        · rw [processFrames_stop hframes hbuffer hfull hunread hshort, List.append_nil, ← hbuffer]
      · obtain ⟨body, result, rfl, hbody, hresult⟩ := hframes escaped List.mem_cons_self
        have hbytes : front.length + (frame body).length ≤ c.bufferBytes := by
          rw [hfull, hbuffer, List.length_append, List.length_append]
          omega
        obtain ⟨data, hdata, hrun⟩ := processFrames_frame hbody hresult hbuffer hbytes fuel
        have hlength : (front ++ data ++ tail).length = c.buffer.length := by
          simp only [hbuffer, List.length_append, hdata, Nat.add_assoc]
        rw [List.length_append, length_frame] at hfuel
        have hlt : tail.length < fuel := by omega
        obtain ⟨done, rest, passed, front', unread', rfl, hdone, hcount, hfuture, hshort, hsize,
          hend⟩ := ih (fun escaped hmem => hframes escaped (List.mem_cons_of_mem _ hmem))
            (c := { c with
              buffer := front ++ data ++ tail
              frames := c.frames ++ [frame result] })
            rfl (hfull.trans hlength.symm) htail hlt
        refine ⟨frame body :: done, rest, frame result :: passed, front', unread', rfl, ?_, ?_,
          hfuture, hshort, hsize.trans hlength, ?_⟩
        · rw [List.map_cons, hdone, unescaped_frame, hresult]
          rfl
        · rw [List.length_append, hcount, List.flatten_cons, List.length_append, Nat.add_assoc]
        · rw [hrun, hend]
          simp only [List.append_assoc, List.cons_append, List.nil_append]

/-- When a part of the buffer has not been received, the loop looks at it. -/
theorem processFrames_not_full (hframes : ∀ escaped ∈ frames, Valid escaped) (hstale : stale ≠ []) :
    ∀ {fuel : Nat} {c : RawClient} {front unread : List UInt8},
      c.buffer = front ++ (unread ++ stale) → c.bufferBytes = front.length + unread.length →
      unread ++ future = frames.flatten → unread.length < fuel →
      (finalState ((processFrames fuel front.length).run c)).overran = true := by
  induction frames with
  | nil =>
      intro fuel c front unread hbuffer hbytes hunread hfuel
      obtain ⟨fuel, rfl⟩ : ∃ n, fuel = n + 1 := ⟨fuel - 1, by omega⟩
      have hshort : Short unread [] := (List.append_eq_nil_iff.mp hunread).1
      exact processFrames_overrun hframes hbuffer hstale hbytes hunread hshort fuel
  | cons escaped frames ih =>
      intro fuel c front unread hbuffer hbytes hunread hfuel
      obtain ⟨fuel, rfl⟩ : ∃ n, fuel = n + 1 := ⟨fuel - 1, by omega⟩
      rcases short_or_append hunread with hshort | ⟨tail, rfl, htail⟩
      · exact processFrames_overrun hframes hbuffer hstale hbytes hunread hshort fuel
      · obtain ⟨body, result, rfl, hbody, hresult⟩ := hframes escaped List.mem_cons_self
        rw [List.length_append] at hbytes
        rw [List.append_assoc] at hbuffer
        obtain ⟨data, hdata, hrun⟩ := processFrames_frame hbody hresult hbuffer (by omega) fuel
        rw [List.length_append, length_frame] at hfuel
        rw [hrun]
        refine ih (fun escaped hmem => hframes escaped (List.mem_cons_of_mem _ hmem)) rfl ?_ htail
          (by omega)
        change c.bufferBytes = (front ++ data).length + tail.length
        rw [hbytes, List.length_append, hdata, Nat.add_assoc]

end Loop

/-! ## Reads -/

/-- Between two reads the front of the buffer has the bytes that are not part of
a complete frame. -/
structure Waiting (c : RawClient) (pending : List UInt8) (frames : List (List UInt8)) : Prop where
  bufferBytes_eq : c.bufferBytes = pending.length
  buffer_eq : ∃ stale, c.buffer = pending ++ stale
  short : Short pending frames

section Read

variable {c : RawClient} {pending chunk future : List UInt8} {frames : List (List UInt8)}

/-- The received bytes are together, before what the read has left alone. -/
theorem exists_store (h : Waiting c pending frames) (chunk : List UInt8) :
    ∃ stale, (c.grow.store chunk).buffer = [] ++ ((pending ++ chunk) ++ stale) ∧
      stale.length = c.offered - chunk.length ∧
      (c.grow.store chunk).bufferBytes = pending.length + chunk.length := by
  obtain ⟨stale, hbuffer⟩ := h.buffer_eq
  have hgrow : c.grow.buffer = pending ++ (stale ++
      List.replicate (c.bufferBytes + 0x400 - c.buffer.length) 0) := by
    rw [← List.append_assoc, ← hbuffer]
    rfl
  have hoffered : c.offered = (stale ++
      List.replicate (c.bufferBytes + 0x400 - c.buffer.length) 0).length := by
    rw [RawClient.offered, hgrow, h.bufferBytes_eq, List.length_append, Nat.add_sub_cancel_left]
  refine ⟨(stale ++ List.replicate (c.bufferBytes + 0x400 - c.buffer.length) 0).drop chunk.length,
    ?_, ?_, ?_⟩
  · change c.grow.buffer.take c.bufferBytes ++ (chunk ++
      c.grow.buffer.drop (c.bufferBytes + chunk.length)) = _
    rw [hgrow, h.bufferBytes_eq, List.take_left, ← List.drop_drop, List.drop_left,
      List.append_assoc, List.nil_append]
  · rw [List.length_drop, ← hoffered]
  · change c.bufferBytes + chunk.length = _
    rw [h.bufferBytes_eq]

theorem receive_run (c : RawClient) (chunk : List UInt8) :
    (receive chunk).run c =
      (processFrames ((c.grow.store chunk).buffer.length + 1) 0 >>= fun frameStartOffset =>
        get >>= fun c =>
          if c.bufferBytes < frameStartOffset then
            throw (.logicError "frame start offset is beyond buffer bounds")
          else set (c.discard frameStartOffset)).run (c.grow.store chunk) := rfl

/-- A read that does not fill the buffer makes the handler look past what it
has received. -/
theorem receive_not_full (hframes : ∀ escaped ∈ frames, Valid escaped)
    (h : Waiting c pending frames) (hchunk : chunk.length < c.offered)
    (hstream : (pending ++ chunk) ++ future = frames.flatten) :
    (finalState ((receive chunk).run c)).overran = true := by
  obtain ⟨stale, hbuffer, hstale, hbytes⟩ := exists_store h chunk
  have hne : stale ≠ [] := by
    rw [← List.length_pos_iff]
    omega
  have hbytes' : (c.grow.store chunk).bufferBytes =
      ([] : List UInt8).length + (pending ++ chunk).length := by
    rw [hbytes, List.length_nil, Nat.zero_add, List.length_append]
  have hfuel : (pending ++ chunk).length < (c.grow.store chunk).buffer.length + 1 := by
    have hlength := congrArg List.length hbuffer
    rw [List.nil_append, List.length_append] at hlength
    omega
  rw [receive_run]
  exact finalState_bind (P := fun c : RawClient => c.overran = true)
    (processFrames_not_full hframes hne hbuffer hbytes' hstream hfuel) keeps_overran_discard

/-- The bytes behind the frames that were passed on move to the front. -/
theorem waiting_discard {front unread : List UInt8} (hbuffer : c.buffer = front ++ unread)
    (hbytes : c.bufferBytes = c.buffer.length) (hshort : Short unread frames) :
    Waiting (c.discard front.length) unread frames := by
  rw [hbuffer, List.length_append] at hbytes
  unfold RawClient.discard
  split
  · next heq =>
    obtain rfl : unread = [] := by
      rw [← List.length_eq_zero_iff]
      omega
    exact ⟨rfl, ⟨c.buffer, rfl⟩, hshort⟩
  · split
    · have hrest : (c.buffer.drop front.length).take (c.bufferBytes - front.length) = unread := by
        rw [hbuffer, hbytes, List.drop_left, Nat.add_sub_cancel_left, List.take_length]
      refine ⟨?_, ⟨c.buffer.drop unread.length, ?_⟩, hshort⟩
      · change c.bufferBytes - front.length = unread.length
        omega
      · change (c.buffer.drop front.length).take _ ++
          c.buffer.drop ((c.buffer.drop front.length).take _).length = _
        rw [hrest]
    · next hpos =>
      obtain rfl : front = [] := by
        rw [← List.length_eq_zero_iff]
        omega
      rw [List.length_nil, Nat.zero_add] at hbytes
      exact ⟨hbytes, ⟨[], by rw [hbuffer, List.nil_append, List.append_nil]⟩, hshort⟩

theorem overran_discard (c : RawClient) (frameStartOffset : Nat) :
    (c.discard frameStartOffset).overran = c.overran ∧
      (c.discard frameStartOffset).frames = c.frames := by
  unfold RawClient.discard
  split
  · exact ⟨rfl, rfl⟩
  · split <;> exact ⟨rfl, rfl⟩

/-- A read that fills the buffer completes some frames, and the rest waits. -/
theorem receive_full (hframes : ∀ escaped ∈ frames, Valid escaped)
    (h : Waiting c pending frames) (hchunk : chunk.length = c.offered)
    (hstream : (pending ++ chunk) ++ future = frames.flatten) :
    ∃ done rest passed pending' c',
      frames = done ++ rest ∧ done.map unescaped = passed.map some ∧
      pending.length + chunk.length = done.flatten.length + pending'.length ∧
      pending' ++ future = rest.flatten ∧ Waiting c' pending' rest ∧
      c'.overran = c.overran ∧ c'.frames = c.frames ++ passed ∧
      (receive chunk).run c = .ok ⟨⟩ c' := by
  obtain ⟨stale, hbuffer, hstale, hbytes⟩ := exists_store h chunk
  obtain rfl : stale = [] := by
    rw [← List.length_eq_zero_iff]
    omega
  rw [List.append_nil] at hbuffer
  have hfull : (c.grow.store chunk).bufferBytes = (c.grow.store chunk).buffer.length := by
    rw [hbytes, hbuffer, List.nil_append, List.length_append]
  have hfuel : (pending ++ chunk).length < (c.grow.store chunk).buffer.length + 1 := by
    rw [hbuffer, List.nil_append]
    omega
  obtain ⟨done, rest, passed, front, unread, hsplit, hpassed, hcount, hfuture, hshort, hsize,
    hrun⟩ := processFrames_full hframes hbuffer hfull hstream hfuel
  have hbytes' : ({ c.grow.store chunk with
      buffer := front ++ unread
      frames := (c.grow.store chunk).frames ++ passed } : RawClient).bufferBytes =
        (front ++ unread).length := hfull.trans hsize.symm
  obtain ⟨hover, hpassedOn⟩ := overran_discard { c.grow.store chunk with
    buffer := front ++ unread
    frames := (c.grow.store chunk).frames ++ passed } front.length
  refine ⟨done, rest, passed, unread, _, hsplit, hpassed, ?_, hfuture,
    waiting_discard rfl hbytes' hshort, hover, hpassedOn, ?_⟩
  · rw [← hcount, List.length_append]
  · have hin : ¬ (c.grow.store chunk).bufferBytes < front.length := by
      rw [hfull, ← hsize, List.length_append]
      omega
    rw [receive_run]
    refine (run_bind_of_ok hrun).trans ?_
    rw [run_get_bind, if_neg hin]
    rfl

end Read

/-! ## All reads of a connection -/

/-- A property of every read before the handler ends. -/
def Along (P : RawClient → List UInt8 → Prop) : RawClient → List (List UInt8) → Prop
  | _, [] => True
  | c, chunk :: reads =>
      P c chunk ∧ ∀ c', (receive chunk).run c = .ok ⟨⟩ c' → Along P c' reads

/-- Each read gives some bytes, and no more than the buffer has room for. -/
def Offered : RawClient → List (List UInt8) → Prop :=
  Along fun c chunk => chunk ≠ [] ∧ chunk.length ≤ c.offered

/-- Each read fills the buffer. -/
def Fills : RawClient → List (List UInt8) → Prop :=
  Along fun c chunk => chunk.length = c.offered

/-- The handler does not throw, has not looked past what it received, and after
each read has passed on the frames that are complete. -/
def Delivers (frames reads : List (List UInt8)) : Prop :=
  (∃ c, (handle reads).run .start = .ok ⟨⟩ c ∧ c.overran = false) ∧
    ∀ k, (finalState ((handle (reads.take k)).run .start)).frames.map some =
      (completed frames (reads.take k).flatten.length).map unescaped

theorem completed_append (done rest : List (List UInt8)) (size : Nat) :
    completed (done ++ rest) (done.flatten.length + size) = done ++ completed rest size := by
  induction done with
  | nil => rw [List.flatten_nil, List.length_nil, Nat.zero_add, List.nil_append, List.nil_append]
  | cons escaped done ih =>
      have hrest : escaped.length + done.flatten.length + size - escaped.length =
          done.flatten.length + size := by omega
      rw [List.cons_append, completed, List.flatten_cons, List.length_append, if_pos (by omega),
        hrest, ih, List.cons_append]

theorem completed_of_short {unread : List UInt8} {frames : List (List UInt8)}
    (h : Short unread frames) : completed frames unread.length = [] := by
  cases frames with
  | nil => rfl
  | cons escaped frames => exact if_neg (Nat.not_le.mpr h)

theorem completed_flatten (frames : List (List UInt8)) :
    completed frames frames.flatten.length = frames := by
  have h := completed_append frames [] 0
  rwa [List.append_nil, Nat.add_zero, completed, List.append_nil] at h

theorem handle_cons (chunk : List UInt8) (reads : List (List UInt8)) :
    handle (chunk :: reads) = receive chunk >>= fun _ => handle reads := rfl

theorem handle_full {frames reads : List (List UInt8)}
    (hframes : ∀ escaped ∈ frames, Valid escaped) :
    ∀ {c : RawClient} {pending : List UInt8}, Waiting c pending frames → Fills c reads →
      pending ++ reads.flatten = frames.flatten →
      (∃ c', (handle reads).run c = .ok ⟨⟩ c' ∧ c'.overran = c.overran) ∧
        ∀ k, (finalState ((handle (reads.take k)).run c)).frames.map some =
          c.frames.map some ++
            (completed frames (pending.length + (reads.take k).flatten.length)).map unescaped := by
  induction reads generalizing frames with
  | nil =>
      intro c pending h _ _
      refine ⟨⟨c, rfl, rfl⟩, ?_⟩
      intro k
      rw [List.take_nil, List.flatten_nil, List.length_nil, Nat.add_zero,
        completed_of_short h.short, List.map_nil, List.append_nil]
      rfl
  | cons chunk reads ih =>
      intro c pending h hfills hstream
      rw [List.flatten_cons, ← List.append_assoc] at hstream
      obtain ⟨done, rest, passed, pending', c', rfl, hdone, hcount, hfuture, hwaiting, hover,
        hpassed, hrun⟩ := receive_full hframes h hfills.1 hstream
      obtain ⟨⟨c'', hok, hover'⟩, htail⟩ :=
        ih (fun escaped hmem => hframes escaped (List.mem_append_right _ hmem)) hwaiting
          (hfills.2 c' hrun) hfuture
      refine ⟨⟨c'', ?_, hover'.trans hover⟩, ?_⟩
      · rw [handle_cons]
        exact (run_bind_of_ok hrun).trans hok
      · rintro (_ | k)
        · rw [List.take_zero, List.flatten_nil, List.length_nil, Nat.add_zero,
            completed_of_short h.short, List.map_nil, List.append_nil]
          rfl
        · have hsize : pending.length + (chunk :: reads.take k).flatten.length =
              done.flatten.length + (pending'.length + (reads.take k).flatten.length) := by
            rw [List.flatten_cons, List.length_append]
            omega
          rw [List.take_succ_cons, hsize, completed_append, handle_cons, run_bind_of_ok hrun,
            htail k, hpassed, List.map_append, List.map_append, hdone, List.append_assoc]

theorem handle_not_full {frames reads : List (List UInt8)}
    (hframes : ∀ escaped ∈ frames, Valid escaped) :
    ∀ {c : RawClient} {pending : List UInt8}, Waiting c pending frames → Offered c reads →
      ¬ Fills c reads → pending ++ reads.flatten = frames.flatten →
      (finalState ((handle reads).run c)).overran = true := by
  induction reads generalizing frames with
  | nil =>
      intro c pending _ _ hfills _
      exact absurd trivial hfills
  | cons chunk reads ih =>
      intro c pending h hoffered hfills hstream
      rw [List.flatten_cons, ← List.append_assoc] at hstream
      rw [handle_cons]
      by_cases hchunk : chunk.length = c.offered
      · obtain ⟨done, rest, passed, pending', c', rfl, -, -, hfuture, hwaiting, -, -, hrun⟩ :=
          receive_full hframes h hchunk hstream
        have hrest : ¬ Fills c' reads := by
          intro hrest
          refine hfills ⟨hchunk, ?_⟩
          intro c'' hrun'
          obtain ⟨-, rfl⟩ := EStateM.Result.ok.inj (hrun.symm.trans hrun')
          exact hrest
        rw [run_bind_of_ok hrun]
        exact ih (fun escaped hmem => hframes escaped (List.mem_append_right _ hmem)) hwaiting
          (hoffered.2 c' hrun) hrest hfuture
      · have hless := Nat.lt_of_le_of_ne hoffered.1.2 hchunk
        exact finalState_bind (P := fun c : RawClient => c.overran = true)
          (receive_not_full hframes h hless hstream) fun _ => keeps_overran_handle reads

theorem waiting_start {frames : List (List UInt8)} (hframes : ∀ escaped ∈ frames, IsFrame escaped) :
    Waiting .start [] frames := by
  refine ⟨rfl, ⟨_, rfl⟩, ?_⟩
  cases frames with
  | nil => exact rfl
  | cons escaped frames =>
      obtain ⟨body, rfl, -⟩ := hframes escaped List.mem_cons_self
      change 0 < (frame body).length
      rw [length_frame]
      omega

/-- A client's frames are delivered exactly when each of them stands for a
frame and every read fills the buffer. -/
theorem delivers_iff (frames reads : List (List UInt8))
    (hframes : ∀ escaped ∈ frames, IsFrame escaped) (hsplit : reads.flatten = frames.flatten)
    (hreads : Offered .start reads) :
    Delivers frames reads ↔
      (∀ escaped ∈ frames, (unescaped escaped).isSome) ∧ Fills .start reads := by
  have hvalid : (∀ escaped ∈ frames, (unescaped escaped).isSome) →
      ∀ escaped ∈ frames, Valid escaped := by
    intro hsome escaped hmem
    obtain ⟨body, rfl, hbody⟩ := hframes escaped hmem
    have hbodySome := hsome _ hmem
    rw [unescaped_frame, Option.isSome_map] at hbodySome
    obtain ⟨result, hresult⟩ := Option.isSome_iff_exists.mp hbodySome
    exact ⟨body, result, rfl, hbody, hresult⟩
  have hstart := waiting_start hframes
  constructor
  · rintro ⟨⟨c, hrun, hover⟩, hpassed⟩
    have hsome : ∀ escaped ∈ frames, (unescaped escaped).isSome := by
      intro escaped hmem
      have hall := hpassed reads.length
      rw [List.take_length, hsplit, completed_flatten] at hall
      have hmem' := List.mem_map_of_mem (f := unescaped) hmem
      rw [← hall] at hmem'
      obtain ⟨result, -, hresult⟩ := List.mem_map.mp hmem'
      rw [← hresult]
      rfl
    refine ⟨hsome, ?_⟩
    by_contra hfills
    have hlooked := handle_not_full (hvalid hsome) hstart hreads hfills hsplit
    rw [hrun] at hlooked
    exact Bool.false_ne_true (hover.symm.trans hlooked)
  · rintro ⟨hsome, hfills⟩
    obtain ⟨⟨c, hrun, hover⟩, hpassed⟩ := handle_full (hvalid hsome) hstart hfills hsplit
    refine ⟨⟨c, hrun, hover⟩, ?_⟩
    intro k
    rw [hpassed k, List.length_nil, Nat.zero_add]
    rfl

theorem delivers_iff_empty_frame :
    Delivers [[0x7E, 0x7E]] [[0x7E, 0x7E]] ↔
      (∀ escaped ∈ [[0x7E, 0x7E]], (unescaped escaped).isSome) ∧
        Fills .start [[0x7E, 0x7E]] :=
  delivers_iff [[0x7E, 0x7E]] [[0x7E, 0x7E]] (by
    intro escaped hmem
    obtain rfl := List.mem_singleton.mp hmem
    exact ⟨[], rfl, List.not_mem_nil⟩) rfl ⟨⟨List.cons_ne_nil _ _, by decide +kernel⟩, fun _ _ => trivial⟩

/-- A frame that is read as a whole ends the connection. -/
theorem handle_empty_frame :
    outcome ((handle [[0x7E, 0x7E]]).run .start) =
        .error (.runtimeError "HDLC frame does not begin with 7E") ∧
      ¬ Delivers [[0x7E, 0x7E]] [[0x7E, 0x7E]] := by
  have hthrows : outcome ((handle [[0x7E, 0x7E]]).run .start) =
      .error (.runtimeError "HDLC frame does not begin with 7E") := by
    decide +kernel
  refine ⟨hthrows, ?_⟩
  rintro ⟨⟨c, hrun, -⟩, -⟩
  rw [hrun] at hthrows
  cases hthrows

end HuntersGuild.HdlcReassembly
