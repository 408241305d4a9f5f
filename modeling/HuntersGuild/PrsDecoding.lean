import HuntersGuild.PrsDecompression

/-!
The decompressor executes the commands of a stream: what it reads is a list of
commands, and what it writes is their output.
-/

namespace HuntersGuild.PrsDecoding

open HuntersGuild.ExceptionRules
open HuntersGuild.FuelLoop
open HuntersGuild.InterleavedStream
open HuntersGuild.SlidingCopy
open HuntersGuild.ByteStreams
open HuntersGuild.PrsCommands
open HuntersGuild.PrsDecompression

theorem and_seven (a : Nat) : a &&& 7 = a % 8 :=
  Nat.and_two_pow_sub_one_eq_mod a 3

/-- The offset and size fields that are read back from `offsetItems`. -/
theorem offset_fields {distance sizeField : Nat} (hdistance : 1 ≤ distance ∧ distance ≤ 0x1FFF)
    (hsize : sizeField < 8) :
    let a := (0x2000 - distance) * 8 + sizeField
    ((UInt8.ofNat (a % 0x100)).toNat ||| (UInt8.ofNat (a / 0x100)).toNat <<< 8) >>> 3 =
        0x2000 - distance ∧
      ((UInt8.ofNat (a % 0x100)).toNat ||| (UInt8.ofNat (a / 0x100)).toNat <<< 8) &&& 7 =
        sizeField := by
  intro a
  have ha : a < 0x10000 := by omega
  have hlow : (UInt8.ofNat (a % 0x100)).toNat = a % 0x100 := by
    rw [UInt8.toNat_ofNat']
    omega
  have hhigh : (UInt8.ofNat (a / 0x100)).toNat = a / 0x100 := by
    rw [UInt8.toNat_ofNat']
    omega
  rw [hlow, hhigh, two_bytes_or (by omega), and_seven, Nat.shiftRight_eq_div_pow]
  omega

/-- The copy commands, without the control bit 0 with which they all begin. -/
inductive CopyItems : Nat → Nat → List (Item UInt8) → Prop where
  | shortCopy {distance count : Nat} (hdistance : 1 ≤ distance ∧ distance ≤ 0x100)
      (hcount : 2 ≤ count ∧ count ≤ 5) :
      CopyItems distance count
        [.control false, .control ((count - 2).testBit 1), .control ((count - 2).testBit 0),
          .data (UInt8.ofNat (0x100 - distance))]
  | longCopy {distance count : Nat} (hdistance : 1 ≤ distance ∧ distance ≤ 0x1FFF)
      (hcount : 3 ≤ count ∧ count ≤ 9) :
      CopyItems distance count (.control true :: offsetItems distance (count - 2))
  | extendedCopy {distance count : Nat} (hdistance : 1 ≤ distance ∧ distance ≤ 0x1FFF)
      (hcount : 1 ≤ count ∧ count ≤ 0x100) :
      CopyItems distance count
        (.control true :: (offsetItems distance 0 ++ [.data (UInt8.ofNat (count - 1))]))

theorem readCopy_of_reads {cr : ControlStreamReader} {src t : Source UInt8}
    {distance count : Nat} {items : List (Item UInt8)} (hcr : Represents cr src)
    (hitems : CopyItems distance count items) (h : Reads bitsOfByte src items t) :
    ∃ cr', readCopy cr = .ok (some (-(distance : Int), count), cr') ∧ Represents cr' t := by
  cases hitems with
  | shortCopy hdistance hcount =>
      obtain ⟨cr₁, _, h₁, hcr₁, h⟩ := read_of_reads hcr h
      obtain ⟨cr₂, _, h₂, hcr₂, h⟩ := read_of_reads hcr₁ h
      obtain ⟨cr₃, _, h₃, hcr₃, h⟩ := read_of_reads hcr₂ h
      obtain ⟨cr₄, _, h₄, hcr₄, h⟩ := getU8_of_reads hcr₃ h
      cases h
      refine ⟨cr₄, ?_, hcr₄⟩
      have hoffset : ((UInt8.ofNat (0x100 - distance)).toNat : Int) - 0x100 = -distance := by
        rw [UInt8.toNat_ofNat']
        omega
      have hcounts : ∀ count ≤ 5, 2 ≤ count →
          (((count - 2).testBit 1).toNat <<< 1 ||| ((count - 2).testBit 0).toNat) + 2 =
            count := by decide
      simp only [readCopy, h₁, h₂, h₃, h₄, ok_bind, Bool.false_eq_true, if_false, hoffset,
        hcounts count hcount.2 hcount.1, pure_eq_ok]
  | longCopy hdistance hcount =>
      obtain ⟨cr₁, _, h₁, hcr₁, h⟩ := read_of_reads hcr h
      obtain ⟨cr₂, _, h₂, hcr₂, h⟩ := getU8_of_reads hcr₁ h
      obtain ⟨cr₃, _, h₃, hcr₃, h⟩ := getU8_of_reads hcr₂ h
      cases h
      refine ⟨cr₃, ?_, hcr₃⟩
      obtain ⟨hoffset, hsize⟩ := offset_fields hdistance (show count - 2 < 8 by omega)
      simp only [readCopy, h₁, h₂, h₃, ok_bind, if_true, hoffset, hsize]
      rw [if_neg (by omega), if_pos (by omega)]
      simp only [pure_eq_ok, Except.ok.injEq, Prod.mk.injEq, Option.some.injEq, and_true]
      omega
  | extendedCopy hdistance hcount =>
      obtain ⟨cr₁, _, h₁, hcr₁, h⟩ := read_of_reads hcr h
      obtain ⟨cr₂, _, h₂, hcr₂, h⟩ := getU8_of_reads hcr₁ h
      obtain ⟨cr₃, _, h₃, hcr₃, h⟩ := getU8_of_reads hcr₂ h
      obtain ⟨cr₄, _, h₄, hcr₄, h⟩ := getU8_of_reads hcr₃ h
      cases h
      refine ⟨cr₄, ?_, hcr₄⟩
      obtain ⟨hoffset, hsize⟩ := offset_fields hdistance (show 0 < 8 by omega)
      have hn : (UInt8.ofNat (count - 1)).toNat + 1 = count := by
        rw [UInt8.toNat_ofNat']
        omega
      simp only [readCopy, h₁, h₂, h₃, h₄, ok_bind, if_true, hoffset, hsize, hn]
      rw [if_neg (by omega), if_neg (by omega)]
      simp only [pure_eq_ok, Except.ok.injEq, Prod.mk.injEq, Option.some.injEq, and_true]
      omega

/-- A stop command has a zero offset; its size field does not matter. -/
def StopItems (items : List (Item UInt8)) : Prop :=
  ∃ low : UInt8, low.toNat < 8 ∧ items = [.control true, .data low, .data 0]

theorem readCopy_of_stop {cr : ControlStreamReader} {src t : Source UInt8}
    {items : List (Item UInt8)} (hcr : Represents cr src) (hitems : StopItems items)
    (h : Reads bitsOfByte src items t) :
    ∃ cr', readCopy cr = .ok (none, cr') ∧ Represents cr' t := by
  obtain ⟨low, hlow, rfl⟩ := hitems
  obtain ⟨cr₁, _, h₁, hcr₁, h⟩ := read_of_reads hcr h
  obtain ⟨cr₂, _, h₂, hcr₂, h⟩ := getU8_of_reads hcr₁ h
  obtain ⟨cr₃, _, h₃, hcr₃, h⟩ := getU8_of_reads hcr₂ h
  cases h
  refine ⟨cr₃, ?_, hcr₃⟩
  have hzero : (low.toNat ||| (0 : UInt8).toNat <<< 8) >>> 3 = 0 := by
    rw [two_bytes_or (by omega), Nat.shiftRight_eq_div_pow]
    simp
    omega
  simp only [readCopy, h₁, h₂, h₃, ok_bind, if_true, hzero]
  simp

theorem ofNat_eq {v : UInt8} {n : Nat} (h : v.toNat = n) : UInt8.ofNat n = v := by
  rw [← h, UInt8.ofNat_toNat]

/-- The two bytes of an offset field are those that `offsetItems` lists. -/
theorem offsetItems_eq (low high : UInt8) {distance sizeField : Nat}
    (h : (0x2000 - distance) * 8 + sizeField = high.toNat * 0x100 + low.toNat) :
    offsetItems distance sizeField = [.data low, .data high] := by
  have hlow := low.toNat_lt
  rw [offsetItems, h, ofNat_eq (show low.toNat = _ by omega),
    ofNat_eq (show high.toNat = _ by omega)]

theorem reads_of_readCopy {cr cr' : ControlStreamReader} {src : Source UInt8}
    {copy : Option (Int × Nat)} (hcr : Represents cr src) (h : readCopy cr = .ok (copy, cr')) :
    ∃ t items, Represents cr' t ∧ Reads bitsOfByte src items t ∧
      match copy with
      | none => StopItems items
      | some (offset, count) =>
          ∃ distance : Nat, offset = -(distance : Int) ∧ CopyItems distance count items := by
  simp only [readCopy, bind_eq_ok, Prod.exists] at h
  obtain ⟨long, cr₁, h₁, h⟩ := h
  obtain ⟨src₁, hcr₁, hread₁⟩ := reads_of_read hcr h₁
  split at h
  · rename_i hlong
    subst hlong
    simp only [bind_eq_ok, Prod.exists] at h
    obtain ⟨low, cr₂, h₂, high, cr₃, h₃, h⟩ := h
    obtain ⟨src₂, hcr₂, hread₂⟩ := reads_of_getU8 hcr₁ h₂
    obtain ⟨src₃, hcr₃, hread₃⟩ := reads_of_getU8 hcr₂ h₃
    have hread := hread₁.append (hread₂.append hread₃)
    have hlow := low.toNat_lt
    have hhigh := high.toNat_lt
    rw [two_bytes_or hlow, and_seven, Nat.shiftRight_eq_div_pow] at h
    split at h
    · rename_i hzero
      cases h
      refine ⟨src₃, _, hcr₃, hread, low, by omega, ?_⟩
      have hhigh : high = 0 := UInt8.toNat_inj.mp (show high.toNat = 0 by omega)
      rw [hhigh]
      rfl
    · rename_i hnonzero
      split at h
      · cases h
        refine ⟨src₃, _, hcr₃, hread, 0x2000 - (high.toNat * 0x100 + low.toNat) / 8, by omega, ?_⟩
        have hitems : CopyItems (0x2000 - (high.toNat * 0x100 + low.toNat) / 8)
            ((high.toNat * 0x100 + low.toNat) % 8 + 2) _ := .longCopy (by omega) (by omega)
        rw [offsetItems_eq low high (by omega)] at hitems
        exact hitems
      · simp only [bind_eq_ok, Prod.exists] at h
        obtain ⟨n, cr₄, h₄, h⟩ := h
        obtain ⟨src₄, hcr₄, hread₄⟩ := reads_of_getU8 hcr₃ h₄
        have hn := n.toNat_lt
        cases h
        refine ⟨src₄, _, hcr₄, hread.append hread₄,
          0x2000 - (high.toNat * 0x100 + low.toNat) / 8, by omega, ?_⟩
        have hitems : CopyItems (0x2000 - (high.toNat * 0x100 + low.toNat) / 8)
            (n.toNat + 1) _ := .extendedCopy (by omega) (by omega)
        rw [offsetItems_eq low high (by omega), ofNat_eq (show n.toNat = n.toNat + 1 - 1 by omega)] at hitems
        exact hitems
  · rename_i hlong
    rw [Bool.not_eq_true] at hlong
    subst hlong
    simp only [bind_eq_ok, Prod.exists] at h
    obtain ⟨second, cr₂, h₂, first, cr₃, h₃, v, cr₄, h₄, h⟩ := h
    obtain ⟨src₂, hcr₂, hread₂⟩ := reads_of_read hcr₁ h₂
    obtain ⟨src₃, hcr₃, hread₃⟩ := reads_of_read hcr₂ h₃
    obtain ⟨src₄, hcr₄, hread₄⟩ := reads_of_getU8 hcr₃ h₄
    have hv := v.toNat_lt
    cases h
    refine ⟨src₄, _, hcr₄, hread₁.append (hread₂.append (hread₃.append hread₄)),
      0x100 - v.toNat, by omega, ?_⟩
    have hbits : ∀ second first : Bool,
        let count := (second.toNat <<< 1 ||| first.toNat) + 2
        (2 ≤ count ∧ count ≤ 5) ∧ (count - 2).testBit 1 = second ∧
          (count - 2).testBit 0 = first := by decide
    obtain ⟨hcount, hsecond, hfirst⟩ := hbits second first
    have hitems : CopyItems (0x100 - v.toNat) _ _ := .shortCopy (by omega) hcount
    rw [hsecond, hfirst, ofNat_eq (show v.toNat = _ by omega)] at hitems
    exact hitems

theorem command_cases (command : Command) :
    (∃ value, command = .literal value) ∨
      ∃ distance count items, command.items = .control false :: items ∧
        CopyItems distance count items ∧ ∀ out, command.exec out = copyBack distance count out := by
  cases command with
  | literal value => exact .inl ⟨value, rfl⟩
  | shortCopy distance count hdistance hcount =>
      exact .inr ⟨_, _, _, rfl, .shortCopy hdistance hcount, fun _ => rfl⟩
  | longCopy distance count hdistance hcount =>
      exact .inr ⟨_, _, _, rfl, .longCopy hdistance hcount, fun _ => rfl⟩
  | extendedCopy distance count hdistance hcount =>
      exact .inr ⟨_, _, _, rfl, .extendedCopy hdistance hcount, fun _ => rfl⟩

theorem CopyItems.exists_command {distance count : Nat} {items : List (Item UInt8)}
    (h : CopyItems distance count items) :
    ∃ command : Command, command.items = .control false :: items ∧
      ∀ out, command.exec out = copyBack distance count out := by
  cases h with
  | shortCopy hdistance hcount =>
      exact ⟨.shortCopy _ _ hdistance hcount, rfl, fun _ => rfl⟩
  | longCopy hdistance hcount =>
      exact ⟨.longCopy _ _ hdistance hcount, rfl, fun _ => rfl⟩
  | extendedCopy hdistance hcount =>
      exact ⟨.extendedCopy _ _ hdistance hcount, rfl, fun _ => rfl⟩

theorem CopyItems.distance_pos {distance count : Nat} {items : List (Item UInt8)}
    (h : CopyItems distance count items) : 0 < distance := by
  cases h <;> omega

/-- Without a limit the decompressor's copy is the copy of the format. -/
theorem copyBytes_zero (count : Nat) {distance : Nat} {w : List UInt8} (hpos : 0 < distance)
    (hle : distance ≤ w.length) :
    copyBytes 0 count (w.length - distance) w = (extend distance count w, false) := by
  induction count generalizing w with
  | zero => rfl
  | succ count ih =>
      have hlen := append_getElem?_toList_length hpos hle
      have hrec := ih (w := w ++ w[w.length - distance]?.toList) (by omega)
      rw [hlen, show w.length + 1 - distance = w.length - distance + 1 by omega] at hrec
      rw [copyBytes, if_neg (by simp), hrec]
      rfl

theorem CopyItems.dataCount_pos {distance count : Nat} {items : List (Item UInt8)}
    (h : CopyItems distance count items) : 0 < dataCount items := by
  cases h <;> simp [dataCount, offsetItems]

/-- One pass of the loop executes one command. -/
theorem prsDecompressBody_of_reads (allowUnterminated : Bool) {s : DecompressState}
    {src t : Source UInt8} {command : Command} {w : List UInt8} (hcr : Represents s.cr src)
    (h : Reads bitsOfByte src command.items t) (hexec : command.exec s.w = some w) :
    ∃ cr, prsDecompressBody 0 allowUnterminated s = .next ⟨w, cr⟩ ∧ Represents cr t := by
  rcases command_cases command with ⟨value, rfl⟩ | ⟨distance, count, items, hitems, hcopy, hback⟩
  · have heof := eof_of_reads hcr h (by simp [dataCount, Command.items])
    obtain ⟨cr₁, _, h₁, hcr₁, h⟩ := read_of_reads hcr h
    obtain ⟨cr₂, _, h₂, hcr₂, h⟩ := getU8_of_reads hcr₁ h
    cases h
    obtain rfl := Option.some.inj hexec
    refine ⟨cr₂, ?_, hcr₂⟩
    simp [prsDecompressBody, heof, h₁, h₂]
  · rw [hitems] at h
    have heof := eof_of_reads hcr h hcopy.dataCount_pos
    obtain ⟨cr₁, _, h₁, hcr₁, h⟩ := read_of_reads hcr h
    obtain ⟨cr₂, h₂, hcr₂⟩ := readCopy_of_reads hcr₁ hcopy h
    have hpos := hcopy.distance_pos
    rw [hback, copyBack] at hexec
    split at hexec
    · rename_i hle
      obtain rfl := Option.some.inj hexec
      refine ⟨cr₂, ?_, hcr₂⟩
      have hread : ((s.w.length : Int) + -(distance : Int)).toNat = s.w.length - distance := by
        omega
      simp only [prsDecompressBody, heof, h₁, h₂, ok_bind, Bool.false_eq_true, if_false]
      rw [if_neg (by omega), hread, copyBytes_zero count hpos hle]
      rfl
    · cases hexec

theorem prsDecompressBody_of_stop (allowUnterminated : Bool) {s : DecompressState}
    {src t : Source UInt8} {items : List (Item UInt8)} (hcr : Represents s.cr src)
    (hitems : StopItems items) (h : Reads bitsOfByte src (.control false :: items) t) :
    ∃ offset, prsDecompressBody 0 allowUnterminated s = .done (.ok ⟨s.w, offset⟩) := by
  have heof := eof_of_reads hcr h (by obtain ⟨low, -, rfl⟩ := hitems; simp [dataCount])
  obtain ⟨cr₁, _, h₁, hcr₁, h⟩ := read_of_reads hcr h
  obtain ⟨cr₂, h₂, -⟩ := readCopy_of_stop hcr₁ hitems h
  refine ⟨cr₂.r.offset, ?_⟩
  simp [prsDecompressBody, heof, h₁, h₂]

theorem reaches_of_reads (allowUnterminated : Bool) {s : DecompressState} {src t : Source UInt8}
    {commands : List Command} {w : List UInt8} (hcr : Represents s.cr src)
    (h : Reads bitsOfByte src (itemsOf commands) t) (hexec : execAll commands s.w = some w) :
    ∃ cr, Reaches (prsDecompressBody 0 allowUnterminated) s ⟨w, cr⟩ ∧ Represents cr t := by
  induction commands generalizing s src with
  | nil =>
      obtain rfl := Option.some.inj hexec
      cases h
      exact ⟨s.cr, .refl, hcr⟩
  | cons command commands ih =>
      obtain ⟨mid, hhead, htail⟩ := Reads.of_append h
      simp only [execAll, List.foldlM_cons, Option.bind_eq_bind, Option.bind_eq_some_iff] at hexec
      obtain ⟨w', hexec', hexec⟩ := hexec
      obtain ⟨cr', hgo, hcr'⟩ := prsDecompressBody_of_reads allowUnterminated hcr hhead hexec'
      obtain ⟨cr, hreach, hcr⟩ := ih (s := ⟨w', cr'⟩) hcr' htail hexec
      exact ⟨cr, .head hgo hreach, hcr⟩

/-- A stream that begins with these commands and a stop command decompresses
to what they write. -/
theorem prsDecompress_of_reads (allowUnterminated : Bool) {data out : List UInt8}
    {commands : List Command} {t : Source UInt8}
    (h : Reads bitsOfByte ⟨[], data⟩ (itemsOf commands ++ stopItems) t)
    (hexec : execAll commands [] = some out) :
    prsDecompress data 0 allowUnterminated = .ok out := by
  obtain ⟨mid, hcommands, hstop⟩ := Reads.of_append h
  obtain ⟨cr, hreach, hcr⟩ :=
    reaches_of_reads (s := ⟨[], .ofBytes data⟩) allowUnterminated (represents_ofBytes data)
      hcommands hexec
  obtain ⟨offset, hdone⟩ := prsDecompressBody_of_stop (s := ⟨out, cr⟩) allowUnterminated hcr
    ⟨0, by decide, rfl⟩ hstop
  obtain ⟨r, hrun⟩ := exists_run_prsDecompressBody data 0 allowUnterminated
  have hr := run_of_reaches hreach hdone hrun
  simp [prsDecompress, prsDecompressWithMeta, hrun, hr, pure_eq_ok]

theorem reads_of_prsDecompressBody {allowUnterminated : Bool} {s s' : DecompressState}
    {src : Source UInt8} (hcr : Represents s.cr src)
    (h : prsDecompressBody 0 allowUnterminated s = .next s') :
    ∃ command t, Reads bitsOfByte src (Command.items command) t ∧
      command.exec s.w = some s'.w ∧ Represents s'.cr t := by
  rcases prsDecompressBody_next h with ⟨cr, v, hread, hget, hw⟩ |
    ⟨cr, offset, count, hread, hcopy, hbegin, -, hbytes⟩
  · obtain ⟨src₁, hcr₁, h₁⟩ := reads_of_read hcr hread
    obtain ⟨src₂, hcr₂, h₂⟩ := reads_of_getU8 hcr₁ hget
    exact ⟨.literal v, src₂, h₁.append h₂, congrArg some hw.symm, hcr₂⟩
  · obtain ⟨src₁, hcr₁, h₁⟩ := reads_of_read hcr hread
    obtain ⟨src₂, items, hcr₂, h₂, distance, rfl, hitems⟩ := reads_of_readCopy hcr₁ hcopy
    obtain ⟨command, hcommand, hback⟩ := hitems.exists_command
    have hle : distance ≤ s.w.length := by omega
    refine ⟨command, src₂, ?_, ?_, hcr₂⟩
    · rw [hcommand]
      exact h₁.append h₂
    · have hpos := hitems.distance_pos
      rw [show ((s.w.length : Int) + -(distance : Int)).toNat = s.w.length - distance by omega,
        copyBytes_zero count hpos hle] at hbytes
      rw [hback, copyBack, if_pos hle, (Prod.mk.inj hbytes).1]

theorem reads_of_reaches {allowUnterminated : Bool} {s s' : DecompressState}
    {src : Source UInt8} (hcr : Represents s.cr src)
    (h : Reaches (prsDecompressBody 0 allowUnterminated) s s') :
    ∃ commands t, Reads bitsOfByte src (itemsOf commands) t ∧
      execAll commands s.w = some s'.w ∧ Represents s'.cr t := by
  induction h with
  | refl => exact ⟨[], src, .nil src, rfl, hcr⟩
  | tail _ hgo ih =>
      obtain ⟨commands, t, hreads, hexec, ht⟩ := ih
      obtain ⟨command, t', hreads', hexec', ht'⟩ := reads_of_prsDecompressBody ht hgo
      refine ⟨commands ++ [command], t', ?_, ?_, ht'⟩
      · rw [itemsOf_concat]
        exact hreads.append hreads'
      · rw [execAll_concat, hexec]
        exact hexec'

/-- The decompressor ends at a stop command, not at the end of the data. -/
def StopTerminated (data : List UInt8) : Prop :=
  ∃ s cr cr', Reaches (prsDecompressBody 0 false) ⟨[], .ofBytes data⟩ s ∧
    s.cr.r.eof = false ∧ s.cr.read = .ok (false, cr) ∧ readCopy cr = .ok (none, cr')

/-- A stop-terminated stream is a list of commands and a stop command. -/
theorem StopTerminated.reads {data out : List UInt8} (h : StopTerminated data)
    (hout : prsDecompress data 0 false = .ok out) :
    ∃ commands stop t, Reads bitsOfByte ⟨[], data⟩ (itemsOf commands ++ stop) t ∧
      controlCount stop = 2 ∧ dataCount stop = 2 ∧ execAll commands [] = some out := by
  obtain ⟨s, cr, cr', hreach, heof, hread, hcopy⟩ := h
  obtain ⟨commands, t, hreads, hexec, ht⟩ := reads_of_reaches (represents_ofBytes data) hreach
  obtain ⟨src₁, hcr₁, h₁⟩ := reads_of_read ht hread
  obtain ⟨src₂, items, hcr₂, h₂, hstop⟩ := reads_of_readCopy hcr₁ hcopy
  have hdone : prsDecompressBody 0 false s = .done (.ok ⟨s.w, cr'.r.offset⟩) := by
    simp [prsDecompressBody, heof, hread, hcopy]
  obtain ⟨r, hrun⟩ := exists_run_prsDecompressBody data 0 false
  have hr := run_of_reaches hreach hdone hrun
  simp only [prsDecompress, prsDecompressWithMeta, hrun, hr, Option.getD_some, ok_bind,
    pure_eq_ok, Except.ok.injEq] at hout
  refine ⟨commands, .control false :: items, src₂, hreads.append (h₁.append h₂), ?_, ?_, ?_⟩
  · obtain ⟨low, -, rfl⟩ := hstop
    rfl
  · obtain ⟨low, -, rfl⟩ := hstop
    rfl
  · rw [← hout]
    exact hexec

end HuntersGuild.PrsDecoding
