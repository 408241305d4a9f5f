import HuntersGuild.ByteStreams

/-!
The options of a SYN: how their area is written, and the loop of the server that
looks for the largest segment size in it.
-/

namespace HuntersGuild.TcpOptions

open HuntersGuild.ByteStreams
open HuntersGuild.ExceptionRules

/-! ## The loop -/

def getU8 (data : List UInt8) (offset : Nat) : Except Exception UInt8 :=
  match data[offset]? with
  | some v => .ok v
  | none => .error (.outOfRange "end of string")

def getU16b (data : List UInt8) (offset : Nat) : Except Exception UInt16 := do
  let high ← getU8 data offset
  let low ← getU8 data (offset + 1)
  return high.toUInt16 <<< 8 ||| low.toUInt16

/-- `StringReader::skip`; the position is a `size_t`. -/
def skip (data : List UInt8) (offset bytes : Nat) : Except Exception Nat :=
  let offset := (offset + bytes) % 2 ^ 64
  if data.length < offset then .error (.outOfRange "skip beyond end of string") else .ok offset

/-- The size of an option, and where its data begin. Only the first two kinds have no
size byte. -/
def readOptionSize (data : List UInt8) (offset : Nat) (option : UInt8) :
    Except Exception (UInt8 × Nat) :=
  if option < 2 then .ok (1, offset + 1)
  else do
    let optionSize ← getU8 data (offset + 1)
    return (optionSize, offset + 2)

/-- One round of the loop: the position after an option, and the largest frame. -/
def readOption (data : List UInt8) (offset maxFrameSize : Nat) : Except Exception (Nat × Nat) := do
  let option ← getU8 data offset
  let (optionSize, offset) ← readOptionSize data offset option
  match option.toNat with
  | 0 => return (data.length, maxFrameSize)
  | 1 => return (offset, maxFrameSize)
  | 2 =>
    if optionSize ≠ 4 then
      throw (.runtimeError "incorrect size for TCP max frame size option")
    else do
      let size ← getU16b data offset
      return (offset + 2, size.toNat)
  | 3 =>
    if optionSize ≠ 3 then
      throw (.runtimeError "incorrect size for TCP window scale option")
    else do
      let offset ← skip data offset optionSize.toNat
      return (offset, maxFrameSize)
  | 4 =>
    if optionSize ≠ 2 then
      throw (.runtimeError "incorrect size for TCP selective ACK supported option")
    else return (offset, maxFrameSize)
  | 5 => do
    -- A size below 2 is negative here, and wraps.
    let offset ← skip data offset ((optionSize.toNat + 2 ^ 64 - 2) % 2 ^ 64)
    return (offset, maxFrameSize)
  | 8 =>
    if optionSize ≠ 10 then
      throw (.runtimeError "incorrect size for TCP timestamps option")
    else do
      let offset ← skip data offset 8
      return (offset, maxFrameSize)
  | _ => throw (.runtimeError "invalid TCP option")

/-- Every round moves on, unless it never does, so that the fuel runs out only in a
loop without end. -/
def readOptions (data : List UInt8) : Nat → Nat → Nat → Except Exception Nat
  | 0, _, _ => .error .nonterminating
  | fuel + 1, offset, maxFrameSize =>
    if data.length ≤ offset then .ok maxFrameSize
    else do
      let (offset, maxFrameSize) ← readOption data offset maxFrameSize
      readOptions data fuel offset maxFrameSize

/-- The largest frame that a SYN with these options allows. -/
def maxFrameSize (data : List UInt8) : Except Exception Nat :=
  readOptions data (data.length + 1) 0 1400

/-- `FrameInfo::tcp_options_size`. -/
def tcpOptionsSize (flags : UInt16) : Nat := (flags >>> 12).toNat * 4 - 20

theorem tcpOptionsSize_le (flags : UInt16) : tcpOptionsSize flags ≤ 40 := by
  have hlt : (flags >>> 12).toNat < 16 := by
    have h := flags.toNat_lt
    rw [UInt16.toNat_shiftRight]
    change flags.toNat >>> 12 < 16
    rw [Nat.shiftRight_eq_div_pow]
    omega
  unfold tcpOptionsSize
  omega

/-! ## Areas -/

/-- An area of options, and its last maximum segment size. The sizes that the data of a
window scale and the size byte of a selective ACK may have are parameters. -/
inductive Area (windowScale : Nat → Prop) (selectiveAck : UInt8 → Prop) :
    List UInt8 → Option UInt16 → Prop where
  | nil : Area windowScale selectiveAck [] none
  | endOfList (padding : List UInt8) : Area windowScale selectiveAck (0 :: padding) none
  | noOperation {rest : List UInt8} {last : Option UInt16}
      (h : Area windowScale selectiveAck rest last) :
      Area windowScale selectiveAck (1 :: rest) last
  | maximumSegmentSize (high low : UInt8) {rest : List UInt8} {last : Option UInt16}
      (h : Area windowScale selectiveAck rest last) :
      Area windowScale selectiveAck (2 :: 4 :: high :: low :: rest)
        (last.or (some (high.toUInt16 <<< 8 ||| low.toUInt16)))
  | windowScale {data rest : List UInt8} {last : Option UInt16} (hsize : windowScale data.length)
      (h : Area windowScale selectiveAck rest last) :
      Area windowScale selectiveAck (3 :: 3 :: (data ++ rest)) last
  | selectiveAckPermitted {rest : List UInt8} {last : Option UInt16}
      (h : Area windowScale selectiveAck rest last) :
      Area windowScale selectiveAck (4 :: 2 :: rest) last
  | selectiveAck {size : UInt8} {data rest : List UInt8} {last : Option UInt16}
      (hsize : selectiveAck size) (hdata : data.length = size.toNat - 2)
      (h : Area windowScale selectiveAck rest last) :
      Area windowScale selectiveAck (5 :: size :: (data ++ rest)) last
  | timestamps {data rest : List UInt8} {last : Option UInt16} (hdata : data.length = 8)
      (h : Area windowScale selectiveAck rest last) :
      Area windowScale selectiveAck (8 :: 10 :: (data ++ rest)) last

/-- Areas as the standard has them: a window scale is one byte, and a selective ACK has
one to four blocks of eight bytes. -/
abbrev WellFormed : List UInt8 → Option UInt16 → Prop :=
  Area (· = 1) fun size => size ∈ [10, 18, 26, 34]

/-- Areas as the loop takes them: it skips three bytes for a window scale, and takes
selective ACKs of any size but 0. -/
abbrev Taken : List UInt8 → Option UInt16 → Prop := Area (· = 3) (· ≠ 0)

theorem Area.mono {windowScale windowScale' : Nat → Prop} {selectiveAck selectiveAck' : UInt8 → Prop}
    {area : List UInt8} {last : Option UInt16} (h : Area windowScale selectiveAck area last)
    (hwindow : ∀ size, windowScale size → windowScale' size)
    (hack : ∀ size, selectiveAck size → selectiveAck' size) :
    Area windowScale' selectiveAck' area last := by
  induction h with
  | nil => exact .nil
  | endOfList padding => exact .endOfList padding
  | noOperation _ ih => exact .noOperation ih
  | maximumSegmentSize high low _ ih => exact .maximumSegmentSize high low ih
  | windowScale hsize _ ih => exact .windowScale (hwindow _ hsize) ih
  | selectiveAckPermitted _ ih => exact .selectiveAckPermitted ih
  | selectiveAck hsize hdata _ ih => exact .selectiveAck (hack _ hsize) hdata ih
  | timestamps hdata _ ih => exact .timestamps hdata ih

/-- A later segment size replaces an earlier one. -/
theorem value_or (last : Option UInt16) (size : UInt16) (maximum : Nat) :
    ((last.or (some size)).map UInt16.toNat).getD maximum =
      (last.map UInt16.toNat).getD size.toNat := by
  cases last with
  | none => rfl
  | some last => rfl

/-! ## Rounds of the loop -/

section Rounds

variable {data rest : List UInt8} {offset maximum : Nat}

theorem getU8_eq_ok {v : UInt8} :
    getU8 data offset = .ok v ↔ ∃ rest, data.drop offset = v :: rest := by
  unfold getU8
  rw [← List.head?_drop]
  cases data.drop offset with
  | nil => simp
  | cons w rest => simp

theorem getU8_of_drop {v : UInt8} (h : data.drop offset = v :: rest) :
    getU8 data offset = .ok v :=
  getU8_eq_ok.mpr ⟨rest, h⟩

theorem drop_succ_of_drop {v : UInt8} (h : data.drop offset = v :: rest) :
    data.drop (offset + 1) = rest := by
  rw [← List.drop_drop, h]
  rfl

theorem drop_of_drop (skipped : List UInt8) (h : data.drop offset = skipped ++ rest) {size : Nat}
    (hsize : skipped.length = size) : data.drop (offset + size) = rest := by
  rw [← List.drop_drop, h, ← hsize, List.drop_left]

theorem length_of_drop {v : UInt8} (h : data.drop offset = v :: rest) :
    data.length = offset + 1 + rest.length := by
  have hlength := congrArg List.length h
  rw [List.length_drop, List.length_cons] at hlength
  omega

theorem getU16b_of_drop {high low : UInt8} (h : data.drop offset = high :: low :: rest) :
    getU16b data offset = .ok (high.toUInt16 <<< 8 ||| low.toUInt16) := by
  rw [getU16b, getU8_of_drop h, ok_bind, getU8_of_drop (drop_succ_of_drop h), ok_bind]
  rfl

theorem readOptionSize_of_drop {option size : UInt8} (hoption : ¬option < 2)
    (h : data.drop offset = option :: size :: rest) :
    readOptionSize data offset option = .ok (size, offset + 2) := by
  rw [readOptionSize, if_neg hoption, getU8_of_drop (drop_succ_of_drop h), ok_bind]
  rfl

theorem skip_of_drop {skipped : List UInt8} (hlength : data.length ≤ 40)
    (hoffset : offset ≤ data.length) (h : data.drop offset = skipped ++ rest) :
    skip data offset skipped.length = .ok (offset + skipped.length) := by
  have hsize : data.length - offset = skipped.length + rest.length := by
    rw [← List.length_drop, h, List.length_append]
  unfold skip
  rw [Nat.mod_eq_of_lt (by omega), if_neg (by omega)]

theorem readOption_endOfList (h : data.drop offset = 0 :: rest) :
    readOption data offset maximum = .ok (data.length, maximum) := by
  rw [readOption, getU8_of_drop h]
  rfl

theorem readOption_noOperation (h : data.drop offset = 1 :: rest) :
    readOption data offset maximum = .ok (offset + 1, maximum) := by
  rw [readOption, getU8_of_drop h]
  rfl

theorem readOption_maximumSegmentSize {high low : UInt8}
    (h : data.drop offset = 2 :: 4 :: high :: low :: rest) :
    readOption data offset maximum =
      .ok (offset + 4, (high.toUInt16 <<< 8 ||| low.toUInt16).toNat) := by
  have hdata : data.drop (offset + 2) = high :: low :: rest :=
    drop_succ_of_drop (drop_succ_of_drop h)
  rw [readOption, getU8_of_drop h, ok_bind, readOptionSize_of_drop (by decide) h, ok_bind]
  change (getU16b data (offset + 2) >>= _) = _
  rw [getU16b_of_drop hdata]
  rfl

theorem readOption_windowScale {skipped : List UInt8} (hlength : data.length ≤ 40)
    (hskipped : skipped.length = 3) (h : data.drop offset = 3 :: 3 :: (skipped ++ rest)) :
    readOption data offset maximum = .ok (offset + 5, maximum) := by
  have hdata : data.drop (offset + 2) = skipped ++ rest :=
    drop_succ_of_drop (drop_succ_of_drop h)
  have hoffset := length_of_drop (drop_succ_of_drop h)
  have hskip := skip_of_drop hlength (by omega) hdata
  rw [hskipped] at hskip
  rw [readOption, getU8_of_drop h, ok_bind, readOptionSize_of_drop (by decide) h, ok_bind]
  change (skip data (offset + 2) 3 >>= _) = _
  rw [hskip]
  rfl

theorem readOption_selectiveAckPermitted (h : data.drop offset = 4 :: 2 :: rest) :
    readOption data offset maximum = .ok (offset + 2, maximum) := by
  rw [readOption, getU8_of_drop h, ok_bind, readOptionSize_of_drop (by decide) h]
  rfl

theorem readOption_selectiveAck {size : UInt8} {skipped : Except Exception Nat}
    (hskip : skip data (offset + 2) ((size.toNat + 2 ^ 64 - 2) % 2 ^ 64) = skipped)
    (h : data.drop offset = 5 :: size :: rest) :
    readOption data offset maximum = skipped >>= fun offset => .ok (offset, maximum) := by
  rw [readOption, getU8_of_drop h, ok_bind, readOptionSize_of_drop (by decide) h, ok_bind,
    ← hskip]
  rfl

/-- From a size below 2 the position goes back. -/
theorem skip_back (hlength : data.length ≤ 40) {size back : Nat} (hsize : size + back = 2)
    (hoffset : offset + 2 ≤ data.length) :
    skip data (offset + 2) ((size + 2 ^ 64 - 2) % 2 ^ 64) = .ok (offset + size) := by
  have hposition : (offset + 2 + (size + 2 ^ 64 - 2) % 2 ^ 64) % 2 ^ 64 = offset + size := by
    omega
  unfold skip
  rw [hposition, if_neg (by omega)]

theorem readOption_selectiveAck_short (hlength : data.length ≤ 40) {size : UInt8}
    (hsize : size.toNat < 2) (h : data.drop offset = 5 :: size :: rest) :
    readOption data offset maximum = .ok (offset + size.toNat, maximum) := by
  have hoffset := length_of_drop (drop_succ_of_drop h)
  exact readOption_selectiveAck
    (skip_back hlength (Nat.add_sub_of_le (Nat.le_of_lt hsize)) (by omega)) h

theorem readOption_selectiveAck_long (hlength : data.length ≤ 40) {size : UInt8}
    {skipped : List UInt8} (hsize : 2 ≤ size.toNat) (hskipped : skipped.length = size.toNat - 2)
    (h : data.drop offset = 5 :: size :: (skipped ++ rest)) :
    readOption data offset maximum = .ok (offset + size.toNat, maximum) := by
  have hlt := size.toNat_lt
  have hoffset := length_of_drop (drop_succ_of_drop h)
  have hdata : data.drop (offset + 2) = skipped ++ rest := drop_of_drop [5, size] h rfl
  have hskip := skip_of_drop hlength (by omega) hdata
  have hposition : offset + 2 + skipped.length = offset + size.toNat := by omega
  have hbytes : skipped.length = (size.toNat + 2 ^ 64 - 2) % 2 ^ 64 := by omega
  rw [hposition, hbytes] at hskip
  exact readOption_selectiveAck hskip h

theorem readOption_timestamps {skipped : List UInt8} (hlength : data.length ≤ 40)
    (hskipped : skipped.length = 8) (h : data.drop offset = 8 :: 10 :: (skipped ++ rest)) :
    readOption data offset maximum = .ok (offset + 10, maximum) := by
  have hdata : data.drop (offset + 2) = skipped ++ rest :=
    drop_succ_of_drop (drop_succ_of_drop h)
  have hoffset := length_of_drop (drop_succ_of_drop h)
  have hskip := skip_of_drop hlength (by omega) hdata
  rw [hskipped] at hskip
  rw [readOption, getU8_of_drop h, ok_bind, readOptionSize_of_drop (by decide) h, ok_bind]
  change (skip data (offset + 2) 8 >>= _) = _
  rw [hskip]
  rfl

end Rounds

/-! ## The loop takes exactly the areas of `Taken` -/

section Loop

variable {data : List UInt8} {last : Option UInt16}

theorem readOptions_step {offset offset' maximum maximum' : Nat} {option : UInt8}
    {rest : List UInt8} (harea : data.drop offset = option :: rest)
    (h : readOption data offset maximum = .ok (offset', maximum')) (fuel : Nat) :
    readOptions data (fuel + 1) offset maximum = readOptions data fuel offset' maximum' := by
  have hlength := length_of_drop harea
  rw [readOptions, if_neg (by omega), h]
  rfl

theorem readOptions_of_length_le {offset : Nat} (h : data.length ≤ offset) (fuel maximum : Nat) :
    readOptions data (fuel + 1) offset maximum = .ok maximum := by
  rw [readOptions, if_pos h]

theorem readOptions_of_taken (hlength : data.length ≤ 40) {area : List UInt8}
    (h : Taken area last) {offset fuel maximum : Nat} (harea : data.drop offset = area)
    (hfuel : area.length < fuel) :
    readOptions data fuel offset maximum = .ok ((last.map UInt16.toNat).getD maximum) := by
  induction h generalizing offset fuel maximum with
  | nil =>
      obtain ⟨fuel, rfl⟩ := Nat.exists_eq_succ_of_ne_zero (Nat.ne_of_gt hfuel)
      exact readOptions_of_length_le (List.drop_eq_nil_iff.mp harea) fuel maximum
  | endOfList padding =>
      obtain ⟨fuel, rfl⟩ : ∃ k, fuel = k + 2 :=
        ⟨fuel - 2, by rw [List.length_cons] at hfuel; omega⟩
      rw [readOptions_step harea (readOption_endOfList harea)]
      exact readOptions_of_length_le (Nat.le_refl _) fuel maximum
  | noOperation _ ih =>
      obtain ⟨fuel, rfl⟩ := Nat.exists_eq_succ_of_ne_zero (Nat.ne_zero_of_lt hfuel)
      rw [readOptions_step harea (readOption_noOperation harea)]
      exact ih (drop_of_drop [1] harea rfl) (Nat.lt_of_succ_lt_succ hfuel)
  | maximumSegmentSize high low _ ih =>
      obtain ⟨fuel, rfl⟩ := Nat.exists_eq_succ_of_ne_zero (Nat.ne_zero_of_lt hfuel)
      rw [readOptions_step harea (readOption_maximumSegmentSize harea), value_or]
      exact ih (drop_of_drop [2, 4, high, low] harea rfl)
        (by simp only [List.length_cons] at hfuel; omega)
  | windowScale hsize _ ih =>
      obtain ⟨fuel, rfl⟩ := Nat.exists_eq_succ_of_ne_zero (Nat.ne_zero_of_lt hfuel)
      rw [readOptions_step harea (readOption_windowScale hlength hsize harea)]
      exact ih (drop_of_drop (3 :: 3 :: _) harea (congrArg (· + 2) hsize))
        (by simp only [List.length_cons, List.length_append] at hfuel; omega)
  | selectiveAckPermitted _ ih =>
      obtain ⟨fuel, rfl⟩ := Nat.exists_eq_succ_of_ne_zero (Nat.ne_zero_of_lt hfuel)
      rw [readOptions_step harea (readOption_selectiveAckPermitted harea)]
      exact ih (drop_of_drop [4, 2] harea rfl)
        (by simp only [List.length_cons] at hfuel; omega)
  | @selectiveAck size skipped rest last hsize hskipped _ ih =>
      have hne : size.toNat ≠ 0 := fun h => hsize (UInt8.toNat_inj.mp h)
      obtain ⟨fuel, rfl⟩ := Nat.exists_eq_succ_of_ne_zero (Nat.ne_zero_of_lt hfuel)
      simp only [List.length_cons, List.length_append] at hfuel
      by_cases htwo : 2 ≤ size.toNat
      · rw [readOptions_step harea (readOption_selectiveAck_long hlength htwo hskipped harea)]
        refine ih (drop_of_drop (5 :: size :: skipped) harea ?_) (by omega)
        simp only [List.length_cons]
        omega
      · -- The size byte is read again, as a no-op.
        obtain rfl : size = 1 := UInt8.toNat_inj.mp (show size.toNat = 1 by omega)
        obtain rfl : skipped = [] := List.eq_nil_of_length_eq_zero hskipped
        obtain ⟨fuel, rfl⟩ : ∃ k, fuel = k + 1 := ⟨fuel - 1, by omega⟩
        have hback (maximum : Nat) : readOption data offset maximum = .ok (offset + 1, maximum) :=
          readOption_selectiveAck_short hlength (by decide) harea
        have hone := drop_succ_of_drop harea
        rw [readOptions_step harea (hback maximum)]
        rw [readOptions_step hone (readOption_noOperation hone)]
        exact ih (drop_of_drop [5, 1] harea rfl) (by omega)
  | timestamps hdata _ ih =>
      obtain ⟨fuel, rfl⟩ := Nat.exists_eq_succ_of_ne_zero (Nat.ne_zero_of_lt hfuel)
      rw [readOptions_step harea (readOption_timestamps hlength hdata harea)]
      exact ih (drop_of_drop (8 :: 10 :: _) harea (congrArg (· + 2) hdata))
        (by simp only [List.length_cons, List.length_append] at hfuel; omega)

theorem readOptionSize_eq_ok {offset position : Nat} {option size : UInt8}
    {rest : List UInt8} (hoption : ¬option < 2) (harea : data.drop offset = option :: rest)
    (h : readOptionSize data offset option = .ok (size, position)) :
    position = offset + 2 ∧ ∃ rest, data.drop offset = option :: size :: rest := by
  rw [readOptionSize, if_neg hoption] at h
  obtain ⟨size, hsize, h⟩ := bind_eq_ok.mp h
  obtain ⟨rest', hrest⟩ := getU8_eq_ok.mp hsize
  cases h
  exact ⟨rfl, rest', by rw [harea, ← hrest, drop_succ_of_drop harea]⟩

theorem skip_eq_ok {offset position bytes : Nat}
    (hbytes : offset + bytes < 2 ^ 64) (h : skip data offset bytes = .ok position) :
    position = offset + bytes ∧ ∃ skipped, skipped.length = bytes ∧
      data.drop offset = skipped ++ data.drop position := by
  unfold skip at h
  dsimp only at h
  rw [Nat.mod_eq_of_lt hbytes] at h
  split at h
  · exact nomatch h
  · cases h
    refine ⟨rfl, (data.drop offset).take bytes, ?_, ?_⟩
    · rw [List.length_take, List.length_drop]
      omega
    · rw [← List.drop_drop, List.take_append_drop]

theorem ok_of_ite_throw {α : Type} {size standard : UInt8} {e : Exception}
    {x : Except Exception α} {a : α} (h : (if size ≠ standard then throw e else x) = .ok a) :
    size = standard ∧ x = .ok a := by
  split at h
  · exact nomatch h
  · case isFalse heq => exact ⟨not_not.mp heq, h⟩

theorem getU16b_eq_ok {offset : Nat} {value : UInt16} (h : getU16b data offset = .ok value) :
    ∃ high low rest, data.drop offset = high :: low :: rest ∧
      value = high.toUInt16 <<< 8 ||| low.toUInt16 := by
  obtain ⟨high, hhigh, h⟩ := bind_eq_ok.mp h
  obtain ⟨low, hlow, h⟩ := bind_eq_ok.mp h
  cases h
  obtain ⟨tail, htail⟩ := getU8_eq_ok.mp hhigh
  obtain ⟨rest, hrest⟩ := getU8_eq_ok.mp hlow
  exact ⟨high, low, rest, by rw [htail, ← hrest, drop_succ_of_drop htail], rfl⟩

theorem taken_selectiveAck (hlength : data.length ≤ 40) {offset position : Nat} {size : UInt8}
    {rest : List UInt8} (harea : data.drop offset = 5 :: size :: rest)
    (hskip : skip data (offset + 2) ((size.toNat + 2 ^ 64 - 2) % 2 ^ 64) = .ok position)
    (htaken : Taken (data.drop position) last) : Taken (5 :: size :: rest) last := by
  have hlt := size.toNat_lt
  have hoffset := length_of_drop (drop_succ_of_drop harea)
  by_cases htwo : 2 ≤ size.toNat
  · have hbytes : (size.toNat + 2 ^ 64 - 2) % 2 ^ 64 = size.toNat - 2 := by omega
    rw [hbytes] at hskip
    obtain ⟨rfl, skipped, hskipped, hrest⟩ := skip_eq_ok (by omega) hskip
    obtain rfl := (drop_succ_of_drop (drop_succ_of_drop harea)).symm.trans hrest
    exact .selectiveAck (fun h => by rw [h] at htwo; exact absurd htwo (by decide)) hskipped htaken
  · rw [skip_back hlength (Nat.add_sub_of_le (by omega : size.toNat ≤ 2)) (by omega)] at hskip
    cases hskip
    obtain hsize | hsize : size.toNat = 0 ∨ size.toNat = 1 := by omega
    · rw [hsize, Nat.add_zero, harea] at htaken
      exact htaken
    · obtain rfl : size = 1 := UInt8.toNat_inj.mp hsize
      rw [hsize, drop_succ_of_drop harea] at htaken
      cases htaken with
      | noOperation htaken =>
          have htaken' : Taken (5 :: 1 :: ([] ++ rest)) last :=
            .selectiveAck (by decide) rfl htaken
          exact htaken'

/-- What a round of the loop takes is one option. -/
theorem taken_of_readOption (hlength : data.length ≤ 40) {offset offset' maximum maximum' : Nat}
    (h : readOption data offset maximum = .ok (offset', maximum'))
    (htaken : Taken (data.drop offset') last) :
    ∃ last', Taken (data.drop offset) last' ∧
      (last'.map UInt16.toNat).getD maximum = (last.map UInt16.toNat).getD maximum' := by
  obtain ⟨option, hoption, hbody⟩ := bind_eq_ok.mp h
  obtain ⟨tail, htail⟩ := getU8_eq_ok.mp hoption
  obtain ⟨⟨size, position⟩, hsize, hround⟩ := bind_eq_ok.mp hbody
  clear h hbody
  dsimp only at hround
  by_cases hsmall : option < 2
  · obtain rfl | rfl : option = 0 ∨ option = 1 := by
      have hlt := UInt8.lt_iff_toNat_lt.mp hsmall
      simp only [← UInt8.toNat_inj]
      change option.toNat = 0 ∨ option.toNat = 1
      change option.toNat < 2 at hlt
      omega
    · cases hround
      rw [List.drop_length] at htaken
      cases htaken
      exact ⟨none, htail ▸ .endOfList tail, rfl⟩
    · cases hsize
      cases hround
      rw [drop_succ_of_drop htail] at htaken
      exact ⟨last, htail ▸ .noOperation htaken, rfl⟩
  · obtain ⟨rfl, rest, hrest⟩ := readOptionSize_eq_ok hsmall htail hsize
    have hdata : data.drop (offset + 2) = rest := drop_of_drop [option, size] hrest rfl
    have hoffset := length_of_drop (drop_succ_of_drop hrest)
    rw [hrest]
    split at hround
    · case h_1 hkind => exact absurd (UInt8.lt_iff_toNat_lt.mpr (hkind ▸ by decide)) hsmall
    · case h_2 hkind => exact absurd (UInt8.lt_iff_toNat_lt.mpr (hkind ▸ by decide)) hsmall
    · case h_3 hkind =>
        obtain rfl : option = 2 := UInt8.toNat_inj.mp hkind
        obtain ⟨rfl, hround⟩ := ok_of_ite_throw hround
        obtain ⟨value, hvalue, hround⟩ := bind_eq_ok.mp hround
        cases hround
        obtain ⟨high, low, rest', hbytes, rfl⟩ := getU16b_eq_ok hvalue
        obtain rfl := hdata.symm.trans hbytes
        have hrest' : data.drop (offset + 2 + 2) = rest' := drop_of_drop [high, low] hbytes rfl
        rw [hrest'] at htaken
        exact ⟨_, .maximumSegmentSize high low htaken, value_or ..⟩
    · case h_4 hkind =>
        obtain rfl : option = 3 := UInt8.toNat_inj.mp hkind
        obtain ⟨rfl, hround⟩ := ok_of_ite_throw hround
        obtain ⟨position, hskip, hround⟩ := bind_eq_ok.mp hround
        cases hround
        obtain ⟨rfl, skipped, hskipped, hbytes⟩ := skip_eq_ok
          (show offset + 2 + 3 < 2 ^ 64 by omega) hskip
        obtain rfl := hdata.symm.trans hbytes
        exact ⟨last, .windowScale hskipped htaken, rfl⟩
    · case h_5 hkind =>
        obtain rfl : option = 4 := UInt8.toNat_inj.mp hkind
        obtain ⟨rfl, hround⟩ := ok_of_ite_throw hround
        cases hround
        exact ⟨last, .selectiveAckPermitted (hdata ▸ htaken), rfl⟩
    · case h_6 hkind =>
        obtain rfl : option = 5 := UInt8.toNat_inj.mp hkind
        obtain ⟨position, hskip, hround⟩ := bind_eq_ok.mp hround
        cases hround
        exact ⟨last, taken_selectiveAck hlength hrest hskip htaken, rfl⟩
    · case h_7 hkind =>
        obtain rfl : option = 8 := UInt8.toNat_inj.mp hkind
        obtain ⟨rfl, hround⟩ := ok_of_ite_throw hround
        obtain ⟨position, hskip, hround⟩ := bind_eq_ok.mp hround
        cases hround
        obtain ⟨rfl, skipped, hskipped, hbytes⟩ := skip_eq_ok
          (show offset + 2 + 8 < 2 ^ 64 by omega) hskip
        obtain rfl := hdata.symm.trans hbytes
        exact ⟨last, .timestamps hskipped htaken, rfl⟩
    · exact nomatch hround

theorem taken_of_readOptions (hlength : data.length ≤ 40) {fuel offset maximum value : Nat}
    (h : readOptions data fuel offset maximum = .ok value) :
    ∃ last, Taken (data.drop offset) last ∧ value = (last.map UInt16.toNat).getD maximum := by
  induction fuel generalizing offset maximum with
  | zero => exact nomatch h
  | succ fuel ih =>
      unfold readOptions at h
      split at h
      · case isTrue hend =>
          cases h
          exact ⟨none, by rw [List.drop_eq_nil_of_le hend]; exact .nil, rfl⟩
      · obtain ⟨⟨offset', maximum'⟩, hround, hrest⟩ := bind_eq_ok.mp h
        obtain ⟨last, htaken, rfl⟩ := ih hrest
        obtain ⟨last', htaken', hvalue⟩ := taken_of_readOption hlength hround htaken
        exact ⟨last', htaken', hvalue.symm⟩

theorem maxFrameSize_eq_ok_iff (hlength : data.length ≤ 40) {value : Nat} :
    maxFrameSize data = .ok value ↔
      ∃ last, Taken data last ∧ value = (last.map UInt16.toNat).getD 1400 := by
  constructor
  · intro h
    exact taken_of_readOptions hlength h
  · rintro ⟨last, htaken, rfl⟩
    exact readOptions_of_taken hlength htaken rfl (Nat.lt_succ_self _)

/-- An area without window scales gives its last maximum segment size. -/
theorem maxFrameSize_of_withoutScales {selectiveAck : UInt8 → Prop}
    (hack : ∀ size, selectiveAck size → size ≠ 0) (hlength : data.length ≤ 40)
    (h : Area (fun _ => False) selectiveAck data last) :
    maxFrameSize data = .ok ((last.map UInt16.toNat).getD 1400) :=
  (maxFrameSize_eq_ok_iff hlength).mpr ⟨last, h.mono (fun _ => False.elim) hack, rfl⟩

/-- The options of a SYN give its last maximum segment size exactly when they give it
with three bytes of data for every window scale. -/
theorem maxFrameSize_iff_taken {flags : UInt16} (hlength : data.length = tcpOptionsSize flags)
    (_h : WellFormed data last) :
    maxFrameSize data = .ok ((last.map UInt16.toNat).getD 1400) ↔
      ∃ taken, Taken data taken ∧
        (taken.map UInt16.toNat).getD 1400 = (last.map UInt16.toNat).getD 1400 := by
  rw [maxFrameSize_eq_ok_iff (hlength ▸ tcpOptionsSize_le flags)]
  simp only [eq_comm]

end Loop

/-- A window scale, then a maximum segment size of 1460. -/
def scaleFirst : List UInt8 := [3, 3, 7, 2, 4, 5, 0xB4, 0]

theorem wellFormed_scaleFirst : WellFormed scaleFirst (some 1460) := by
  have hsize : WellFormed [2, 4, 5, 0xB4, 0] (some 1460) :=
    .maximumSegmentSize 5 0xB4 (.endOfList [])
  exact .windowScale (show [(7 : UInt8)].length = 1 from rfl) hsize

/-- The same, with the padding that most clients write after a window scale. -/
def scalePadded : List UInt8 := [2, 4, 5, 0xB4, 3, 3, 7, 1, 1, 1, 4, 2]

theorem wellFormed_scalePadded : WellFormed scalePadded (some 1460) := by
  have hpadding : WellFormed [1, 1, 1, 4, 2] none :=
    .noOperation (.noOperation (.noOperation (.selectiveAckPermitted .nil)))
  have hscale : WellFormed [3, 3, 7, 1, 1, 1, 4, 2] none :=
    .windowScale (show [(7 : UInt8)].length = 1 from rfl) hpadding
  exact .maximumSegmentSize 5 0xB4 hscale

theorem maxFrameSize_iff_taken_scalePadded :
    (12 = tcpOptionsSize 0x8000 ∧ WellFormed scalePadded (some 1460)) ∧
      (maxFrameSize scalePadded = .ok 1460 ↔
        ∃ taken, Taken scalePadded taken ∧ (taken.map UInt16.toNat).getD 1400 = 1460) :=
  ⟨⟨rfl, wellFormed_scalePadded⟩,
    maxFrameSize_iff_taken (show scalePadded.length = tcpOptionsSize 0x8000 from rfl)
      wellFormed_scalePadded⟩

/-- The loop reads the size 1460 as data of the window scale, and then fails. -/
theorem not_maxFrameSize_scaleFirst :
    ¬ ∀ (flags : UInt16) (data : List UInt8) (last : Option UInt16),
      data.length = tcpOptionsSize flags → WellFormed data last →
        maxFrameSize data = .ok ((last.map UInt16.toNat).getD 1400) := by
  intro h
  have hsize := h 0x7000 scaleFirst (some 1460) rfl wellFormed_scaleFirst
  have hthrow : maxFrameSize scaleFirst = .error (.outOfRange "skip beyond end of string") := by
    decide
  exact nomatch hsize.symm.trans hthrow

end HuntersGuild.TcpOptions
