import Mathlib.Data.List.GetD
import Mathlib.Data.Nat.Basic
import Mathlib.Order.Basic
import Mathlib.Tactic.SplitIfs

/-!
Color escapes in texts: `add_color` puts in the characters that clients use, and
`remove_color` takes them out.
-/

namespace HuntersGuild.ColorEscapes

/-- What the character after a percent sign is replaced with. -/
def escaped (c : UInt8) : UInt8 :=
  if c = 's'.toUInt8 then '$'.toUInt8
  else if c = '%'.toUInt8 then '%'.toUInt8
  else if c = 'n'.toUInt8 then '#'.toUInt8
  else c

/-- What `add_color` writes for the memory at `src`; `max` is the number of
characters that it may still read. The character after a percent sign is read
in any case. -/
def addColor : List UInt8 → Nat → List UInt8
  | [], _ => []
  | c :: src, max =>
    if max = 0 ∨ c = 0 then []
    else if c = '$'.toUInt8 then '\t'.toUInt8 :: addColor src (max - 1)
    else if c = '#'.toUInt8 then '\n'.toUInt8 :: addColor src (max - 1)
    else if c = '%'.toUInt8 then
      match src with
      | [] => []
      | c :: src => if c = 0 then [] else escaped c :: addColor src (max - 2)
    else c :: addColor src (max - 1)

/-- `remove_color`, likewise. -/
def removeColor : List UInt8 → Nat → List UInt8
  | [], _ => []
  | c :: src, max =>
    if max = 0 ∨ c = 0 then []
    else if c = '$'.toUInt8 then '%'.toUInt8 :: 's'.toUInt8 :: removeColor src (max - 1)
    else if c = '%'.toUInt8 then '%'.toUInt8 :: '%'.toUInt8 :: removeColor src (max - 1)
    else if c = '#'.toUInt8 then '%'.toUInt8 :: 'n'.toUInt8 :: removeColor src (max - 1)
    else if c = '\t'.toUInt8 then '$'.toUInt8 :: removeColor src (max - 1)
    else if c = '\n'.toUInt8 then '#'.toUInt8 :: removeColor src (max - 1)
    else c :: removeColor src (max - 1)

/-- The loop of `add_color_inplace`, with the offsets of the pointers `a` and `d`. -/
def inplaceLoop (max : Nat) (buf : List UInt8) (a d : Nat) : List UInt8 × Nat :=
  let c := buf.getD a 0
  if max = 0 ∨ c = 0 then (buf, d)
  else if c = '$'.toUInt8 then inplaceLoop (max - 1) (buf.set d '\t'.toUInt8) (a + 1) (d + 1)
  else if c = '#'.toUInt8 then inplaceLoop (max - 1) (buf.set d '\n'.toUInt8) (a + 1) (d + 1)
  else if c = '%'.toUInt8 then
    let c := buf.getD (a + 1) 0
    if c = 0 then (buf, d)
    else inplaceLoop (max - 2) (buf.set d (escaped c)) (a + 2) (d + 1)
  else inplaceLoop (max - 1) (buf.set d c) (a + 1) (d + 1)
termination_by max
decreasing_by all_goals omega

def addColorInplace (buf : List UInt8) (max : Nat) : List UInt8 × Nat :=
  let (buf, d) := inplaceLoop max buf 0 0
  (buf.set d 0, d)

/-- The functions on `std::string`, whose data ends with a NUL character. -/
def addColorString (s : List UInt8) : List UInt8 :=
  addColor (s ++ [0]) s.length

def removeColorString (s : List UInt8) : List UInt8 :=
  removeColor (s ++ [0]) s.length

/-- The string is resized to the length that the function returns. -/
def addColorInplaceString (s : List UInt8) : List UInt8 :=
  let (buf, d) := addColorInplace (s ++ [0]) s.length
  buf.take d

section Branches

variable {c : UInt8} {src : List UInt8} {max : Nat}

theorem addColor_of_stop (h : max = 0 ∨ c = 0) : addColor (c :: src) max = [] := by
  rw [addColor.eq_def]
  exact if_pos h

theorem addColor_dollar : addColor ('$'.toUInt8 :: src) (max + 1) = '\t'.toUInt8 :: addColor src max := by
  rw [addColor.eq_def]
  exact (if_neg (not_or.mpr ⟨max.succ_ne_zero, by decide⟩)).trans (if_pos rfl)

theorem addColor_hash : addColor ('#'.toUInt8 :: src) (max + 1) = '\n'.toUInt8 :: addColor src max := by
  rw [addColor.eq_def]
  dsimp only
  rw [if_neg (not_or.mpr ⟨max.succ_ne_zero, by decide⟩), if_neg (by decide), if_pos rfl,
    Nat.add_sub_cancel]

theorem addColor_percent (hc : c ≠ 0) :
    addColor ('%'.toUInt8 :: c :: src) (max + 2) = escaped c :: addColor src max := by
  rw [addColor.eq_def]
  dsimp only
  rw [if_neg (not_or.mpr ⟨Nat.succ_ne_zero _, by decide⟩), if_neg (by decide), if_neg (by decide),
    if_pos rfl, if_neg hc, Nat.add_sub_cancel]

theorem addColor_plain (hc : c ≠ 0) (hdollar : c ≠ '$'.toUInt8) (hhash : c ≠ '#'.toUInt8)
    (hpercent : c ≠ '%'.toUInt8) : addColor (c :: src) (max + 1) = c :: addColor src max := by
  rw [addColor.eq_def]
  dsimp only
  rw [if_neg (not_or.mpr ⟨max.succ_ne_zero, hc⟩), if_neg hdollar, if_neg hhash, if_neg hpercent,
    Nat.add_sub_cancel]

end Branches

section RoundTrip

/-- What `remove_color` writes for a character. -/
def removed (c : UInt8) : List UInt8 :=
  if c = '$'.toUInt8 then ['%'.toUInt8, 's'.toUInt8]
  else if c = '%'.toUInt8 then ['%'.toUInt8, '%'.toUInt8]
  else if c = '#'.toUInt8 then ['%'.toUInt8, 'n'.toUInt8]
  else if c = '\t'.toUInt8 then ['$'.toUInt8]
  else if c = '\n'.toUInt8 then ['#'.toUInt8]
  else [c]

theorem removeColor_append (s rest : List UInt8) (h : 0 ∉ s) :
    removeColor (s ++ 0 :: rest) s.length = s.flatMap removed := by
  induction s with
  | nil => rfl
  | cons c s ih =>
      rw [List.mem_cons, not_or] at h
      rw [List.cons_append, removeColor, if_neg (by simpa using Ne.symm h.1), List.length_cons,
        Nat.add_sub_cancel, ih h.2, List.flatMap_cons, removed]
      split_ifs <;> rfl

theorem addColor_removed {c : UInt8} (hc : c ≠ 0) (src : List UInt8) (max : Nat) :
    addColor (removed c ++ src) (max + (removed c).length) = c :: addColor src max := by
  unfold removed
  split_ifs with hdollar hpercent hhash htab hnewline
  · exact (addColor_percent (by decide)).trans (by rw [hdollar]; rfl)
  · exact (addColor_percent (by decide)).trans (by rw [hpercent]; rfl)
  · exact (addColor_percent (by decide)).trans (by rw [hhash]; rfl)
  · rw [htab]
    exact addColor_dollar
  · rw [hnewline]
    exact addColor_hash
  · exact addColor_plain hc hdollar hhash hpercent

theorem addColor_flatMap_removed (s : List UInt8) (h : 0 ∉ s) (rest : List UInt8) :
    addColor (s.flatMap removed ++ 0 :: rest) (s.flatMap removed).length = s := by
  induction s with
  | nil => exact addColor_of_stop (.inl rfl)
  | cons c s ih =>
      rw [List.mem_cons, not_or] at h
      rw [List.flatMap_cons, List.append_assoc, List.length_append, Nat.add_comm,
        addColor_removed (Ne.symm h.1), ih h.2]

theorem addColorString_removeColorString {s : List UInt8} (h : 0 ∉ s) :
    addColorString (removeColorString s) = s := by
  rw [removeColorString, removeColor_append s [] h]
  exact addColor_flatMap_removed s h []

end RoundTrip

section Inplace

/-- The pointer `d` is not past `a`, and the string ends at or after `a`. -/
structure Reads (buf : List UInt8) (a d : Nat) : Prop where
  le : d ≤ a
  terminated : 0 ∈ buf.drop a

variable {buf : List UInt8} {a d : Nat}

theorem Reads.lt_length (h : Reads buf a d) : a < buf.length := by
  have hpos := List.length_pos_of_mem h.terminated
  rw [List.length_drop] at hpos
  omega

theorem Reads.drop_eq (h : Reads buf a d) : buf.drop a = buf.getD a 0 :: buf.drop (a + 1) := by
  rw [List.getD_eq_getElem _ _ h.lt_length]
  exact List.drop_eq_getElem_cons h.lt_length

/-- A character that is not the terminator may be passed. -/
theorem Reads.succ (h : Reads buf a d) (hc : buf.getD a 0 ≠ 0) : Reads buf (a + 1) d := by
  refine ⟨h.le.trans (Nat.le_succ a), ?_⟩
  have hmem := h.terminated
  rw [h.drop_eq, List.mem_cons] at hmem
  exact hmem.resolve_left hc.symm

/-- What is written is not read any more. -/
theorem Reads.set (h : Reads buf a d) (hlt : d < a) (v : UInt8) :
    Reads (buf.set d v) a (d + 1) ∧ (buf.set d v).drop a = buf.drop a := by
  have hdrop : (buf.set d v).drop a = buf.drop a := List.drop_set_of_lt hlt
  refine ⟨⟨hlt, ?_⟩, hdrop⟩
  rw [hdrop]
  exact h.terminated

/-- The loop has written a string in place of what it has read. -/
structure Written (buf : List UInt8) (d : Nat) (out : List UInt8) (r : List UInt8 × Nat) : Prop where
  lt_length : r.2 < r.1.length
  take_eq : r.1.take r.2 = buf.take d ++ out

theorem Written.nil (h : Reads buf a d) : Written buf d [] (buf, d) :=
  ⟨h.le.trans_lt h.lt_length, (List.append_nil _).symm⟩

theorem Written.cons {v : UInt8} {out : List UInt8} {r : List UInt8 × Nat} (hlt : d < buf.length)
    (h : Written (buf.set d v) (d + 1) out r) : Written buf d (v :: out) r := by
  refine ⟨h.lt_length, h.take_eq.trans ?_⟩
  rw [List.take_succ_eq_append_getElem (by rwa [List.length_set]), List.getElem_set_self,
    List.take_set_of_le (Nat.le_refl d), List.append_assoc, List.singleton_append]

theorem written_inplaceLoop {max : Nat} (h : Reads buf a d) :
    Written buf d (addColor (buf.drop a) max) (inplaceLoop max buf a d) := by
  induction max using Nat.strongRecOn generalizing buf a d with
  | _ max ih =>
      have hstep (v : UInt8) {a' max' : Nat} (hmax : max' < max) (hlt : d < a') (h' : Reads buf a' d) :
          Written buf d (v :: addColor (buf.drop a') max') (inplaceLoop max' (buf.set d v) a' (d + 1)) := by
        rcases h'.set hlt v with ⟨hset, hdrop⟩
        have hrest := ih max' hmax hset
        rw [hdrop] at hrest
        exact hrest.cons (h.le.trans_lt h.lt_length)
      rw [h.drop_eq, inplaceLoop, addColor.eq_def]
      dsimp only
      by_cases hstop : max = 0 ∨ buf.getD a 0 = 0
      · rw [if_pos hstop, if_pos hstop]
        exact Written.nil h
      · rw [if_neg hstop, if_neg hstop]
        rw [not_or] at hstop
        have hnext := h.succ hstop.2
        have hlt : d < a + 1 := Nat.lt_succ_of_le h.le
        split_ifs with hdollar hhash hpercent hend
        · exact hstep _ (by omega) hlt hnext
        · exact hstep _ (by omega) hlt hnext
        · rw [hnext.drop_eq]
          dsimp only
          rw [if_pos hend]
          exact Written.nil h
        · rw [hnext.drop_eq]
          dsimp only
          rw [if_neg hend]
          exact hstep _ (by omega) (hlt.trans (Nat.lt_succ_self _)) (hnext.succ hend)
        · exact hstep _ (by omega) hlt hnext

end Inplace

section Results

theorem reads_terminated (text rest : List UInt8) : Reads (text ++ 0 :: rest) 0 0 :=
  ⟨Nat.le_refl 0, List.mem_append_right text List.mem_cons_self⟩

/-- The string in the buffer, its terminator and its length. -/
structure Holds (out : List UInt8) (r : List UInt8 × Nat) : Prop where
  length_eq : r.2 = out.length
  take_eq : r.1.take r.2 = out
  terminated : r.1[r.2]? = some 0

theorem Written.holds {buf out : List UInt8} {r : List UInt8 × Nat} (h : Written buf 0 out r) :
    Holds out (r.1.set r.2 0, r.2) := by
  have htake : r.1.take r.2 = out := h.take_eq
  have hset : (r.1.set r.2 0).take r.2 = out := by
    rw [List.take_set_of_le (Nat.le_refl r.2), htake]
  refine ⟨?_, hset, ?_⟩
  · rw [← htake, List.length_take, Nat.min_eq_left h.lt_length.le]
  · exact List.getElem?_set_self h.lt_length

theorem holds_addColorInplace (text rest : List UInt8) (max : Nat) :
    Holds (addColor (text ++ 0 :: rest) max) (addColorInplace (text ++ 0 :: rest) max) :=
  (written_inplaceLoop (reads_terminated text rest)).holds

/-- `add_color` undoes `remove_color`, and both implementations of it agree. -/
theorem addColor_roundTrip :
    (∀ s : List UInt8, 0 ∉ s → addColorString (removeColorString s) = s) ∧
      (∀ (text rest : List UInt8) (max : Nat),
        Holds (addColor (text ++ 0 :: rest) max) (addColorInplace (text ++ 0 :: rest) max)) ∧
      ∀ s : List UInt8, addColorInplaceString s = addColorString s := by
  refine ⟨fun s => addColorString_removeColorString, holds_addColorInplace, ?_⟩
  intro s
  exact (holds_addColorInplace s [] s.length).take_eq

end Results

end HuntersGuild.ColorEscapes
