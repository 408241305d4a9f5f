import Mathlib.Data.List.Basic
import Mathlib.Data.List.Infix

/-!
Streams in which control bits are interleaved with data words. Control bits
are packed into words of their own, and such a word stands in the stream at
the place where its first bit is needed. Words and their bits are arbitrary;
`unpack` lists the bits of a word in the order in which they are used.
-/

namespace HuntersGuild.InterleavedStream

universe u

/-- One thing that a reader of an interleaved stream asks for. -/
inductive Item (α : Type u) where
  | control (bit : Bool)
  | data (word : α)
  deriving DecidableEq

/-- A reader: the unused bits of the current control word, and the words that
have not been read. -/
@[ext] structure Source (α : Type u) where
  pending : List Bool
  input : List α
  deriving DecidableEq

variable {α : Type u} (unpack : α → List Bool)

def Source.readControl : Source α → Option (Bool × Source α)
  | ⟨bit :: pending, input⟩ => some (bit, ⟨pending, input⟩)
  | ⟨[], word :: input⟩ =>
      match unpack word with
      | bit :: pending => some (bit, ⟨pending, input⟩)
      | [] => none
  | ⟨[], []⟩ => none

def Source.readData : Source α → Option (α × Source α)
  | ⟨pending, word :: input⟩ => some (word, ⟨pending, input⟩)
  | ⟨_, []⟩ => none

/-- Asking for the listed kinds of things yields exactly the listed items. -/
inductive Reads : Source α → List (Item α) → Source α → Prop where
  | nil (s : Source α) : Reads s [] s
  | control {s s' t : Source α} {bit : Bool} {items : List (Item α)}
      (head : s.readControl unpack = some (bit, s')) (tail : Reads s' items t) :
      Reads s (.control bit :: items) t
  | data {s s' t : Source α} {word : α} {items : List (Item α)}
      (head : s.readData = some (word, s')) (tail : Reads s' items t) :
      Reads s (.data word :: items) t

variable {unpack}

theorem Reads.append {s t u : Source α} {xs ys : List (Item α)}
    (hxs : Reads unpack s xs t) (hys : Reads unpack t ys u) :
    Reads unpack s (xs ++ ys) u := by
  induction hxs with
  | nil => exact hys
  | control head _ ih => exact .control head (ih hys)
  | data head _ ih => exact .data head (ih hys)

theorem Reads.of_append {s u : Source α} {xs ys : List (Item α)}
    (h : Reads unpack s (xs ++ ys) u) :
    ∃ t, Reads unpack s xs t ∧ Reads unpack t ys u := by
  induction xs generalizing s with
  | nil => exact ⟨s, .nil s, h⟩
  | cons x xs ih =>
      cases h with
      | control head tail =>
          obtain ⟨t, hxs, hys⟩ := ih tail
          exact ⟨t, .control head hxs, hys⟩
      | data head tail =>
          obtain ⟨t, hxs, hys⟩ := ih tail
          exact ⟨t, .data head hxs, hys⟩

/-- What follows the items is not looked at. -/
theorem Reads.extend {s t : Source α} {items : List (Item α)} (h : Reads unpack s items t)
    (tail : List α) :
    Reads unpack ⟨s.pending, s.input ++ tail⟩ items ⟨t.pending, t.input ++ tail⟩ := by
  induction h with
  | nil s => exact .nil _
  | @control s s' t bit items head _ ih =>
      refine .control ?_ ih
      obtain ⟨_ | ⟨b, pending⟩, _ | ⟨word, input⟩⟩ := s
      · cases head
      · simp only [Source.readControl, List.cons_append] at head ⊢
        cases hword : unpack word with
        | nil => simp [hword] at head
        | cons b pending =>
            simp only [hword, Option.some.injEq, Prod.mk.injEq] at head
            obtain ⟨rfl, rfl⟩ := head
            rfl
      all_goals
        simp only [Source.readControl, Option.some.injEq, Prod.mk.injEq] at head
        obtain ⟨rfl, rfl⟩ := head
        rfl
  | @data s s' t word items head _ ih =>
      refine .data ?_ ih
      obtain ⟨pending, _ | ⟨v, input⟩⟩ := s
      · cases head
      · simp only [Source.readData, Option.some.injEq, Prod.mk.injEq] at head
        obtain ⟨rfl, rfl⟩ := head
        rfl

/-- How much of a list of items is control bits. -/
def controlCount : List (Item α) → Nat
  | [] => 0
  | .control _ :: items => controlCount items + 1
  | .data _ :: items => controlCount items

def dataCount : List (Item α) → Nat
  | [] => 0
  | .control _ :: items => dataCount items
  | .data _ :: items => dataCount items + 1

@[simp] theorem controlCount_append (xs ys : List (Item α)) :
    controlCount (xs ++ ys) = controlCount xs + controlCount ys := by
  induction xs with
  | nil => simp [controlCount]
  | cons x xs ih =>
      cases x with
      | control bit => simp only [List.cons_append, controlCount, ih]; omega
      | data word => simp only [List.cons_append, controlCount, ih]

@[simp] theorem dataCount_append (xs ys : List (Item α)) :
    dataCount (xs ++ ys) = dataCount xs + dataCount ys := by
  induction xs with
  | nil => simp [dataCount]
  | cons x xs ih =>
      cases x with
      | control bit => simp only [List.cons_append, dataCount, ih]
      | data word => simp only [List.cons_append, dataCount, ih]; omega

theorem readData_length {s s' : Source α} {word : α}
    (h : s.readData = some (word, s')) :
    s.input.length = s'.input.length + 1 ∧ s'.pending = s.pending := by
  rcases s with ⟨pending, _ | ⟨v, input⟩⟩
  · simp [Source.readData] at h
  · simp only [Source.readData, Option.some.injEq, Prod.mk.injEq] at h
    obtain ⟨-, rfl⟩ := h
    simp

theorem readControl_length {width : Nat} (hwidth : ∀ word, (unpack word).length = width)
    {s s' : Source α} {bit : Bool} (h : s.readControl unpack = some (bit, s')) :
    (s.input.length = s'.input.length ∧ s.pending.length = s'.pending.length + 1) ∨
      (s.input.length = s'.input.length + 1 ∧ s.pending = [] ∧
        s'.pending.length + 1 = width) := by
  rcases s with ⟨_ | ⟨b, pending⟩, _ | ⟨v, input⟩⟩
  · simp [Source.readControl] at h
  · simp only [Source.readControl] at h
    have hlen := hwidth v
    cases hu : unpack v with
    | nil => simp [hu] at h
    | cons b pending =>
        simp only [hu, Option.some.injEq, Prod.mk.injEq] at h hlen
        obtain ⟨-, rfl⟩ := h
        exact .inr ⟨rfl, rfl, by simpa using hlen⟩
  all_goals
    simp only [Source.readControl, Option.some.injEq, Prod.mk.injEq] at h
    obtain ⟨-, rfl⟩ := h
    exact .inl ⟨rfl, rfl⟩

/-- Every data item uses one word, and every `width` control bits use one. -/
theorem Reads.length_eq {width : Nat} (hwidth : ∀ word, (unpack word).length = width)
    {s t : Source α} {items : List (Item α)} (h : Reads unpack s items t) :
    ∃ loads, s.input.length = t.input.length + dataCount items + loads ∧
      s.pending.length + width * loads = controlCount items + t.pending.length := by
  induction h with
  | nil s => exact ⟨0, by simp [dataCount], by simp [controlCount]⟩
  | control head tail ih =>
      obtain ⟨loads, hlen, hbits⟩ := ih
      rcases readControl_length hwidth head with ⟨hin, hpend⟩ | ⟨hin, hpend, hw⟩
      · refine ⟨loads, ?_, ?_⟩ <;> simp only [dataCount, controlCount] <;> omega
      · refine ⟨loads + 1, ?_, ?_⟩ <;>
          simp only [dataCount, controlCount, hpend, List.length_nil, Nat.mul_add] <;> omega
  | data head tail ih =>
      obtain ⟨loads, hlen, hbits⟩ := ih
      obtain ⟨hin, hpend⟩ := readData_length head
      refine ⟨loads, ?_, ?_⟩
      · simp only [dataCount]
        omega
      · simp only [controlCount, ← hpend]
        omega

theorem Reads.pending_length_lt {width : Nat}
    (hwidth : ∀ word, (unpack word).length = width) {s t : Source α}
    {items : List (Item α)} (h : Reads unpack s items t)
    (hs : s.pending = [] ∨ s.pending.length < width) :
    t.pending = [] ∨ t.pending.length < width := by
  induction h with
  | nil => exact hs
  | control head tail ih =>
      apply ih
      rcases readControl_length hwidth head with ⟨_, hpend⟩ | ⟨_, _, hw⟩
      · rcases hs with hs | hs
        · simp [hs] at hpend
        · exact .inr (by omega)
      · exact .inr (by omega)
  | data head tail ih =>
      apply ih
      rw [(readData_length head).2]
      exact hs

/-!
A writer collects the control bits and the data words of the current group
until the control word is full. `Closed` and `Open` say what has been written
so far: whatever is appended, a reader that starts at the beginning first gets
the items that were written.
-/

variable (unpack)

/-- All control words in `written` are complete. -/
def Closed (written : List α) (items : List (Item α)) : Prop :=
  ∀ tail, Reads unpack ⟨[], written ++ tail⟩ items ⟨[], tail⟩

/-- After `written` comes a control word whose first bits are `bits`, and then
the data words `group`. -/
def Open (written : List α) (bits : List Bool) (group : List α)
    (items : List (Item α)) : Prop :=
  ∀ word tail, bits <+: unpack word →
    Reads unpack ⟨[], written ++ word :: (group ++ tail)⟩ items
      ⟨(unpack word).drop bits.length, tail⟩

variable {unpack}

theorem closed_nil : Closed unpack [] [] :=
  fun tail => .nil ⟨[], tail⟩

theorem readControl_of_isPrefixOf {bits : List Bool} {bit : Bool} {word : α} {input : List α}
    (h : bits ++ [bit] <+: unpack word) :
    (⟨(unpack word).drop bits.length, input⟩ : Source α).readControl unpack =
      some (bit, ⟨(unpack word).drop (bits.length + 1), input⟩) := by
  obtain ⟨rest, hrest⟩ := h
  rw [← hrest]
  simp [Source.readControl, List.drop_append]

theorem Closed.control {written : List α} {items : List (Item α)}
    (h : Closed unpack written items) (bit : Bool) :
    Open unpack written [bit] [] (items ++ [.control bit]) := by
  intro word tail hbits
  refine (h _).append (.control ?_ (.nil _))
  obtain ⟨rest, hrest⟩ := hbits
  simp [Source.readControl, ← hrest]

theorem Open.control {written group : List α} {bits : List Bool} {items : List (Item α)}
    (h : Open unpack written bits group items) (bit : Bool) :
    Open unpack written (bits ++ [bit]) group (items ++ [.control bit]) := by
  intro word tail hbits
  have hpre : bits <+: unpack word := (List.prefix_append bits [bit]).trans hbits
  refine (h word tail hpre).append (.control (readControl_of_isPrefixOf hbits) ?_)
  have hdone : Reads unpack ⟨(unpack word).drop (bits.length + 1), tail⟩ []
      ⟨(unpack word).drop (bits.length + 1), tail⟩ := .nil _
  simpa using hdone

theorem Open.data {written group : List α} {bits : List Bool} {items : List (Item α)}
    (h : Open unpack written bits group items) (word : α) :
    Open unpack written bits (group ++ [word]) (items ++ [.data word]) := by
  intro control tail hbits
  have hread := h control (word :: tail) hbits
  simp only [List.append_assoc, List.singleton_append]
  exact hread.append (.data rfl (.nil _))

/-- A full control word closes its group. -/
theorem Open.close {written group : List α} {bits : List Bool} {items : List (Item α)}
    (h : Open unpack written bits group items) {word : α} (hword : unpack word = bits) :
    Closed unpack (written ++ word :: group) items := by
  intro tail
  have hread := h word tail (by simp [hword])
  simpa [hword] using hread

end HuntersGuild.InterleavedStream
