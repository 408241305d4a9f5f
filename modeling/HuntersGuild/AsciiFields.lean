import Mathlib.Data.List.TakeWhile

/-!
`pstring<TextEncoding::ASCII, size>`: texts in fields of a fixed size.
-/

namespace HuntersGuild.AsciiFields

def isAscii (c : UInt8) : Bool := c < 0x80

/-- A text that cannot be encoded is replaced by as much of this as fits. -/
def unencodable (size : Nat) : List UInt8 :=
  if size ≥ 3 then [0x3C, 0x3F, 0x3E] else if size ≥ 1 then [0x3F] else []

/-- `encode`, which stops where the field is full. -/
def encode (size : Nat) (s : List UInt8) : List UInt8 :=
  let text := if (s.take size).all isAscii then s.take size else unencodable size
  text ++ List.replicate (size - text.length) 0

/-- `decode` of the characters before the first zero. -/
def decode (field : List UInt8) : List UInt8 :=
  let used := field.takeWhile (· ≠ 0)
  if used.all isAscii then used else [0x3C, 0x3F, 0x3E]

/-- A text that a field holds as it is. -/
structure Encodable (size : Nat) (s : List UInt8) : Prop where
  length_le : s.length ≤ size
  ascii : ∀ c ∈ s, isAscii c = true
  ne_zero : ∀ c ∈ s, c ≠ 0

variable {size : Nat} {s t : List UInt8}

instance (size : Nat) (s : List UInt8) : Decidable (Encodable size s) :=
  decidable_of_iff (s.length ≤ size ∧ s.all isAscii = true ∧ s.all (· ≠ 0) = true)
    ⟨fun ⟨h, h', h''⟩ => ⟨h, List.all_eq_true.mp h', fun c hc => of_decide_eq_true (List.all_eq_true.mp h'' c hc)⟩,
      fun ⟨h, h', h''⟩ => ⟨h, List.all_eq_true.mpr h', List.all_eq_true.mpr fun c hc => decide_eq_true (h'' c hc)⟩⟩

theorem Encodable.mono {size' : Nat} (h : Encodable size s) (hsize : size ≤ size') : Encodable size' s :=
  ⟨h.length_le.trans hsize, h.ascii, h.ne_zero⟩

@[simp] theorem length_encode (size : Nat) (s : List UInt8) : (encode size s).length = size := by
  have htext : (if (s.take size).all isAscii then s.take size else unencodable size).length ≤ size := by
    split_ifs with h
    · rw [List.length_take]
      exact Nat.min_le_left _ _
    · unfold unencodable
      split_ifs with h3 h1
      · exact h3
      · exact h1
      · exact Nat.zero_le _
  rw [encode, List.length_append, List.length_replicate]
  exact Nat.add_sub_cancel' htext

theorem encode_of_encodable (h : Encodable size s) :
    encode size s = s ++ List.replicate (size - s.length) 0 := by
  have htake : s.take size = s := List.take_of_length_le h.length_le
  rw [encode, htake, if_pos (List.all_eq_true.mpr h.ascii)]

theorem takeWhile_replicate_zero (n : Nat) :
    (List.replicate n (0 : UInt8)).takeWhile (· ≠ 0) = [] := by
  cases n with
  | zero => rfl
  | succ n => rfl

/-- A text that fits comes back. -/
theorem decode_encode (h : Encodable size s) : decode (encode size s) = s := by
  have hused : (encode size s).takeWhile (· ≠ 0) = s := by
    have hall : ∀ c ∈ s, decide (c ≠ 0) = true := fun c hc => decide_eq_true (h.ne_zero c hc)
    rw [encode_of_encodable h, List.takeWhile_append_of_pos hall, takeWhile_replicate_zero, List.append_nil]
  rw [decode, hused, if_pos (List.all_eq_true.mpr h.ascii)]

/-- What is decoded is a text that fits. -/
theorem encodable_decode (hsize : 3 ≤ size) {field : List UInt8} (hfield : field.length ≤ size) :
    Encodable size (decode field) := by
  rw [decode]
  by_cases h : (field.takeWhile (· ≠ 0)).all isAscii
  · rw [if_pos h]
    refine ⟨(List.takeWhile_prefix _).length_le.trans hfield, List.all_eq_true.mp h, fun c hc => ?_⟩
    have hne := List.mem_takeWhile_imp hc
    exact of_decide_eq_true hne
  · rw [if_neg h]
    exact ⟨hsize, List.all_eq_true.mp rfl, by simp⟩

theorem decode_ne_nil {field : List UInt8} (h : field.headD 0 ≠ 0) : decode field ≠ [] := by
  cases field with
  | nil => exact absurd rfl h
  | cons c field =>
      have hused : (c :: field).takeWhile (· ≠ 0) = c :: field.takeWhile (· ≠ 0) :=
        List.takeWhile_cons_of_pos (decide_eq_true h)
      rw [decode, hused]
      split_ifs
      · exact List.cons_ne_nil _ _
      · exact List.cons_ne_nil _ _

end HuntersGuild.AsciiFields
