import HuntersGuild.ByteStreams
import HuntersGuild.WordBytes

/-!
Values of a fixed width in a `phosg::StringReader`, and what reading back a
written value gives.
-/

namespace HuntersGuild.StringReaders

open HuntersGuild.ExceptionRules
open HuntersGuild.ByteStreams
open HuntersGuild.WordBytes

/-- `parray<uint8_t, size>`. -/
structure Parray (size : Nat) where
  bytes : List UInt8
  length_eq : bytes.length = size
  deriving DecidableEq

/-- A part of a parser, which moves the reader on. -/
abbrev Reader (α : Type) := StateT StringReader (Except Exception) α

def getU8 : Reader UInt8 := fun r => r.getU8

/-- `get<parray<uint8_t, size>>`: too few bytes throw `out_of_range`. -/
def getParray (size : Nat) : Reader (Parray size) := fun r =>
  if h : size ≤ r.remaining.length then
    .ok (⟨r.remaining.take size, List.length_take_of_le h⟩,
      ⟨r.remaining.drop size, r.offset + size⟩)
  else .error (.outOfRange "end of string")

/-- `read`: as many bytes as there are, at most `size`. -/
def read (size : Nat) : Reader (List UInt8) := fun r =>
  .ok (r.remaining.take size,
    ⟨r.remaining.drop size, r.offset + (r.remaining.take size).length⟩)

def getU16l : Reader UInt16 := do
  let word ← getParray 2
  return .ofNat (fromLittleEndian word.bytes)

def getU32l : Reader UInt32 := do
  let word ← getParray 4
  return .ofNat (fromLittleEndian word.bytes)

def getU32b : Reader UInt32 := do
  let word ← getParray 4
  return .ofNat (fromBigEndian word.bytes)

def getU64l : Reader UInt64 := do
  let word ← getParray 8
  return .ofNat (fromLittleEndian word.bytes)

def putU16l (v : UInt16) : List UInt8 := littleEndian 2 v.toNat

def putU32l (v : UInt32) : List UInt8 := littleEndian 4 v.toNat

def putU32b (v : UInt32) : List UInt8 := bigEndian 4 v.toNat

def putU64l (v : UInt64) : List UInt8 := littleEndian 8 v.toNat

/-- `U16T<BE>` and `U32T<BE>`. -/
def putU16 (bigEndian : Bool) (v : UInt16) : List UInt8 :=
  if bigEndian then WordBytes.bigEndian 2 v.toNat else putU16l v

def putU32 (bigEndian : Bool) (v : UInt32) : List UInt8 :=
  if bigEndian then putU32b v else putU32l v

def getU32 (bigEndian : Bool) : Reader UInt32 :=
  if bigEndian then getU32b else getU32l

variable {α β : Type}

/-- `pget`, and a reader made by `sub`: the call on the bytes from an offset
on. An offset past the end leaves no bytes. -/
def pget (p : Reader α) (data : List UInt8) (offset : Nat) : Except Exception α := do
  let (a, _) ← p (.ofBytes (data.drop offset))
  return a

/-- Wherever these bytes come next, the parser takes exactly them and gives
this value. -/
def Reads (p : Reader α) (bytes : List UInt8) (a : α) : Prop :=
  ∀ remaining offset,
    p ⟨bytes ++ remaining, offset⟩ = .ok (a, ⟨remaining, offset + bytes.length⟩)

theorem reads_pure (a : α) : Reads (pure a) [] a := fun _ _ => rfl

theorem Reads.bind {p : Reader α} {f : α → Reader β} {first second : List UInt8} {a : α} {b : β}
    (hp : Reads p first a) (hf : Reads (f a) second b) : Reads (p >>= f) (first ++ second) b := by
  intro remaining offset
  have hfirst := hp (second ++ remaining) offset
  have hsecond := hf remaining (offset + first.length)
  rw [← List.append_assoc] at hfirst
  change (p ⟨first ++ second ++ remaining, offset⟩ >>= fun x => f x.1 x.2) = _
  rw [hfirst, List.length_append, ← Nat.add_assoc]
  exact hsecond

/-- The last call of a parser may be followed by a value made of its result. -/
theorem Reads.map {p : Reader α} {f : α → β} {bytes : List UInt8} {a : α} (hp : Reads p bytes a) :
    Reads (p >>= fun x => pure (f x)) bytes (f a) := by
  rw [← List.append_nil bytes]
  exact hp.bind (reads_pure (f a))

theorem reads_getU8 (v : UInt8) : Reads getU8 [v] v := fun _ _ => rfl

theorem reads_getParray {size : Nat} (block : Parray size) :
    Reads (getParray size) block.bytes block := by
  intro remaining offset
  obtain ⟨bytes, rfl⟩ := block
  have hle : bytes.length ≤ (bytes ++ remaining).length := by simp
  simp only [getParray, dif_pos hle, List.take_left, List.drop_left]

theorem reads_read (data : List UInt8) : Reads (read data.length) data data := by
  intro remaining offset
  simp only [read, List.take_left, List.drop_left]

theorem ofNat_putU16l (v : UInt16) : UInt16.ofNat (fromLittleEndian (putU16l v)) = v := by
  unfold putU16l
  rw [fromLittleEndian_littleEndian_of_lt v.toNat_lt, UInt16.ofNat_toNat]

theorem reads_getU16l (v : UInt16) : Reads getU16l (putU16l v) v := by
  have hword : Reads getU16l (putU16l v) (UInt16.ofNat (fromLittleEndian (putU16l v))) :=
    (reads_getParray ⟨putU16l v, length_littleEndian 2 v.toNat⟩).map
  rwa [ofNat_putU16l] at hword

theorem ofNat_putU32l (v : UInt32) : UInt32.ofNat (fromLittleEndian (putU32l v)) = v := by
  unfold putU32l
  rw [fromLittleEndian_littleEndian_of_lt v.toNat_lt, UInt32.ofNat_toNat]

theorem reads_getU32l (v : UInt32) : Reads getU32l (putU32l v) v := by
  have hword : Reads getU32l (putU32l v) (UInt32.ofNat (fromLittleEndian (putU32l v))) :=
    (reads_getParray ⟨putU32l v, length_littleEndian 4 v.toNat⟩).map
  rwa [ofNat_putU32l] at hword

theorem ofNat_putU32b (v : UInt32) : UInt32.ofNat (fromBigEndian (putU32b v)) = v := by
  unfold putU32b
  rw [fromBigEndian_bigEndian_of_lt v.toNat_lt, UInt32.ofNat_toNat]

theorem reads_getU32b (v : UInt32) : Reads getU32b (putU32b v) v := by
  have hword : Reads getU32b (putU32b v) (UInt32.ofNat (fromBigEndian (putU32b v))) :=
    (reads_getParray ⟨putU32b v, length_bigEndian 4 v.toNat⟩).map
  rwa [ofNat_putU32b] at hword

@[simp] theorem length_putU16 (bigEndian : Bool) (v : UInt16) :
    (putU16 bigEndian v).length = 2 := by
  cases bigEndian <;> simp [putU16, putU16l]

@[simp] theorem length_putU32 (bigEndian : Bool) (v : UInt32) :
    (putU32 bigEndian v).length = 4 := by
  cases bigEndian <;> simp [putU32, putU32l, putU32b]

theorem reads_getU32 (bigEndian : Bool) (v : UInt32) :
    Reads (getU32 bigEndian) (putU32 bigEndian v) v := by
  cases bigEndian with
  | false => exact reads_getU32l v
  | true => exact reads_getU32b v

/-- A value that was written behind `before` is read at the end of `before`. -/
theorem Reads.pget {p : Reader α} {bytes : List UInt8} {a : α} (hp : Reads p bytes a)
    (before remaining : List UInt8) :
    pget p (before ++ (bytes ++ remaining)) before.length = .ok a := by
  unfold StringReaders.pget StringReader.ofBytes
  rw [List.drop_left, hp remaining 0]
  rfl

theorem ofNat_putU64l (v : UInt64) : UInt64.ofNat (fromLittleEndian (putU64l v)) = v := by
  unfold putU64l
  rw [fromLittleEndian_littleEndian_of_lt v.toNat_lt, UInt64.ofNat_toNat]

theorem reads_getU64l (v : UInt64) : Reads getU64l (putU64l v) v := by
  have hword : Reads getU64l (putU64l v) (UInt64.ofNat (fromLittleEndian (putU64l v))) :=
    (reads_getParray ⟨putU64l v, length_littleEndian 8 v.toNat⟩).map
  rwa [ofNat_putU64l] at hword

/-! Parts of a parser, one after the other. -/

theorem bind_of_reads {p : Reader α} {f : α → Reader β} {first rest : List UInt8} {a : α}
    (h : Reads p first a) (offset : Nat) :
    (p >>= f) ⟨first ++ rest, offset⟩ = f a ⟨rest, offset + first.length⟩ := by
  change (p ⟨first ++ rest, offset⟩ >>= fun x => f x.1 x.2) = _
  rw [h]
  rfl

theorem lift_bind_of_ok {x : Except Exception α} {f : α → Reader β} {a : α} (h : x = .ok a)
    (r : StringReader) : ((liftM x : Reader α) >>= f) r = f a r := by
  rw [h]
  rfl

/-- Wherever it succeeds, the parser takes at least `n` bytes. -/
def Takes (n : Nat) (p : Reader α) : Prop :=
  ∀ r a r', p r = .ok (a, r') → r'.remaining.length + n ≤ r.remaining.length

theorem takes_pure (a : α) : Takes 0 (pure a : Reader α) := by
  intro r b r' h
  obtain ⟨-, rfl⟩ := Prod.mk.inj (Except.ok.inj h)
  exact Nat.le_refl _

theorem takes_throw (n : Nat) (e : Exception) : Takes n (throw e : Reader α) := by
  intro r a r' h
  cases h

theorem takes_lift (x : Except Exception α) : Takes 0 (liftM x : Reader α) := by
  intro r a r' h
  cases x with
  | error e => cases h
  | ok b =>
      obtain ⟨-, rfl⟩ := Prod.mk.inj (Except.ok.inj h)
      exact Nat.le_refl _

theorem takes_getParray (size : Nat) : Takes size (getParray size) := by
  intro r a r' h
  unfold getParray at h
  split at h
  · rename_i hsize
    obtain ⟨-, rfl⟩ := Prod.mk.inj (Except.ok.inj h)
    rw [List.length_drop]
    exact (Nat.sub_add_cancel hsize).le
  · cases h

theorem Takes.bind {p : Reader α} {f : α → Reader β} {n : Nat} (hp : Takes n p) (hf : ∀ a, Takes 0 (f a)) :
    Takes n (p >>= f) := by
  intro r b r' h
  obtain ⟨⟨a, mid⟩, hfirst, hsecond⟩ := bind_eq_ok.mp (show (p r >>= fun x => f x.1 x.2) = .ok (b, r') from h)
  have h₁ := hp r a mid hfirst
  have h₂ := hf a mid b r' hsecond
  omega

theorem Takes.mono {p : Reader α} {m n : Nat} (h : Takes m p) (hle : n ≤ m) : Takes n p := by
  intro r a r' hr
  have hlength := h r a r' hr
  omega

theorem takes_parray (size : Nat) : Takes 0 (getParray size) := (takes_getParray size).mono (Nat.zero_le size)

theorem takes_getU8 : Takes 0 getU8 := by
  intro r a r' h
  have hlength := StringReader.getU8_remaining h
  omega

theorem takes_getU16l : Takes 0 getU16l := (takes_parray 2).bind fun _ => takes_pure _

theorem takes_getU32l : Takes 0 getU32l := (takes_parray 4).bind fun _ => takes_pure _

end HuntersGuild.StringReaders
