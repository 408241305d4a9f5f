import Mathlib.Data.List.GetD
import HuntersGuild.CheckedLoops
import HuntersGuild.WordStreams

/-!
`PSOLFGEncryption`: the ciphers of all versions but Blue Burst, which combine
the data with the words of a lagged Fibonacci generator.
-/

namespace HuntersGuild.PsoLfgEncryption

open HuntersGuild.CheckedLoops
open HuntersGuild.WordStreams

/-- The two classes that derive from `PSOLFGEncryption`. -/
inductive Kind where
  | v2
  | v3
  deriving DecidableEq

structure PSOLFGEncryption where
  kind : Kind
  stream : List UInt32
  offset : Nat
  deriving DecidableEq

/-- Set a word of the stream from its value and another word. -/
def combine (op : UInt32 → UInt32 → UInt32) (stream : List UInt32) (z source : Nat) : List UInt32 :=
  stream.set z (op (stream.getD z 0) (stream.getD source 0))

namespace PSOV2Encryption

def streamLength : Nat := 0x38

def updateStream (stream : List UInt32) : List UInt32 :=
  let stream := (List.range' 1 0x18).foldl (fun stream z => combine (· - ·) stream z (z + 0x1F)) stream
  (List.range' 0x19 0x1F).foldl (fun stream z => combine (· - ·) stream z (z - 0x18)) stream

/-- The loop over `virtual_index`, with `a` and `b`. -/
def fillStream (seed : UInt32) : List UInt32 :=
  let stream := (List.replicate (streamLength + 1) 0).set 0x37 seed
  ((List.range' 1 0x36).foldl
    (fun (stream, a, b) k => (stream.set (k * 0x15 % 0x37) a, b - a, a))
    (stream, (1 : UInt32), seed)).1

def new (seed : UInt32) : PSOLFGEncryption where
  kind := .v2
  stream := (List.range 5).foldl (fun stream _ => updateStream stream) (fillStream seed)
  offset := 1

end PSOV2Encryption

namespace PSOV3Encryption

def streamLength : Nat := 521

def updateStream (stream : List UInt32) : List UInt32 :=
  let stream := (List.range' 489 32).foldl (fun stream z => combine (· ^^^ ·) stream (z - 489) z) stream
  (List.range' 32 489).foldl (fun stream z => combine (· ^^^ ·) stream z (z - 32)) stream

/-- One bit of a word of the stream, with `seed` and `basekey`. -/
def fillBit (s : UInt32 × UInt32) : UInt32 × UInt32 :=
  let seed : UInt32 := s.1 * 0x5D588B65
  let basekey := s.2 >>> 1
  let seed := seed + 1
  if seed &&& (0x80000000 : UInt32) ≠ 0 then (seed, basekey ||| 0x80000000)
  else (seed, basekey &&& 0x7FFFFFFF)

/-- The words that are built from the seed. -/
def fillStart (seed : UInt32) : List UInt32 :=
  ((List.range 17).foldl (fun (stream, s) _ =>
    let s := (List.range 32).foldl (fun s _ => fillBit s) s
    (stream ++ [s.2], s)) ([], seed, 0)).1

/-- The words that are built from the words before them. -/
def fillRest (stream : List UInt32) : List UInt32 :=
  let word (z : Nat) : UInt32 := stream.getD z 0
  let stream := stream.set 16 (((word 0 >>> 9) ^^^ (word 16 <<< 23)) ^^^ word 15)
  (List.range' 17 (streamLength - 17)).foldl (fun stream z =>
    let word (z : Nat) : UInt32 := stream.getD z 0
    stream ++ [word (z - 1) ^^^
      (((word (z - 17) <<< 23) &&& (0xFF800000 : UInt32)) ^^^ ((word (z - 16) >>> 9) &&& (0x007FFFFF : UInt32)))]) stream

def new (seed : UInt32) : PSOLFGEncryption where
  kind := .v3
  stream := (List.range 4).foldl (fun stream _ => updateStream stream) (fillRest (fillStart seed))
  offset := 0

end PSOV3Encryption

/-- The number of words that the constructors allocate. -/
def Kind.streamSize : Kind → Nat
  | .v2 => PSOV2Encryption.streamLength + 1
  | .v3 => PSOV3Encryption.streamLength

namespace PSOLFGEncryption

def endOffset (self : PSOLFGEncryption) : Nat :=
  match self.kind with
  | .v2 => PSOV2Encryption.streamLength
  | .v3 => PSOV3Encryption.streamLength

def updateStream (self : PSOLFGEncryption) : PSOLFGEncryption :=
  match self.kind with
  | .v2 => { self with stream := PSOV2Encryption.updateStream self.stream, offset := 1 }
  | .v3 => { self with stream := PSOV3Encryption.updateStream self.stream, offset := 0 }

/-- The offset is never past the end of the stream. -/
def next (self : PSOLFGEncryption) : UInt32 × PSOLFGEncryption :=
  let self := if self.offset = self.endOffset then self.updateStream else self
  (self.stream.getD self.offset 0, { self with offset := self.offset + 1 })

/-- `encrypt_t<false>`, which is also `decrypt`. -/
def encrypt (self : PSOLFGEncryption) (data : List UInt8) : List UInt8 × PSOLFGEncryption :=
  xorWords next self data

/-- What the constructors establish, so that `next` reads within the stream. -/
structure Valid (cipher : PSOLFGEncryption) : Prop where
  length_eq : cipher.stream.length = cipher.kind.streamSize
  offset_le : cipher.offset ≤ cipher.endOffset

end PSOLFGEncryption

section Validity

theorem length_combine (op : UInt32 → UInt32 → UInt32) (stream : List UInt32) (z source : Nat) :
    (combine op stream z source).length = stream.length :=
  List.length_set

theorem length_foldl_combine (op : UInt32 → UInt32 → UInt32) (z source : Nat → Nat) (l : List Nat)
    (stream : List UInt32) :
    (l.foldl (fun stream k => combine op stream (z k) (source k)) stream).length = stream.length :=
  foldl_keeps List.length (fun stream k => length_combine op stream (z k) (source k)) l stream

theorem PSOV2Encryption.length_updateStream (stream : List UInt32) :
    (updateStream stream).length = stream.length := by
  unfold updateStream
  rw [length_foldl_combine, length_foldl_combine]

theorem PSOV3Encryption.length_updateStream (stream : List UInt32) :
    (updateStream stream).length = stream.length := by
  unfold updateStream
  rw [length_foldl_combine, length_foldl_combine]

theorem PSOV2Encryption.length_fillStream (seed : UInt32) :
    (fillStream seed).length = streamLength + 1 := by
  unfold fillStream
  rw [foldl_keeps (fun s : List UInt32 × UInt32 × UInt32 => s.1.length) fun s k => List.length_set]
  simp only [List.length_set, List.length_replicate]

theorem PSOV2Encryption.valid_new (seed : UInt32) : (new seed).Valid := by
  unfold new
  constructor
  · dsimp only
    rw [foldl_keeps List.length fun stream _ => length_updateStream stream, length_fillStream,
      Kind.streamSize]
  · dsimp only [PSOLFGEncryption.endOffset]
    decide

/-- A loop that appends a word in each round. -/
theorem length_foldl_append {α β : Type} (g : β → List UInt32) {f : β → α → β}
    (hf : ∀ b a, (g (f b a)).length = (g b).length + 1) (l : List α) (b : β) :
    (g (l.foldl f b)).length = (g b).length + l.length := by
  induction l generalizing b with
  | nil => rfl
  | cons a l ih =>
      rw [List.foldl_cons, ih, hf, List.length_cons]
      omega

theorem PSOV3Encryption.length_fillStart (seed : UInt32) : (fillStart seed).length = 17 := by
  unfold fillStart
  have happend := length_foldl_append (fun s : List UInt32 × UInt32 × UInt32 => s.1)
    (f := fun s (_ : Nat) => (s.1 ++ [((List.range 32).foldl (fun s _ => fillBit s) s.2).2],
      (List.range 32).foldl (fun s _ => fillBit s) s.2))
    (fun s _ => List.length_append) (List.range 17) ([], seed, 0)
  exact happend.trans (by rw [List.length_nil, List.length_range])

theorem PSOV3Encryption.length_fillRest (stream : List UInt32) :
    (fillRest stream).length = stream.length + (streamLength - 17) := by
  unfold fillRest
  dsimp only
  rw [← id_def (List.foldl _ _ _), length_foldl_append id fun stream k => List.length_append,
    id_def, List.length_set, List.length_range']

theorem PSOV3Encryption.valid_new (seed : UInt32) : (new seed).Valid := by
  unfold new
  constructor
  · dsimp only
    rw [foldl_keeps List.length fun stream _ => length_updateStream stream, length_fillRest,
      length_fillStart, Kind.streamSize, streamLength]
  · exact Nat.zero_le _

variable {self : PSOLFGEncryption}

namespace PSOLFGEncryption.Valid

theorem updateStream (h : self.Valid) :
    self.updateStream.Valid ∧ self.updateStream.offset < self.updateStream.endOffset := by
  obtain ⟨kind, stream, offset⟩ := self
  have hlength := h.length_eq
  unfold PSOLFGEncryption.updateStream
  cases kind with
  | v2 =>
      dsimp only at hlength ⊢
      refine ⟨⟨?_, ?_⟩, ?_⟩
      · rw [← hlength]
        dsimp only
        rw [PSOV2Encryption.length_updateStream]
      · dsimp only [PSOLFGEncryption.endOffset]
        decide
      · dsimp only [PSOLFGEncryption.endOffset]
        decide
  | v3 =>
      dsimp only at hlength ⊢
      refine ⟨⟨?_, ?_⟩, ?_⟩
      · rw [← hlength]
        dsimp only
        rw [PSOV3Encryption.length_updateStream]
      · dsimp only [PSOLFGEncryption.endOffset]
        decide
      · dsimp only [PSOLFGEncryption.endOffset]
        decide

/-- Every word that `next` returns is one of the stream. -/
theorem next (h : self.Valid) : self.next.2.Valid ∧ self.next.1 ∈ self.next.2.stream := by
  have hread (self : PSOLFGEncryption) (h : self.Valid) (hlt : self.offset < self.endOffset) :
      ({ self with offset := self.offset + 1 } : PSOLFGEncryption).Valid ∧
        self.stream.getD self.offset 0 ∈ self.stream := by
    have hsize : self.offset < self.stream.length := by
      refine hlt.trans_le (le_of_le_of_eq ?_ h.length_eq.symm)
      obtain ⟨kind, stream, offset⟩ := self
      cases kind with
      | v2 => exact Nat.le_succ _
      | v3 => exact Nat.le_refl _
    refine ⟨⟨h.length_eq, hlt⟩, ?_⟩
    rw [List.getD_eq_getElem _ _ hsize]
    exact List.getElem_mem hsize
  unfold PSOLFGEncryption.next
  by_cases hend : self.offset = self.endOffset
  · rw [if_pos hend]
    exact hread _ h.updateStream.1 h.updateStream.2
  · rw [if_neg hend]
    exact hread self h (lt_of_le_of_ne h.offset_le hend)

end PSOLFGEncryption.Valid

end Validity

end HuntersGuild.PsoLfgEncryption
