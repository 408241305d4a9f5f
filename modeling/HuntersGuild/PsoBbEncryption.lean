import Mathlib.Data.UInt
import HuntersGuild.CheckedLoops
import HuntersGuild.FeistelNetwork
import HuntersGuild.ByteStreams

/-!
`PSOBBEncryption`: the four ciphers of the Blue Burst protocol, their key
schedules, and that a conversation encrypted by one instance is recovered by
another instance with the same key file and seed.
-/

namespace HuntersGuild.PsoBbEncryption

open HuntersGuild.CheckedLoops
open HuntersGuild.ExceptionRules
open HuntersGuild.FeistelNetwork
open HuntersGuild.ByteStreams

/-- The value of a `le_uint32_t`. -/
def le32 (b0 b1 b2 b3 : UInt8) : UInt32 :=
  UInt32.ofNat (b0.toNat + 0x100 * b1.toNat + 0x10000 * b2.toNat + 0x1000000 * b3.toNat)

/-- Byte `k` of a `le_uint32_t`. -/
def byteOf (v : UInt32) (k : Nat) : UInt8 :=
  UInt8.ofNat (v.toNat / 0x100 ^ k)

/-- The view of a byte array as an array of `le_uint32_t`. -/
def as32 {n : Nat} (bytes : Vector UInt8 n) (x : Nat) : UInt32 :=
  le32 (bytes.getD (4 * x) 0) (bytes.getD (4 * x + 1) 0) (bytes.getD (4 * x + 2) 0)
    (bytes.getD (4 * x + 3) 0)

def set32 {n : Nat} (bytes : Vector UInt8 n) (x : Nat) (v : UInt32) : Vector UInt8 n :=
  (List.range 4).foldl (fun bytes k => bytes.setIfInBounds (4 * x + k) (byteOf v k)) bytes

def subtypeMOCB1 : UInt64 := 0x01

def subtypeJSD1 : UInt64 := 0x02

/-- Every other subtype is treated as `STANDARD`. -/
def subtypeTFS1 : UInt64 := 0x03

/-- The unions of the source are their byte arrays here. -/
structure KeyFile where
  initialKeys : Vector UInt8 0x48
  privateKeys : Vector UInt8 0x1000
  subtype : UInt64
  deriving DecidableEq

namespace KeyFile

def initial32 (self : KeyFile) (x : Nat) : UInt32 := as32 self.initialKeys x

def private32 (self : KeyFile) (x : Nat) : UInt32 := as32 self.privateKeys x

def setInitial32 (self : KeyFile) (x : Nat) (v : UInt32) : KeyFile :=
  { self with initialKeys := set32 self.initialKeys x v }

def setPrivate32 (self : KeyFile) (x : Nat) (v : UInt32) : KeyFile :=
  { self with privateKeys := set32 self.privateKeys x v }

/-- The first byte of the initial keys. -/
def jsd1StreamOffset (self : KeyFile) : UInt8 := self.initialKeys.getD 0 0

/-- The sum of four private keys that all the block ciphers use. -/
def mix (self : KeyFile) (v : UInt32) : UInt32 :=
  ((self.private32 (v >>> 24).toNat + self.private32 (((v >>> 16) &&& 0xFF).toNat + 0x100)) ^^^
      self.private32 (((v >>> 8) &&& 0xFF).toNat + 0x200)) +
    self.private32 ((v &&& 0xFF).toNat + 0x300)

end KeyFile

/-- The seed with its three-byte mask. The source reads three bytes at a time
from memory, also when the size is no multiple of three. -/
def maskSeed (originalSeed : List UInt8) (seedSize : Nat) : Except Exception (List UInt8) :=
  (List.range ((seedSize + 2) / 3)).foldlM (fun seed k =>
    match originalSeed[3 * k]?, originalSeed[3 * k + 1]?, originalSeed[3 * k + 2]? with
    | some b0, some b1, some b2 => .ok (seed ++ [b0 ^^^ 0x19, b1 ^^^ 0x16, b2 ^^^ 0x18])
    | _, _, _ => .error .undefined) []

/-- The big-endian value of four seed bytes, which wrap round at `size`. -/
def seedWord (seed : List UInt8) (size x : Nat) : UInt32 :=
  let byte (k : Nat) : UInt32 := (seed.getD ((x + k) % size) 0).toUInt32
  (byte 0 <<< 24) ||| (byte 1 <<< 16) ||| (byte 2 <<< 8) ||| byte 3

def tfs1Scramble (self : KeyFile) (out : UInt32 × UInt32) : UInt32 × UInt32 :=
  let (a, b) := (List.range 8).foldl (fun (a, b) k =>
    let a := a ^^^ self.initial32 (2 * k)
    let b := b ^^^ (self.mix a ^^^ self.initial32 (2 * k + 1))
    let a := a ^^^ self.mix b
    (a, b)) out
  (self.initial32 0x11 ^^^ b, self.initial32 0x10 ^^^ a)

/-- The state of the loops that replace the keys: the keys, and the last pair
of values. -/
abbrev Schedule := KeyFile × UInt32 × UInt32

/-- Replace two initial keys by the next pair of values. -/
def fillInitial (next : KeyFile → UInt32 × UInt32 → UInt32 × UInt32) (s : Schedule) (k : Nat) :
    Schedule :=
  let out := next s.1 s.2
  ((s.1.setInitial32 (2 * k) out.1).setInitial32 (2 * k + 1) out.2, out)

def fillPrivate (next : KeyFile → UInt32 × UInt32 → UInt32 × UInt32) (s : Schedule) (k : Nat) :
    Schedule :=
  let out := next s.1 s.2
  ((s.1.setPrivate32 (2 * k) out.1).setPrivate32 (2 * k + 1) out.2, out)

/-- Mix the seed into the initial keys. -/
def mixSeed (seed : List UInt8) (size : Nat) (state : KeyFile) (x : Nat) : KeyFile :=
  state.setInitial32 x (state.initial32 x ^^^ seedWord seed size (4 * x))

def premixTFS1 (state : KeyFile) (x : Nat) : KeyFile :=
  let a := state.initial32 x &&& 0xFFFF
  state.setInitial32 x (((a <<< 0x10) ^^^ (state.initial32 x &&& 0xFFFF0000)) + a)

def applySeedTFS1 (self : KeyFile) (seed : List UInt8) (seedSize : Nat) : KeyFile :=
  let state := (List.range 0x12).foldl premixTFS1 self
  let state := (List.range 0x12).foldl (mixSeed seed seedSize) state
  let s := (List.range 9).foldl (fillInitial tfs1Scramble) (state, 0, 0)
  ((List.range 0x200).foldl (fillPrivate tfs1Scramble) s).1

def fillJSD1 (seed : List UInt8) (state : KeyFile) (z : Nat) : KeyFile :=
  let v := seed.getD (z % seed.length) 0
  { state with
    privateKeys := state.privateKeys.setIfInBounds z ((UInt8.ofNat z + v) ^^^ (v >>> 1)) }

def applySeedJSD1 (self : KeyFile) (seed : List UInt8) : KeyFile :=
  (List.range 0x100).foldl (fillJSD1 seed) self

/-- The rounds that `STANDARD` and `MOCB1` use to replace the keys. -/
def scramble (self : KeyFile) (p : UInt32 × UInt32) : UInt32 × UInt32 :=
  let (esi, ecx) := p
  let esi := esi ^^^ self.initial32 0
  let eax := self.mix esi
  let eax := eax ^^^ self.initial32 1
  let ecx := ecx ^^^ eax
  let ebx := self.mix ecx
  let (esi, ecx, ebx) := (List.range 6).foldl (fun (esi, ecx, ebx) x =>
    let ebx := ebx ^^^ self.initial32 (x * 2 + 2)
    let esi := esi ^^^ ebx
    let ebx := self.mix esi
    let ebx := ebx ^^^ self.initial32 (x * 2 + 3)
    let ecx := ecx ^^^ ebx
    let ebx := self.mix ecx
    (esi, ecx, ebx)) (esi, ecx, ebx)
  let ebx := ebx ^^^ self.initial32 14
  let esi := esi ^^^ ebx
  let eax := self.mix esi
  let eax := eax ^^^ self.initial32 15
  let eax := ecx ^^^ eax
  let ecx := self.mix eax
  let ecx := ecx ^^^ self.initial32 16
  let ecx := ecx ^^^ esi
  let esi := self.initial32 17
  let esi := esi ^^^ eax
  (esi, ecx)

def premixMOCB1 (state : KeyFile) (x : Nat) : KeyFile :=
  let a := (state.initialKeys.getD (4 * x + 0) 0).toUInt32
  let b := (state.initialKeys.getD (4 * x + 1) 0).toUInt32
  let c := (state.initialKeys.getD (4 * x + 2) 0).toUInt32
  let d := (state.initialKeys.getD (4 * x + 3) 0).toUInt32
  state.setInitial32 x (((a ^^^ d) <<< 24) ||| ((b ^^^ c) <<< 16) ||| (a <<< 8) ||| b)

def applySeedMOCB1 (self : KeyFile) : KeyFile :=
  (List.range 0x12).foldl premixMOCB1 self

/-- What `STANDARD` and `MOCB1` share. The private keys are replaced in four
parts of 0x100 keys each. -/
def applySeedStandard (self : KeyFile) (seed : List UInt8) : KeyFile :=
  let state := (List.range 0x12).foldl (mixSeed seed seed.length) self
  let s := (List.range 9).foldl (fillInitial scramble) (state, 0, 0)
  ((List.range 4).foldl (fun s ou =>
    (List.range 0x80).foldl (fun s k => fillPrivate scramble s (0x80 * ou + k)) s) s).1

/-- The constructor; an instance is its `state`. Every subtype divides by the length of the seed. -/
def new (key : KeyFile) (originalSeed : List UInt8) (seedSize : Nat) :
    Except Exception KeyFile := do
  let seed ← maskSeed originalSeed seedSize
  if key.subtype = subtypeTFS1 then
    if seedSize = 0 then throw .undefined
    else return applySeedTFS1 key seed seedSize
  else if key.subtype = subtypeJSD1 then
    if seed.length = 0 then throw .undefined
    else return applySeedJSD1 key seed
  else
    if seedSize % 3 ≠ 0 then
      throw (.invalidArgument "seed size must be divisible by 3")
    else if seed.length = 0 then throw .undefined
    else if key.subtype = subtypeMOCB1 then
      return applySeedStandard (applySeedMOCB1 key) seed
    else
      return applySeedStandard key seed

def encryptBlockTFS1 (self : KeyFile) (p : UInt32 × UInt32) : UInt32 × UInt32 :=
  let (d0, d1) := [0, 2].foldl (fun (d0, d1) y =>
    let d0 := d0 ^^^ self.initial32 y
    let d1 := d1 ^^^ self.mix d0
    let d1 := d1 ^^^ self.initial32 (y + 1)
    let d0 := d0 ^^^ self.mix d1
    (d0, d1)) p
  let d0 := d0 ^^^ self.initial32 4
  let d1 := d1 ^^^ self.initial32 5
  (d1, d0)

def decryptBlockTFS1 (self : KeyFile) (p : UInt32 × UInt32) : UInt32 × UInt32 :=
  let (d0, d1) := [4, 2].foldl (fun (d0, d1) y =>
    let d0 := d0 ^^^ self.initial32 (y + 1)
    let d1 := d1 ^^^ self.mix d0
    let d1 := d1 ^^^ self.initial32 y
    let d0 := d0 ^^^ self.mix d1
    (d0, d1)) p
  let d0 := d0 ^^^ self.initial32 1
  let d1 := d1 ^^^ self.initial32 0
  (d1, d0)

def encryptBlockStandard (self : KeyFile) (p : UInt32 × UInt32) : UInt32 × UInt32 :=
  let (d0, d1) := p
  let ebx := d0 ^^^ self.initial32 0
  let ebp := self.mix ebx
  let ebp := ebp ^^^ self.initial32 1
  let ebp := ebp ^^^ d1
  let edi := self.mix ebp
  let edi := edi ^^^ self.initial32 2
  let ebx := ebx ^^^ edi
  let esi := self.mix ebx
  let ebp := ebp ^^^ esi ^^^ self.initial32 3
  let edi := self.mix ebp
  let edi := edi ^^^ self.initial32 4
  let ebp := ebp ^^^ self.initial32 5
  let ebx := ebx ^^^ edi
  (ebp, ebx)

def decryptBlockStandard (self : KeyFile) (p : UInt32 × UInt32) : UInt32 × UInt32 :=
  let (d0, d1) := p
  let ebx := d0
  let ebx := ebx ^^^ self.initial32 5
  let ebp := self.mix ebx
  let ebp := ebp ^^^ self.initial32 4
  let ebp := ebp ^^^ d1
  let edi := self.mix ebp
  let edi := edi ^^^ self.initial32 3
  let ebx := ebx ^^^ edi
  let esi := self.mix ebx
  let ebp := ebp ^^^ esi ^^^ self.initial32 2
  let edi := self.mix ebp
  let edi := edi ^^^ self.initial32 1
  let ebp := ebp ^^^ self.initial32 0
  let ebx := ebx ^^^ edi
  (ebp, ebx)

/-- The loop over the data as pairs of `le_uint32_t`. -/
def mapBlocks (f : UInt32 × UInt32 → UInt32 × UInt32) : List UInt8 → List UInt8
  | b0 :: b1 :: b2 :: b3 :: b4 :: b5 :: b6 :: b7 :: rest =>
      let d := f (le32 b0 b1 b2 b3, le32 b4 b5 b6 b7)
      byteOf d.1 0 :: byteOf d.1 1 :: byteOf d.1 2 :: byteOf d.1 3 ::
        byteOf d.2 0 :: byteOf d.2 1 :: byteOf d.2 2 :: byteOf d.2 3 :: mapBlocks f rest
  | rest => rest

/-- The key byte at the stream offset. -/
def jsd1Key (self : KeyFile) : UInt8 :=
  self.privateKeys.getD self.jsd1StreamOffset.toNat 0

/-- Use up a key byte for a byte of plain text. -/
def jsd1Advance (self : KeyFile) (v : UInt8) : KeyFile :=
  { self with
    privateKeys := self.privateKeys.setIfInBounds self.jsd1StreamOffset.toNat (jsd1Key self - v)
    initialKeys := self.initialKeys.setIfInBounds 0 (self.jsd1StreamOffset + 1) }

def jsd1Encrypt (self : KeyFile) : List UInt8 → List UInt8 × KeyFile
  | [] => ([], self)
  | v :: rest =>
      let (out, state) := jsd1Encrypt (jsd1Advance self v) rest
      ((v ^^^ jsd1Key self) :: out, state)

def jsd1Decrypt (self : KeyFile) : List UInt8 → List UInt8 × KeyFile
  | [] => ([], self)
  | c :: rest =>
      let v := c ^^^ jsd1Key self
      let (out, state) := jsd1Decrypt (jsd1Advance self v) rest
      (v :: out, state)

/-- Exchange the odd bits of each pair of bytes. -/
def swapOddBits : List UInt8 → List UInt8
  | a :: b :: rest => ((a &&& 0x55) ||| (b &&& 0xAA)) :: ((a &&& 0xAA) ||| (b &&& 0x55)) ::
      swapOddBits rest
  | rest => rest

def encrypt (self : KeyFile) (data : List UInt8) : Except Exception (List UInt8 × KeyFile) :=
  if self.subtype = subtypeTFS1 then
    if data.length &&& 7 ≠ 0 then
      throw (.invalidArgument "size must be a multiple of 8")
    else
      return (mapBlocks (encryptBlockTFS1 self) data, self)
  else if self.subtype = subtypeJSD1 then
    if data.length &&& 1 ≠ 0 then
      throw (.invalidArgument "size must be a multiple of 2")
    else
      let (bytes, state) := jsd1Encrypt self data
      return (swapOddBits bytes, state)
  else
    if data.length &&& 7 ≠ 0 then
      throw (.invalidArgument "size must be a multiple of 8")
    else
      return (mapBlocks (encryptBlockStandard self) data, self)

def decrypt (self : KeyFile) (data : List UInt8) : Except Exception (List UInt8 × KeyFile) :=
  if self.subtype = subtypeTFS1 then
    if data.length &&& 7 ≠ 0 then
      throw (.invalidArgument "size must be a multiple of 8")
    else
      return (mapBlocks (decryptBlockTFS1 self) data, self)
  else if self.subtype = subtypeJSD1 then
    if data.length &&& 1 ≠ 0 then
      throw (.invalidArgument "size must be a multiple of 2")
    else
      return jsd1Decrypt self (swapOddBits data)
  else
    if data.length &&& 7 ≠ 0 then
      throw (.invalidArgument "size must be a multiple of 8")
    else
      return (mapBlocks (decryptBlockStandard self) data, self)

/-- One side of a conversation. -/
def encryptAll : KeyFile → List (List UInt8) → Except Exception (List (List UInt8))
  | _, [] => return []
  | self, data :: messages => do
      let (out, self) ← encrypt self data
      let outs ← encryptAll self messages
      return out :: outs

def decryptAll : KeyFile → List (List UInt8) → Except Exception (List (List UInt8))
  | _, [] => return []
  | self, data :: messages => do
      let (out, self) ← decrypt self data
      let outs ← decryptAll self messages
      return out :: outs

theorem le32_byteOf (v : UInt32) :
    le32 (byteOf v 0) (byteOf v 1) (byteOf v 2) (byteOf v 3) = v := by
  have hv := v.toNat_lt
  rw [← UInt32.toNat_inj]
  simp only [le32, byteOf, UInt32.toNat_ofNat', UInt8.toNat_ofNat']
  omega

theorem byteOf_le32 (b0 b1 b2 b3 : UInt8) :
    byteOf (le32 b0 b1 b2 b3) 0 = b0 ∧ byteOf (le32 b0 b1 b2 b3) 1 = b1 ∧
      byteOf (le32 b0 b1 b2 b3) 2 = b2 ∧ byteOf (le32 b0 b1 b2 b3) 3 = b3 := by
  have h0 := b0.toNat_lt
  have h1 := b1.toNat_lt
  have h2 := b2.toNat_lt
  have h3 := b3.toNat_lt
  simp only [← UInt8.toNat_inj, le32, byteOf, UInt32.toNat_ofNat', UInt8.toNat_ofNat']
  omega

theorem mapBlocks_length (f : UInt32 × UInt32 → UInt32 × UInt32) (data : List UInt8) :
    (mapBlocks f data).length = data.length := by
  fun_induction mapBlocks f data with
  | case1 b0 b1 b2 b3 b4 b5 b6 b7 rest d ih => simp [ih]
  | case2 rest h => rfl

theorem mapBlocks_inverse {f g : UInt32 × UInt32 → UInt32 × UInt32} (hinverse : ∀ p, g (f p) = p)
    (data : List UInt8) : mapBlocks g (mapBlocks f data) = data := by
  fun_induction mapBlocks f data with
  | case1 b0 b1 b2 b3 b4 b5 b6 b7 rest d ih =>
      simp only [mapBlocks, le32_byteOf, d, hinverse, ih, byteOf_le32]
  | case2 rest h =>
      rw [mapBlocks]
      exact h

/-- The round function of the block ciphers. -/
def roundValue (self : KeyFile) (key v : UInt32) : UInt32 :=
  self.mix v ^^^ key

theorem xor_cancel (a b : UInt32) : (a ^^^ b) ^^^ b = a := by
  rw [UInt32.xor_assoc, UInt32.xor_self, UInt32.xor_zero]

section BlockCiphers

variable (self : KeyFile)

/-- The Feistel network of six keys that both block ciphers unroll. -/
def keyedNetwork (k0 k1 k2 k3 k4 k5 : UInt32) (p : UInt32 × UInt32) : UInt32 × UInt32 :=
  network (· ^^^ ·) (roundValue self) k0 [k1, k2, k3, k4] k5 p

theorem keyedNetwork_reverse (k0 k1 k2 k3 k4 k5 : UInt32) (p : UInt32 × UInt32) :
    keyedNetwork self k5 k4 k3 k2 k1 k0 (keyedNetwork self k0 k1 k2 k3 k4 k5 p) = p :=
  network_reverse xor_cancel k0 k5 [k1, k2, k3, k4] p

theorem encryptBlockTFS1_eq (p : UInt32 × UInt32) :
    encryptBlockTFS1 self p =
      keyedNetwork self (self.initial32 0) (self.initial32 1) (self.initial32 2)
        (self.initial32 3) (self.initial32 4) (self.initial32 5) p := by
  simp only [encryptBlockTFS1, keyedNetwork, network, rounds, FeistelNetwork.round, roundValue, List.foldl,
    UInt32.xor_assoc]

theorem decryptBlockTFS1_eq (p : UInt32 × UInt32) :
    decryptBlockTFS1 self p =
      keyedNetwork self (self.initial32 5) (self.initial32 4) (self.initial32 3)
        (self.initial32 2) (self.initial32 1) (self.initial32 0) p := by
  simp only [decryptBlockTFS1, keyedNetwork, network, rounds, FeistelNetwork.round, roundValue, List.foldl,
    UInt32.xor_assoc]

/-- The unrolled code of the standard cipher is the network of its keys. -/
theorem standard_eq (k0 k1 k2 k3 k4 k5 d0 d1 : UInt32) :
    let ebx := d0 ^^^ k0
    let ebp := self.mix ebx ^^^ k1 ^^^ d1
    let ebx' := ebx ^^^ (self.mix ebp ^^^ k2)
    let ebp' := ebp ^^^ self.mix ebx' ^^^ k3
    (ebp' ^^^ k5, ebx' ^^^ (self.mix ebp' ^^^ k4)) = keyedNetwork self k0 k1 k2 k3 k4 k5 (d0, d1) := by
  simp only [keyedNetwork, network, rounds, FeistelNetwork.round, roundValue, List.foldl]
  rw [UInt32.xor_comm (self.mix (d0 ^^^ k0) ^^^ k1) d1]
  simp only [UInt32.xor_assoc]

theorem encryptBlockStandard_eq (p : UInt32 × UInt32) :
    encryptBlockStandard self p =
      keyedNetwork self (self.initial32 0) (self.initial32 1) (self.initial32 2)
        (self.initial32 3) (self.initial32 4) (self.initial32 5) p :=
  standard_eq self _ _ _ _ _ _ p.1 p.2

theorem decryptBlockStandard_eq (p : UInt32 × UInt32) :
    decryptBlockStandard self p =
      keyedNetwork self (self.initial32 5) (self.initial32 4) (self.initial32 3)
        (self.initial32 2) (self.initial32 1) (self.initial32 0) p :=
  standard_eq self _ _ _ _ _ _ p.1 p.2

theorem decryptBlockTFS1_encryptBlockTFS1 (p : UInt32 × UInt32) :
    decryptBlockTFS1 self (encryptBlockTFS1 self p) = p := by
  rw [encryptBlockTFS1_eq, decryptBlockTFS1_eq, keyedNetwork_reverse]

theorem decryptBlockStandard_encryptBlockStandard (p : UInt32 × UInt32) :
    decryptBlockStandard self (encryptBlockStandard self p) = p := by
  rw [encryptBlockStandard_eq, decryptBlockStandard_eq, keyedNetwork_reverse]

end BlockCiphers

theorem xor_cancel_byte (a b : UInt8) : (a ^^^ b) ^^^ b = a := by
  rw [UInt8.xor_assoc, UInt8.xor_self, UInt8.xor_zero]

theorem jsd1Encrypt_length (self : KeyFile) (data : List UInt8) :
    (jsd1Encrypt self data).1.length = data.length := by
  induction data generalizing self with
  | nil => rfl
  | cons v rest ih => simp [jsd1Encrypt, ih]

theorem jsd1Encrypt_subtype (self : KeyFile) (data : List UInt8) :
    (jsd1Encrypt self data).2.subtype = self.subtype := by
  induction data generalizing self with
  | nil => rfl
  | cons v rest ih => exact ih (jsd1Advance self v)

/-- Both directions use up the key bytes by the plain text, so that they stay
in step. -/
theorem jsd1Decrypt_jsd1Encrypt (self : KeyFile) (data : List UInt8) :
    jsd1Decrypt self (jsd1Encrypt self data).1 = (data, (jsd1Encrypt self data).2) := by
  induction data generalizing self with
  | nil => rfl
  | cons v rest ih => simp only [jsd1Encrypt, jsd1Decrypt, xor_cancel_byte, ih]

theorem swapOddBits_pair (a b : UInt8) :
    let c := (a &&& 0x55) ||| (b &&& 0xAA)
    let d := (a &&& 0xAA) ||| (b &&& 0x55)
    ((c &&& 0x55) ||| (d &&& 0xAA)) = a ∧ ((c &&& 0xAA) ||| (d &&& 0x55)) = b := by
  have hbit : ∀ (x y : Bool) (i : Nat) (hi : i < 8),
      let odd := (0xAA : BitVec 8)[i]
      let even := (0x55 : BitVec 8)[i]
      let c := (x && even) || (y && odd)
      let d := (x && odd) || (y && even)
      ((c && even) || (d && odd)) = x ∧ ((c && odd) || (d && even)) = y := by
    decide
  constructor
  · rw [← UInt8.toBitVec_inj]
    ext i hi
    simp only [UInt8.toBitVec_or, UInt8.toBitVec_and, BitVec.getElem_or, BitVec.getElem_and]
    exact (hbit a.toBitVec[i] b.toBitVec[i] i hi).1
  · rw [← UInt8.toBitVec_inj]
    ext i hi
    simp only [UInt8.toBitVec_or, UInt8.toBitVec_and, BitVec.getElem_or, BitVec.getElem_and]
    exact (hbit a.toBitVec[i] b.toBitVec[i] i hi).2

theorem swapOddBits_swapOddBits (data : List UInt8) : swapOddBits (swapOddBits data) = data := by
  fun_induction swapOddBits data with
  | case1 a b rest ih =>
      obtain ⟨ha, hb⟩ := swapOddBits_pair a b
      simp only [swapOddBits, ha, hb, ih]
  | case2 rest h =>
      rw [swapOddBits]
      exact h

theorem swapOddBits_length (data : List UInt8) : (swapOddBits data).length = data.length := by
  fun_induction swapOddBits data with
  | case1 a b rest ih => simp [ih]
  | case2 rest h => rfl

theorem fillInitial_subtype (next : KeyFile → UInt32 × UInt32 → UInt32 × UInt32) (s : Schedule)
    (k : Nat) : (fillInitial next s k).1.subtype = s.1.subtype := by
  simp only [fillInitial, KeyFile.setInitial32]

theorem fillPrivate_subtype (next : KeyFile → UInt32 × UInt32 → UInt32 × UInt32) (s : Schedule)
    (k : Nat) : (fillPrivate next s k).1.subtype = s.1.subtype := by
  simp only [fillPrivate, KeyFile.setPrivate32]

theorem mixSeed_subtype (seed : List UInt8) (size : Nat) (state : KeyFile) (x : Nat) :
    (mixSeed seed size state x).subtype = state.subtype := by
  simp only [mixSeed, KeyFile.setInitial32]

theorem premixTFS1_subtype (state : KeyFile) (x : Nat) :
    (premixTFS1 state x).subtype = state.subtype := by
  simp only [premixTFS1, KeyFile.setInitial32]

theorem premixMOCB1_subtype (state : KeyFile) (x : Nat) :
    (premixMOCB1 state x).subtype = state.subtype := by
  simp only [premixMOCB1, KeyFile.setInitial32]

theorem applySeedTFS1_subtype (self : KeyFile) (seed : List UInt8) (seedSize : Nat) :
    (applySeedTFS1 self seed seedSize).subtype = self.subtype := by
  rw [applySeedTFS1, foldl_keeps (fun s : Schedule => s.1.subtype) (fillPrivate_subtype _),
    foldl_keeps (fun s : Schedule => s.1.subtype) (fillInitial_subtype _),
    foldl_keeps KeyFile.subtype (mixSeed_subtype _ _),
    foldl_keeps KeyFile.subtype premixTFS1_subtype]

theorem applySeedJSD1_subtype (self : KeyFile) (seed : List UInt8) :
    (applySeedJSD1 self seed).subtype = self.subtype :=
  foldl_keeps KeyFile.subtype (f := fillJSD1 seed) (fun _ _ => rfl) _ _

theorem applySeedMOCB1_subtype (self : KeyFile) :
    (applySeedMOCB1 self).subtype = self.subtype :=
  foldl_keeps KeyFile.subtype premixMOCB1_subtype _ _

theorem applySeedStandard_subtype (self : KeyFile) (seed : List UInt8) :
    (applySeedStandard self seed).subtype = self.subtype := by
  rw [applySeedStandard, foldl_keeps (fun s : Schedule => s.1.subtype)
      (fun _ _ => foldl_keeps (fun s : Schedule => s.1.subtype)
        (fun s _ => fillPrivate_subtype _ s _) _ _),
    foldl_keeps (fun s : Schedule => s.1.subtype) (fillInitial_subtype _),
    foldl_keeps KeyFile.subtype (mixSeed_subtype _ _)]

/-- The constructor does not change the subtype. -/
theorem new_subtype {key state : KeyFile} {originalSeed : List UInt8} {seedSize : Nat}
    (h : new key originalSeed seedSize = .ok state) : state.subtype = key.subtype := by
  simp only [new, bind_eq_ok] at h
  obtain ⟨seed, -, h⟩ := h
  split_ifs at h <;>
    simp only [pure_eq_ok, Except.ok.injEq] at h <;> rw [← h]
  · exact applySeedTFS1_subtype key seed seedSize
  · exact applySeedJSD1_subtype key seed
  · exact (applySeedStandard_subtype _ seed).trans (applySeedMOCB1_subtype key)
  · exact applySeedStandard_subtype key seed

/-- The sizes that a cipher accepts. -/
def AcceptsSize (subtype : UInt64) (size : Nat) : Prop :=
  if subtype = subtypeJSD1 then size &&& 1 = 0 else size &&& 7 = 0

/-- Decrypting an encrypted message recovers the message, and leaves the two
instances in the same state. -/
theorem decrypt_encrypt {self : KeyFile} {data : List UInt8}
    (hsize : AcceptsSize self.subtype data.length) :
    ∃ out state, encrypt self data = .ok (out, state) ∧ decrypt self out = .ok (data, state) ∧
      state.subtype = self.subtype := by
  by_cases hTFS1 : self.subtype = subtypeTFS1
  · have hJSD1 : self.subtype ≠ subtypeJSD1 := by
      rw [hTFS1]
      decide
    rw [AcceptsSize, if_neg hJSD1] at hsize
    refine ⟨mapBlocks (encryptBlockTFS1 self) data, self, ?_, ?_, rfl⟩
    · simp [encrypt, hTFS1, hsize, pure_eq_ok]
    · simp [decrypt, hTFS1, mapBlocks_length, hsize, pure_eq_ok,
        mapBlocks_inverse (decryptBlockTFS1_encryptBlockTFS1 self)]
  · by_cases hJSD1 : self.subtype = subtypeJSD1
    · rw [AcceptsSize, if_pos hJSD1] at hsize
      refine ⟨swapOddBits (jsd1Encrypt self data).1, (jsd1Encrypt self data).2, ?_, ?_,
        jsd1Encrypt_subtype self data⟩
      · rw [encrypt, if_neg hTFS1, if_pos hJSD1, if_neg (not_not.mpr hsize)]
        rfl
      · rw [decrypt, if_neg hTFS1, if_pos hJSD1, swapOddBits_length, jsd1Encrypt_length,
          if_neg (not_not.mpr hsize), swapOddBits_swapOddBits, jsd1Decrypt_jsd1Encrypt]
        rfl
    · rw [AcceptsSize, if_neg hJSD1] at hsize
      refine ⟨mapBlocks (encryptBlockStandard self) data, self, ?_, ?_, rfl⟩
      · simp [encrypt, hTFS1, hJSD1, hsize, pure_eq_ok]
      · simp [decrypt, hTFS1, hJSD1, mapBlocks_length, hsize, pure_eq_ok,
          mapBlocks_inverse (decryptBlockStandard_encryptBlockStandard self)]

theorem mapBlocks_append (f : UInt32 × UInt32 → UInt32 × UInt32) {a : List UInt8}
    (ha : 8 ∣ a.length) (b : List UInt8) : mapBlocks f (a ++ b) = mapBlocks f a ++ mapBlocks f b := by
  fun_induction mapBlocks f a with
  | case1 b0 b1 b2 b3 b4 b5 b6 b7 rest d ih =>
      have hrest : 8 ∣ rest.length := by
        simp only [List.length_cons] at ha
        omega
      simp only [List.cons_append, mapBlocks, ih hrest, d]
  | case2 rest hrest =>
      match rest, hrest with
      | [], _ => rfl
      | [_], _ | [_, _], _ | [_, _, _], _ | [_, _, _, _], _ | [_, _, _, _, _], _
      | [_, _, _, _, _, _], _ | [_, _, _, _, _, _, _], _ => simp [Nat.dvd_iff_mod_eq_zero] at ha
      | b0 :: b1 :: b2 :: b3 :: b4 :: b5 :: b6 :: b7 :: rest, hrest =>
          exact absurd rfl (hrest b0 b1 b2 b3 b4 b5 b6 b7 rest)

theorem jsd1Encrypt_append (self : KeyFile) (a b : List UInt8) :
    jsd1Encrypt self (a ++ b) =
      ((jsd1Encrypt self a).1 ++ (jsd1Encrypt (jsd1Encrypt self a).2 b).1,
        (jsd1Encrypt (jsd1Encrypt self a).2 b).2) := by
  induction a generalizing self with
  | nil => rfl
  | cons v rest ih => simp only [List.cons_append, jsd1Encrypt, ih]

theorem swapOddBits_append {a : List UInt8} (ha : 2 ∣ a.length) (b : List UInt8) :
    swapOddBits (a ++ b) = swapOddBits a ++ swapOddBits b := by
  fun_induction swapOddBits a with
  | case1 v w rest ih =>
      have hrest : 2 ∣ rest.length := by
        simp only [List.length_cons] at ha
        omega
      simp only [List.cons_append, swapOddBits, ih hrest]
  | case2 rest hrest =>
      match rest, hrest with
      | [], _ => rfl
      | [_], _ => simp at ha
      | v :: w :: rest, hrest => exact absurd rfl (hrest v w rest)

/-- Two of the three ciphers map the blocks of the data. -/
theorem encrypt_blocks {self : KeyFile} (h : self.subtype ≠ subtypeJSD1) :
    ∃ f, ∀ data, encrypt self data =
      if data.length &&& 7 ≠ 0 then .error (.invalidArgument "size must be a multiple of 8")
      else .ok (mapBlocks f data, self) := by
  by_cases hTFS1 : self.subtype = subtypeTFS1
  · refine ⟨encryptBlockTFS1 self, fun data => ?_⟩
    rw [encrypt, if_pos hTFS1]
    rfl
  · refine ⟨encryptBlockStandard self, fun data => ?_⟩
    rw [encrypt, if_neg hTFS1, if_neg h]
    rfl

theorem encrypt_jsd1 {self : KeyFile} (h : self.subtype = subtypeJSD1) (data : List UInt8) :
    encrypt self data =
      if data.length &&& 1 ≠ 0 then .error (.invalidArgument "size must be a multiple of 2")
      else .ok (swapOddBits (jsd1Encrypt self data).1, (jsd1Encrypt self data).2) := by
  have hTFS1 : self.subtype ≠ subtypeTFS1 := by
    rw [h]
    decide
  rw [encrypt, if_neg hTFS1, if_pos h]
  rfl

theorem and_seven (n : Nat) : n &&& 7 = n % 8 :=
  Nat.and_two_pow_sub_one_eq_mod n 3

/-- Every cipher accepts whole blocks. -/
theorem acceptsSize_of_dvd (subtype : UInt64) {size : Nat} (h : 8 ∣ size) :
    AcceptsSize subtype size := by
  rw [AcceptsSize, Nat.and_one_is_mod, and_seven]
  split_ifs
  · omega
  · exact Nat.mod_eq_zero_of_dvd h

/-- A message may be cut between two blocks. -/
theorem encrypt_append {self mid final : KeyFile} {a b outA outB : List UInt8} (ha : 8 ∣ a.length)
    (hencryptA : encrypt self a = .ok (outA, mid)) (hencryptB : encrypt mid b = .ok (outB, final)) :
    encrypt self (a ++ b) = .ok (outA ++ outB, final) := by
  by_cases hJSD1 : self.subtype = subtypeJSD1
  · have heven : (a ++ b).length &&& 1 = b.length &&& 1 := by
      rw [Nat.and_one_is_mod, Nat.and_one_is_mod, List.length_append]
      omega
    rw [encrypt_jsd1 hJSD1] at hencryptA
    split_ifs at hencryptA
    obtain ⟨rfl, rfl⟩ := Prod.mk.inj (Except.ok.inj hencryptA)
    rw [encrypt_jsd1 ((jsd1Encrypt_subtype self a).trans hJSD1)] at hencryptB
    split_ifs at hencryptB with hb
    obtain ⟨rfl, rfl⟩ := Prod.mk.inj (Except.ok.inj hencryptB)
    have hlength : 2 ∣ (jsd1Encrypt self a).1.length := by
      rw [jsd1Encrypt_length]
      omega
    rw [encrypt_jsd1 hJSD1, heven, if_neg hb, jsd1Encrypt_append, swapOddBits_append hlength]
  · obtain ⟨f, hf⟩ := encrypt_blocks hJSD1
    have haligned : (a ++ b).length &&& 7 = b.length &&& 7 := by
      rw [and_seven, and_seven, List.length_append]
      omega
    rw [hf] at hencryptA
    split_ifs at hencryptA
    obtain ⟨rfl, rfl⟩ := Prod.mk.inj (Except.ok.inj hencryptA)
    rw [hf] at hencryptB
    split_ifs at hencryptB with hb
    obtain ⟨rfl, rfl⟩ := Prod.mk.inj (Except.ok.inj hencryptB)
    rw [hf, haligned, if_neg hb, mapBlocks_append f ha]

theorem encrypt_length {self state : KeyFile} {data out : List UInt8}
    (h : encrypt self data = .ok (out, state)) : out.length = data.length := by
  by_cases hJSD1 : self.subtype = subtypeJSD1
  · rw [encrypt_jsd1 hJSD1] at h
    split_ifs at h
    obtain ⟨rfl, -⟩ := Prod.mk.inj (Except.ok.inj h)
    rw [swapOddBits_length, jsd1Encrypt_length]
  · obtain ⟨f, hf⟩ := encrypt_blocks hJSD1
    rw [hf] at h
    split_ifs at h
    obtain ⟨rfl, -⟩ := Prod.mk.inj (Except.ok.inj h)
    exact mapBlocks_length f data

theorem decryptAll_encryptAll_self {self : KeyFile} {messages : List (List UInt8)}
    (hsizes : ∀ data ∈ messages, AcceptsSize self.subtype data.length) :
    ∃ outs, encryptAll self messages = .ok outs ∧ decryptAll self outs = .ok messages := by
  induction messages generalizing self with
  | nil => exact ⟨[], rfl, rfl⟩
  | cons data messages ih =>
      obtain ⟨out, state, hencrypt, hdecrypt, hsubtype⟩ :=
        decrypt_encrypt (hsizes data List.mem_cons_self)
      obtain ⟨outs, hencrypts, hdecrypts⟩ := @ih state fun data' hdata' => by
        rw [hsubtype]
        exact hsizes data' (List.mem_cons_of_mem data hdata')
      refine ⟨out :: outs, ?_, ?_⟩
      · simp only [encryptAll, hencrypt, hencrypts, ok_bind, pure_eq_ok]
      · simp only [decryptAll, hdecrypt, hdecrypts, ok_bind, pure_eq_ok]

/-- A conversation that one instance encrypts is recovered by another instance
with the same key file and seed. -/
theorem decryptAll_encryptAll {key sender receiver : KeyFile} {originalSeed : List UInt8}
    {seedSize : Nat} (hsender : new key originalSeed seedSize = .ok sender)
    (hreceiver : new key originalSeed seedSize = .ok receiver) {messages : List (List UInt8)}
    (hsizes : ∀ data ∈ messages, AcceptsSize key.subtype data.length) :
    ∃ outs, encryptAll sender messages = .ok outs ∧ decryptAll receiver outs = .ok messages := by
  obtain rfl := Except.ok.inj (hsender.symm.trans hreceiver)
  rw [← new_subtype hsender] at hsizes
  exact decryptAll_encryptAll_self hsizes

/-- Two messages of the stream cipher, of which the second depends on the
state that the first leaves. -/
theorem decryptAll_encryptAll_jsd1 :
    ∃ sender,
      new ⟨Vector.replicate 0x48 0, Vector.replicate 0x1000 0, subtypeJSD1⟩ [1, 2, 3] 3 =
          .ok sender ∧
        ∃ outs, encryptAll sender [[10, 20], [30, 40, 50, 60]] = .ok outs ∧
          decryptAll sender outs = .ok [[10, 20], [30, 40, 50, 60]] := by
  have hnew : new ⟨Vector.replicate 0x48 0, Vector.replicate 0x1000 0, subtypeJSD1⟩
      [1, 2, 3] 3 = .ok (applySeedJSD1 _ [0x18, 0x14, 0x1B]) := rfl
  refine ⟨_, hnew, decryptAll_encryptAll hnew hnew ?_⟩
  simp [AcceptsSize]

end HuntersGuild.PsoBbEncryption
