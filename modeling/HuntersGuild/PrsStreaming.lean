import HuntersGuild.PrsEncoding

/-!
`PRSCompressor`, which compresses data while they come in. It keeps the bytes that are
not compressed yet in one ring and the last 0x2000 that are in another one, with an index
of the places of each byte.
-/

namespace HuntersGuild.PrsStreaming

open HuntersGuild.ByteStreams
open HuntersGuild.PrsEncoding (encodeOffset)

/-- `WrappedLog::at`. -/
def wrappedAt (data : List UInt8) (offset : Nat) : UInt8 := data.getD (offset % data.length) 0

/-- The assignment to a `WrappedLog::at`. -/
def wrappedSet (data : List UInt8) (offset : Nat) (v : UInt8) : List UInt8 := data.set (offset % data.length) v

/-- `IndexedLog<0x2000>`. -/
structure IndexedLog where
  data : List UInt8
  offset : Nat
  size : Nat
  index : UInt8 → List Nat

namespace IndexedLog

def new : IndexedLog := ⟨List.replicate 0x2000 0, 0, 0, fun _ => []⟩

def endOffset (self : IndexedLog) : Nat := self.offset + self.size

def popFront (self : IndexedLog) : IndexedLog :=
  let v := wrappedAt self.data self.offset
  { self with
    index := Function.update self.index v (self.index v).tail
    offset := self.offset + 1
    size := self.size - 1 }

def pushBack (self : IndexedLog) (v : UInt8) : IndexedLog :=
  let self := if self.size = 0x2000 then self.popFront else self
  let writeOffset := self.offset + self.size
  { self with
    data := wrappedSet self.data writeOffset v
    index := Function.update self.index v (self.index v ++ [writeOffset])
    size := self.size + 1 }

def popBack (self : IndexedLog) : Except Exception IndexedLog :=
  if self.size = 0 then throw (.logicError "pop_back called on empty IndexedLog")
  else
    let size := self.size - 1
    let v := wrappedAt self.data (self.offset + size)
    return { self with size, index := Function.update self.index v (self.index v).dropLast }

end IndexedLog

structure PRSCompressor where
  compressionLevel : Int
  closed : Bool
  controlByteOffset : Nat
  pendingControlBits : UInt16
  inputBytes : Nat
  forwardLog : List UInt8
  reverseLog : IndexedLog
  output : List UInt8

/-- The longest match that was found, and the literals before it. -/
structure BestMatch where
  size : Nat
  offset : Nat
  literals : Nat

namespace PRSCompressor

def new (compressionLevel : Int) : PRSCompressor :=
  ⟨compressionLevel, false, 0, 0, 0, List.replicate 0x101 0, .new, [0]⟩

def writeControl (self : PRSCompressor) (z : Bool) : PRSCompressor :=
  if self.pendingControlBits &&& 0x0100 ≠ 0 then
    { self with
      output := self.output.set self.controlByteOffset self.pendingControlBits.toUInt8 ++ [0]
      controlByteOffset := self.output.length
      pendingControlBits := if z then 0x8080 else 0x8000 }
  else
    { self with pendingControlBits := self.pendingControlBits >>> 1 ||| if z then 0x8080 else 0x8000 }

def putU8 (self : PRSCompressor) (v : UInt8) : PRSCompressor := { self with output := self.output ++ [v] }

/-- The loop in `flush_control`, which shifts at most 16 times. -/
def shiftControl : Nat → UInt16 → UInt16
  | 0, bits => bits
  | fuel + 1, bits => if bits &&& 0x0100 ≠ 0 then bits else shiftControl fuel (bits >>> 1)

def flushControl (self : PRSCompressor) : Except Exception PRSCompressor :=
  if self.pendingControlBits &&& 0xFF00 ≠ 0 then
    let bits := shiftControl 16 self.pendingControlBits
    return { self with pendingControlBits := bits, output := self.output.set self.controlByteOffset bits.toUInt8 }
  else if self.controlByteOffset ≠ self.output.length - 1 then
    throw (.logicError "data written without control bits")
  else return { self with output := self.output.dropLast }

def moveForwardDataToReverseLog : Nat → PRSCompressor → PRSCompressor
  | 0, self => self
  | size + 1, self => moveForwardDataToReverseLog size { self with
      reverseLog := self.reverseLog.pushBack (wrappedAt self.forwardLog self.reverseLog.endOffset) }

def advanceLiteral (self : PRSCompressor) : PRSCompressor :=
  let self := self.writeControl true
  let self := self.putU8 (wrappedAt self.forwardLog self.reverseLog.endOffset)
  self.moveForwardDataToReverseLog 1

def advanceShortCopy (self : PRSCompressor) (offset : Int) (size : Nat) : PRSCompressor :=
  let encodedSize := size - 2
  let self := self.writeControl false
  let self := self.writeControl false
  let self := self.writeControl (encodedSize &&& 2 != 0)
  let self := self.writeControl (encodedSize &&& 1 != 0)
  let self := self.putU8 (.ofNat (offset % 0x100).toNat)
  self.moveForwardDataToReverseLog size

def advanceLongCopy (self : PRSCompressor) (offset : Int) (size : Nat) : PRSCompressor :=
  let self := self.writeControl false
  let self := self.writeControl true
  let a := encodeOffset offset (size - 2)
  let self := self.putU8 (.ofNat (a % 0x100))
  let self := self.putU8 (.ofNat (a / 0x100))
  self.moveForwardDataToReverseLog size

def advanceExtendedCopy (self : PRSCompressor) (offset : Int) (size : Nat) : PRSCompressor :=
  let self := self.writeControl false
  let self := self.writeControl true
  let a := encodeOffset offset 0
  let self := self.putU8 (.ofNat (a % 0x100))
  let self := self.putU8 (.ofNat (a / 0x100))
  let self := self.putU8 (.ofNat (size - 1))
  self.moveForwardDataToReverseLog size

/-- The size of the match of what comes next with what is at an offset. A match may run
into itself. -/
def matchSize (self : PRSCompressor) (compressionOffset matchOffset : Nat) : Nat → Nat → Nat
  | 0, n => n
  | fuel + 1, n =>
      if compressionOffset + n < self.inputBytes ∧
          wrappedAt self.reverseLog.data (matchOffset + n % (compressionOffset - matchOffset)) =
            wrappedAt self.forwardLog (compressionOffset + n) then
        self.matchSize compressionOffset matchOffset fuel (n + 1)
      else n

/-- The loop over the places of the next byte. Of the longest matches the last is taken. -/
def searchMatches (self : PRSCompressor) (compressionOffset numLiterals : Nat) (best : BestMatch) :
    List Nat → BestMatch
  | [] => best
  | matchOffset :: startOffsets =>
      if ¬ best.size < 0x100 then best
      else if matchOffset + 0x2000 ≤ compressionOffset then
        self.searchMatches compressionOffset numLiterals best startOffsets
      else
        let n := self.matchSize compressionOffset matchOffset 0x100 0
        let best := if n ≥ best.size + best.literals then ⟨n, matchOffset, numLiterals⟩ else best
        self.searchMatches compressionOffset numLiterals best startOffsets

/-- The search behind so many literals, which are put into the log for it. -/
def searchBehind (self : PRSCompressor) (best : BestMatch) (numLiterals : Nat) :
    Except Exception (PRSCompressor × BestMatch) := do
  let self := self.moveForwardDataToReverseLog numLiterals
  let compressionOffset := self.reverseLog.endOffset
  let firstV := wrappedAt self.forwardLog compressionOffset
  let best := self.searchMatches compressionOffset numLiterals best (self.reverseLog.index firstV)
  let reverseLog ← (List.range numLiterals).foldlM (fun log _ => log.popBack) self.reverseLog
  return ({ self with reverseLog }, best)

/-- The command for a match of a size: a literal where no match is worth it. -/
def writeMatch (self : PRSCompressor) (best : BestMatch) : Except Exception PRSCompressor :=
  let backreferenceOffset : Int := best.offset - self.reverseLog.endOffset
  if best.size < 2 then return self.advanceLiteral
  else if backreferenceOffset ≥ -0x100 ∧ best.size ≤ 5 then
    return self.advanceShortCopy backreferenceOffset best.size
  else if best.size < 3 then return self.advanceLiteral
  else if backreferenceOffset ≥ -0x1FFF ∧ best.size ≤ 9 then
    return self.advanceLongCopy backreferenceOffset best.size
  else if backreferenceOffset ≥ -0x1FFF ∧ best.size ≤ 0x100 then
    return self.advanceExtendedCopy backreferenceOffset best.size
  else throw (.logicError "invalid best match")

def advance (self : PRSCompressor) : Except Exception PRSCompressor := do
  let (self, best) ← (List.range (self.compressionLevel + 1).toNat).foldlM
    (fun (self, best) numLiterals => searchBehind self best numLiterals) (self, ⟨0, 0, 0⟩)
  let self := (List.range best.literals).foldl (fun self _ => self.advanceLiteral) self
  self.writeMatch best

def addByte (self : PRSCompressor) (v : UInt8) : Except Exception PRSCompressor := do
  let self ← if self.reverseLog.endOffset + self.forwardLog.length ≤ self.inputBytes then self.advance else pure self
  return { self with
    forwardLog := wrappedSet self.forwardLog self.inputBytes v
    inputBytes := self.inputBytes + 1 }

def add (self : PRSCompressor) (data : List UInt8) : Except Exception PRSCompressor :=
  if self.closed then throw (.logicError "compressor is closed")
  else data.foldlM addByte self

/-- The loop in `close`. Every pass takes at least one byte. -/
def advanceAll : Nat → PRSCompressor → Except Exception PRSCompressor
  | 0, self => if self.reverseLog.endOffset < self.inputBytes then throw .nonterminating else return self
  | fuel + 1, self =>
      if self.reverseLog.endOffset < self.inputBytes then do advanceAll fuel (← self.advance)
      else return self

/-- The compressed data are in `output`. -/
def close (self : PRSCompressor) : Except Exception PRSCompressor :=
  if self.closed then return self
  else do
    let self ← advanceAll self.inputBytes self
    let self := self.writeControl false
    let self := self.writeControl true
    let self := self.putU8 0
    let self := self.putU8 0
    let self ← self.flushControl
    return { self with closed := true }

end PRSCompressor

/-- `prs_compress`. -/
def prsCompress (data : List UInt8) (compressionLevel : Int) : Except Exception (List UInt8) := do
  let prs ← (PRSCompressor.new compressionLevel).add data
  let prs ← prs.close
  return prs.output

end HuntersGuild.PrsStreaming
