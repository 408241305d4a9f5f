import HuntersGuild.HdlcFrames
import HuntersGuild.StatefulPrograms

/-!
How `handle_hdlc_raw_client` takes frames out of what it reads from a socket.
-/

namespace HuntersGuild.HdlcClients

open HuntersGuild.ByteStreams
open HuntersGuild.StatefulPrograms
open HuntersGuild.HdlcFrames

/-- The locals of the handler, the frames it has passed on, and whether it has
looked at a byte of the buffer past those received. -/
structure RawClient where
  buffer : List UInt8
  bufferBytes : Nat
  frames : List (List UInt8)
  overran : Bool

def RawClient.start : RawClient := ⟨List.replicate 0x1000 0, 0, [], false⟩

abbrev Handler (α : Type) := EStateM Exception RawClient α

/-- The buffer has room for 0x400 more bytes. -/
def RawClient.grow (self : RawClient) : RawClient :=
  { self with
    buffer := self.buffer ++
      List.replicate (self.bufferBytes + 0x400 - self.buffer.length) 0 }

/-- How many bytes the next read may give. -/
def RawClient.offered (self : RawClient) : Nat :=
  self.grow.buffer.length - self.bufferBytes

/-- A read puts what it received behind the bytes that are there. -/
def RawClient.store (self : RawClient) (chunk : List UInt8) : RawClient :=
  { self with
    buffer := self.buffer.take self.bufferBytes ++
      (chunk ++ self.buffer.drop (self.bufferBytes + chunk.length))
    bufferBytes := self.bufferBytes + chunk.length }

/-- The first `size` bytes of the buffer, or some of them, are looked at. -/
def look (size : Nat) : Handler PUnit :=
  modify fun c => { c with overran := c.overran || decide (c.bufferBytes < size) }

/-- `buffer.find(0x7E, offset)`. -/
def findSentinel (buffer : List UInt8) (offset : Nat) : Option Nat :=
  ((buffer.drop offset).idxOf? 0x7E).map (offset + ·)

/-- The frame between these offsets is unescaped in place and passed on. An
exception of `on_client_frame` is caught, so it changes nothing here. -/
def passFrame (frameStartOffset frameEndOffset : Nat) : Handler PUnit := do
  let c ← get
  let frameData := (c.buffer.drop frameStartOffset).take (frameEndOffset - frameStartOffset)
  let (data, unescapedSize) ← fromExcept (unescapeHdlcFrameInplace frameData)
  set { c with
    buffer := c.buffer.take frameStartOffset ++ (data ++ c.buffer.drop frameEndOffset)
    frames := c.frames ++ [data.take unescapedSize] }

/-- The loop over the frames in the buffer, which gives where it stops. -/
def processFrames : Nat → Nat → Handler Nat
  | 0, _ => throw .nonterminating
  | fuel + 1, frameStartOffset => do
      let c ← get
      if c.buffer.length ≤ frameStartOffset then return frameStartOffset
      else do
        look (frameStartOffset + 1)
        if c.buffer.getD frameStartOffset 0 ≠ 0x7E then
          throw (.runtimeError "HDLC frame does not begin with 7E")
        else
          match findSentinel c.buffer (frameStartOffset + 1) with
          | none => do
              look c.buffer.length
              return frameStartOffset
          | some frameEndOffset => do
              look (frameEndOffset + 1)
              passFrame frameStartOffset (frameEndOffset + 1)
              processFrames fuel (frameEndOffset + 1)

/-- What is left of the received bytes moves to the front of the buffer. -/
def RawClient.discard (self : RawClient) (frameStartOffset : Nat) : RawClient :=
  if frameStartOffset = self.bufferBytes then { self with bufferBytes := 0 }
  else if 0 < frameStartOffset then
    let rest := (self.buffer.drop frameStartOffset).take (self.bufferBytes - frameStartOffset)
    { self with
      buffer := rest ++ self.buffer.drop rest.length
      bufferBytes := self.bufferBytes - frameStartOffset }
  else self

/-- One round of the handler: a read, and all the frames that it completes. -/
def receive (chunk : List UInt8) : Handler PUnit := do
  modify fun c => c.grow.store chunk
  let c ← get
  let frameStartOffset ← processFrames (c.buffer.length + 1) 0
  let c ← get
  if c.bufferBytes < frameStartOffset then
    throw (.logicError "frame start offset is beyond buffer bounds")
  else set (c.discard frameStartOffset)

/-- The handler over a sequence of reads. -/
def handle (reads : List (List UInt8)) : Handler PUnit := reads.forM receive

end HuntersGuild.HdlcClients
