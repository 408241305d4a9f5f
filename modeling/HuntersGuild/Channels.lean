import HuntersGuild.Items
import HuntersGuild.PsoBbEncryption
import HuntersGuild.PsoLfgEncryption

/-!
`Channel::send` and `Channel::recv`: how commands are framed, encrypted and
read back.
-/

namespace HuntersGuild.Channels

open HuntersGuild.ByteStreams
open HuntersGuild.Items (Version)
open HuntersGuild.PsoBbEncryption (KeyFile)
open HuntersGuild.PsoLfgEncryption (PSOLFGEncryption)
open HuntersGuild.WordBytes

inductive PSOEncryption where
  | lfg (cipher : PSOLFGEncryption)
  | bb (cipher : KeyFile)
  deriving DecidableEq

namespace PSOEncryption

def encrypt (self : PSOEncryption) (data : List UInt8) :
    Except Exception (List UInt8 × PSOEncryption) :=
  match self with
  | .lfg cipher =>
      let (data, cipher) := cipher.encrypt data
      return (data, .lfg cipher)
  | .bb cipher => do
      let (data, cipher) ← PsoBbEncryption.encrypt cipher data
      return (data, .bb cipher)

/-- It is `encrypt` in the classes that do not override it. -/
def decrypt (self : PSOEncryption) (data : List UInt8) :
    Except Exception (List UInt8 × PSOEncryption) :=
  match self with
  | .lfg _ => self.encrypt data
  | .bb cipher => do
      let (data, cipher) ← PsoBbEncryption.decrypt cipher data
      return (data, .bb cipher)

end PSOEncryption

/-- The three structures of a command header. -/
inductive HeaderLayout where
  | dcv3
  | pc
  | bb
  deriving DecidableEq

/-- The `switch` that picks the structure of a version's headers. -/
def headerLayout : Version → Option HeaderLayout
  | .dcNte | .dc112000 | .dcV1 | .dcV2 | .gcNte | .gcV3 | .gcEp3Nte | .gcEp3 | .xbV3 => some .dcv3
  | .pcPatch | .bbPatch | .pcNte | .pcV2 => some .pc
  | .bbV4 => some .bb
  | .unknown => none

/-- The `default` of the `switch` throws. -/
def requireLayout (version : Version) (what : String) : Except Exception HeaderLayout :=
  match headerLayout version with
  | some layout => .ok layout
  | none => .error (.logicError what)

def isV1 (version : Version) : Bool :=
  version = .dcNte || version = .dc112000 || version = .dcV1

def headerSize (version : Version) : Nat :=
  if version = .bbV4 then 8 else 4

/-- `(size + n - 1) & ~(n - 1)` for a power of two. -/
def roundUp (n size : Nat) : Nat := (size + n - 1) / n * n

/-- `std::string::resize`. -/
def resize (size : Nat) (data : List UInt8) : List UInt8 :=
  data.take size ++ List.replicate (size - data.length) 0

namespace HeaderLayout

/-- The header of a command; the values are cut off at the widths of the fields. -/
def write (layout : HeaderLayout) (command : UInt16) (flag : UInt32) (size : Nat) : List UInt8 :=
  match layout with
  | .dcv3 => littleEndian 1 command.toNat ++ littleEndian 1 flag.toNat ++ littleEndian 2 size
  | .pc => littleEndian 2 size ++ littleEndian 1 command.toNat ++ littleEndian 1 flag.toNat
  | .bb => littleEndian 2 size ++ littleEndian 2 command.toNat ++ littleEndian 4 flag.toNat

/-- The field of `width` bytes at an offset. -/
def field (header : List UInt8) (offset width : Nat) : Nat :=
  fromLittleEndian ((header.drop offset).take width)

def command (layout : HeaderLayout) (header : List UInt8) : UInt16 :=
  match layout with
  | .dcv3 => .ofNat (field header 0 1)
  | .pc => .ofNat (field header 2 1)
  | .bb => .ofNat (field header 2 2)

def flag (layout : HeaderLayout) (header : List UInt8) : UInt32 :=
  match layout with
  | .dcv3 => .ofNat (field header 1 1)
  | .pc => .ofNat (field header 3 1)
  | .bb => .ofNat (field header 4 4)

def size (layout : HeaderLayout) (header : List UInt8) : Nat :=
  match layout with
  | .dcv3 => field header 2 2
  | .pc => field header 0 2
  | .bb => field header 0 2

/-- `send_data_size` for data of a size. -/
def sendDataSize (layout : HeaderLayout) (version : Version) (encrypted : Bool) (size : Nat) : Nat :=
  match layout with
  | .dcv3 => if encrypted && !isV1 version then roundUp 4 (4 + size) else 4 + size
  | .pc => if encrypted then roundUp 4 (4 + size) else 4 + size
  | .bb => if encrypted then roundUp 8 (8 + size) else 8 + size

/-- `logical_size`, which goes into the header. -/
def logicalSize (layout : HeaderLayout) (version : Version) (encrypted : Bool) (size : Nat) : Nat :=
  match layout with
  | .dcv3 | .pc => layout.sendDataSize version encrypted size
  | .bb => roundUp 4 (8 + size)

end HeaderLayout

/-- What a caller passes to `send`. -/
structure Command where
  command : UInt16
  flag : UInt32
  blocks : List (List UInt8)
  deriving DecidableEq

def Command.size (self : Command) : Nat :=
  (self.blocks.map List.length).sum

/-- `Channel::Message`. -/
structure Message where
  command : UInt16
  flag : UInt32
  data : List UInt8
  deriving DecidableEq

structure Channel where
  version : Version
  cryptIn : Option PSOEncryption
  cryptOut : Option PSOEncryption
  deriving DecidableEq

/-- The encryption of a channel's data, which need not be enabled. -/
def encrypt (crypt : Option PSOEncryption) (data : List UInt8) :
    Except Exception (List UInt8 × Option PSOEncryption) :=
  match crypt with
  | none => return (data, none)
  | some crypt => do
      let (data, crypt) ← crypt.encrypt data
      return (data, some crypt)

def decrypt (crypt : Option PSOEncryption) (data : List UInt8) :
    Except Exception (List UInt8 × Option PSOEncryption) :=
  match crypt with
  | none => return (data, none)
  | some crypt => do
      let (data, crypt) ← crypt.decrypt data
      return (data, some crypt)

/-- The data of a command are padded to a multiple of four bytes for the
decryption: the extra bytes of the cipher are lost. -/
def decryptPadded (crypt : Option PSOEncryption) (data : List UInt8) :
    Except Exception (List UInt8 × Option PSOEncryption) :=
  if crypt.isSome then do
    let (decrypted, crypt) ← decrypt crypt (resize (roundUp 4 data.length) data)
    return (resize data.length decrypted, crypt)
  else return (data, crypt)

/-- `recv_raw` waits until there are `size` bytes; the bytes that follow stay
in the stream. -/
def recvRaw (size : Nat) (incoming : List UInt8) : Except Exception (List UInt8 × List UInt8) :=
  if size ≤ incoming.length then .ok (incoming.take size, incoming.drop size)
  else .error .nonterminating

namespace Channel

/-- The bytes that `send` passes to `send_raw` while the channel is connected. -/
def send (self : Channel) (c : Command) : Except Exception (List UInt8 × Channel) := do
  let layout ← requireLayout self.version "unimplemented game version in send_command"
  let encrypted := self.cryptOut.isSome
  let sendDataSize := layout.sendDataSize self.version encrypted c.size
  let logicalSize := layout.logicalSize self.version encrypted c.size
  if sendDataSize > 0x7C00 then
    throw (.runtimeError "outbound command too large")
  let sendData := resize sendDataSize (layout.write c.command c.flag logicalSize ++ c.blocks.flatten)
  let (sendData, cryptOut) ← encrypt self.cryptOut sendData
  return (sendData, { self with cryptOut })

/-- `recv` on the bytes that come in; the rest of them is left. -/
def recv (self : Channel) (incoming : List UInt8) :
    Except Exception (Message × List UInt8 × Channel) := do
  let headerSize := headerSize self.version
  let (header, incoming) ← recvRaw headerSize incoming
  let (header, cryptIn) ← decrypt self.cryptIn header
  let layout ← requireLayout self.version "unknown game version"
  let logicalSize := layout.size header
  if logicalSize < headerSize then
    throw (.runtimeError "header size field is smaller than header")
  let physicalSize :=
    if self.cryptIn.isSome && self.version = .bbV4 then roundUp 8 logicalSize else logicalSize
  let (data, incoming) ← recvRaw (physicalSize - headerSize) incoming
  let (data, cryptIn) ← decryptPadded cryptIn data
  let data := resize (logicalSize - headerSize) data
  return ({ command := layout.command header, flag := layout.flag header, data }, incoming,
    { self with cryptIn })

end Channel

end HuntersGuild.Channels
