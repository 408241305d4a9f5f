import HuntersGuild.ExceptionRules
import HuntersGuild.Numerals
import HuntersGuild.OrderedMaps

/-!
Sets of IPv4 address ranges, as they are written in the configuration, and the
lookup of an address.
-/

namespace HuntersGuild.IpRangeSets

open HuntersGuild.Numerals

inductive Exception where
  | invalidArgument
  | outOfRange
  | runtimeError (what : String)
deriving DecidableEq

/-- The base addresses of the ranges, with their mask lengths. -/
structure IPV4RangeSet where
  ranges : Std.ExtTreeMap UInt32 UInt8

/-- `0xFFFFFFFF << (32 - mask_bits)`, where `shift32` is what a shift by 32 gives. -/
def maskOf (shift32 : UInt32) (maskBits : Nat) : UInt32 :=
  if maskBits = 0 then shift32 else 0xFFFFFFFF <<< UInt32.ofNat (32 - maskBits)

def readNumber (text : Text) : Except Exception (UInt64 × Text) :=
  match stoul 10 text with
  | .ok result => .ok result
  | .error .invalidArgument => .error .invalidArgument
  | .error .outOfRange => .error .outOfRange

/-- One round of the loop over the bytes of an address. -/
def readByte (addr : UInt32) (token : Text) : Except Exception UInt32 := do
  let (newByte, rest) ← readNumber token
  if rest ≠ [] ∨ newByte > 0xFF then
    .error (.runtimeError "invalid IPv4 address")
  else
    .ok ((addr <<< 8) ||| newByte.toUInt32)

def readMaskBits (tokens : List Text) : Except Exception Nat :=
  match tokens with
  | [_] => .ok 32
  | [_, mask] => do
    let (maskBits, _) ← readNumber mask
    if maskBits > 32 then
      .error (.runtimeError "invalid IPv4 address range")
    else
      .ok maskBits.toNat
  | _ => .error (.runtimeError "invalid IPv4 address range")

/-- One entry of the configured list: the base address and the mask length. -/
def readRange (shift32 : UInt32) (text : Text) : Except Exception (UInt32 × UInt8) := do
  let tokens := text.splitOn '/'
  let maskBits ← readMaskBits tokens
  let addrTokens := (tokens.headD []).splitOn '.'
  if addrTokens.length ≠ 4 then
    .error (.runtimeError "invalid IPv4 address")
  else
    let addr ← addrTokens.foldlM readByte 0
    .ok (addr &&& maskOf shift32 maskBits, UInt8.ofNat maskBits)

/-- A base address that is there already keeps its mask length. -/
def IPV4RangeSet.emplace (self : IPV4RangeSet) (range : UInt32 × UInt8) : IPV4RangeSet :=
  ⟨self.ranges.insertIfNew range.1 range.2⟩

def IPV4RangeSet.ofJson (shift32 : UInt32) (texts : List Text) : Except Exception IPV4RangeSet :=
  texts.foldlM (fun set text => do return set.emplace (← readRange shift32 text)) ⟨∅⟩

def formatRange (addr : UInt32) (maskBits : UInt8) : Text :=
  Nat.toDigits 10 ((addr >>> 24) &&& 0xFF).toNat ++ '.' ::
    (Nat.toDigits 10 ((addr >>> 16) &&& 0xFF).toNat ++ '.' ::
    (Nat.toDigits 10 ((addr >>> 8) &&& 0xFF).toNat ++ '.' ::
    (Nat.toDigits 10 (addr &&& 0xFF).toNat ++ '/' :: Nat.toDigits 10 maskBits.toNat)))

def IPV4RangeSet.json (self : IPV4RangeSet) : List Text :=
  self.ranges.toList.map fun it => formatRange it.1 it.2

/-- Only the nearest base address at or below the address is looked at. -/
def IPV4RangeSet.check (shift32 : UInt32) (self : IPV4RangeSet) (addr : UInt32) : Bool :=
  match OrderedMaps.floor? self.ranges addr with
  | none => false
  | some (base, maskBits) => (base ^^^ addr) &&& maskOf shift32 maskBits.toNat = 0

end HuntersGuild.IpRangeSets
