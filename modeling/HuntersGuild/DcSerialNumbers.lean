import HuntersGuild.DcSerialTables
import HuntersGuild.Numerals
import Mathlib.Logic.Function.Basic

/-!
Serial numbers of the Dreamcast versions. A serial number is a product of three primes modulo
2^32, one from each table, with each of its hexadecimal digits replaced; the first prime tells
the domain and the subdomain it is for.
-/

namespace HuntersGuild.DcSerialNumbers

open HuntersGuild.DcSerialTables
open HuntersGuild.Numerals

inductive Exception where
  | runtimeError (what : String)
  | nonterminating
  deriving DecidableEq

/-- The set of `check_prime3`: which numbers from the first prime of the table on are in it. -/
def primes3Set : Array Bool :=
  primes3.foldl (fun set prime3 => set.setIfInBounds (prime3 - primes3.headD 0) true)
    (Array.replicate (primes3.getLastD 0 - primes3.headD 0 + 1) false)

/-- The offset wraps around for numbers below the first prime. -/
def checkPrime3 (prime3 : Nat) : Bool :=
  let offset := (prime3 + 2 ^ 64 - primes3.headD 0) % 2 ^ 64
  if offset ≥ primes3Set.size then false else primes3Set.getD offset false

def replaceNybbleForward (v : UInt8) : UInt32 :=
  [0x5, 0xA, 0x7, 0x6, 0xD, 0x2, 0xC, 0x1, 0xF, 0x0, 0x8, 0xB, 0x3, 0xE, 0x9, 0x4].getD (v &&& 0x0F).toNat 0

def replaceNybbleReverse (v : UInt8) : UInt32 :=
  [0x9, 0x7, 0x5, 0xC, 0xF, 0x0, 0x3, 0x2, 0xA, 0xE, 0x1, 0xB, 0x6, 0x4, 0xD, 0x8].getD (v &&& 0x0F).toNat 0

/-- The replacement of a hexadecimal digit, of either case. -/
def replaceChar (digits letters : Text) (ch : Char) : Option Char :=
  if '0' ≤ ch ∧ ch ≤ '9' then digits[ch.toNat - '0'.toNat]?
  else if 'A' ≤ ch ∧ ch ≤ 'F' then letters[ch.toNat - 'A'.toNat]?
  else if 'a' ≤ ch ∧ ch ≤ 'f' then letters[ch.toNat - 'a'.toNat]?
  else none

def replaceCharForward (ch : Char) : Option Char := replaceChar "5A76D2C1F0".toList "8B3E94".toList ch

def replaceCharReverse (ch : Char) : Option Char := replaceChar "975CF032AE".toList "1B64D8".toList ch

/-- `INVALID_PRODUCT` is `none`. -/
def decodeDcSerialNumberStr (s : Text) : Option Nat :=
  if s.length ≠ 8 then none
  else s.foldlM (fun serialNumber ch => do
    let newCh ← replaceCharForward ch
    let v ← digit? 16 newCh
    return serialNumber <<< 4 ||| v) 0

/-- A replacement of all eight digits of a number. -/
def replaceNybbles (replaceNybble : UInt8 → UInt32) (v : UInt32) : UInt32 :=
  replaceNybble (v >>> 28).toUInt8 <<< 28 ||| replaceNybble (v >>> 24).toUInt8 <<< 24 |||
    replaceNybble (v >>> 20).toUInt8 <<< 20 ||| replaceNybble (v >>> 16).toUInt8 <<< 16 |||
    replaceNybble (v >>> 12).toUInt8 <<< 12 ||| replaceNybble (v >>> 8).toUInt8 <<< 8 |||
    replaceNybble (v >>> 4).toUInt8 <<< 4 ||| replaceNybble v.toUInt8

def decodeDcSerialNumberInt (v : UInt32) : UInt32 := replaceNybbles replaceNybbleForward v

def encodeDcSerialNumberInt (v : UInt32) : UInt32 := replaceNybbles replaceNybbleReverse v

def computeOffset1AndLimit1 (domain subdomain : UInt8) : Nat × Nat :=
  if domain > 2 then (0, 0)
  else
    let domainBase := domain.toNat * 30
    if subdomain ≠ 0xFF then
      let subdomainBase := domainBase + subdomain.toNat % 3
      (subdomainBase, subdomainBase + 1)
    else (domainBase, domainBase + 3)

/-- The product of `uint32_t` primes. -/
def product (index1 : Nat) (prime2 prime3 : Nat) : Nat := primes1.getD index1 0 * prime2 * prime3 % 2 ^ 32

def dcSerialNumberIsValidSlow (s : Text) (domain subdomain : UInt8) : Bool :=
  match decodeDcSerialNumberStr s with
  | none => false
  | some serialNumber =>
      let (offset1, limit1) := computeOffset1AndLimit1 domain subdomain
      if limit1 = 0 then false
      else (List.range' offset1 (limit1 - offset1)).any fun offset1 =>
        primes2.any fun prime2 => primes3.any fun prime3 => product offset1 prime2 prime3 = serialNumber

/-- The high half of the product is lost; all those that it can have had are tried. -/
def decodedDcSerialNumberIsValidFast (serialNumber : UInt32) (domain subdomain : UInt8) : Bool :=
  let (offset1Start, limit1) := computeOffset1AndLimit1 domain subdomain
  if limit1 = 0 then false
  else (List.range 0xE8).any fun high =>
    let sub0 := serialNumber.toNat ||| high <<< 32
    (List.range' offset1Start (limit1 - offset1Start)).any fun offset1 =>
      if sub0 % primes1.getD offset1 0 ≠ 0 then false
      else
        let sub1 := sub0 / primes1.getD offset1 0
        primes2.any fun prime2 => if sub1 % prime2 ≠ 0 then false else checkPrime3 (sub1 / prime2)

def dcSerialNumberIsValidFast (s : Text) (domain subdomain : UInt8) : Bool :=
  match decodeDcSerialNumberStr s with
  | none => false
  | some serialNumber => decodedDcSerialNumberIsValidFast (.ofNat serialNumber) domain subdomain

/-- The overload for numbers. -/
def dcSerialNumberIsValidFastInt (serialNumber : UInt32) (domain subdomain : UInt8) : Bool :=
  decodedDcSerialNumberIsValidFast (decodeDcSerialNumberInt serialNumber) domain subdomain

/-- A digit as `X` formats it. -/
def hexChar (d : Nat) : Char := "0123456789ABCDEF".toList.getD d '0'

/-- A number formatted with `08X`. -/
def formatHex (v : UInt32) : Text :=
  [28, 24, 20, 16, 12, 8, 4, 0].map fun shift => hexChar (v.toNat >>> shift % 16)

/-- The primes of the first table for a domain. -/
def generatorRange (domain : UInt8) : Except Exception (Nat × Nat) :=
  if domain = 0 then .ok (0x00, 0x03)
  else if domain = 1 then .ok (0x1E, 0x21)
  else if domain = 2 then .ok (0x3C, 0x3F)
  else .error (.runtimeError "invalid domain")

/-- The first of the three random numbers is drawn only for all subdomains. -/
def generateDcSerialNumber (domain subdomain : UInt8) (draw1 draw2 draw3 : UInt32) : Except Exception Text := do
  let (offset1, limit1) ← generatorRange domain
  let det1 := if subdomain = 0xFF then draw1.toNat else subdomain.toNat
  let index1 := offset1 + det1 % (limit1 - offset1)
  let index2 := draw2.toNat % primes2.length
  let index3 := draw3.toNat % primes3.length
  let value := product index1 (primes2.getD index2 0) (primes3.getD index3 0)
  return (formatHex (.ofNat value)).map fun ch => (replaceCharReverse ch).getD '0'

/-- A place in the three tables, and the range that is visited. -/
structure DCSerialNumberIterator where
  started : Bool
  complete : Bool
  domain : UInt8
  startDomain : UInt8
  endDomain : UInt8
  subdomain : UInt8
  startSubdomain : UInt8
  endSubdomain : UInt8
  index2 : UInt16
  index3 : UInt16
  serialNumber : UInt32
  deriving DecidableEq

namespace DCSerialNumberIterator

def new : DCSerialNumberIterator := ⟨false, false, 0, 0, 3, 0, 0, 3, 0, 0, 0⟩

/-- The step to the next place. -/
def advance (self : DCSerialNumberIterator) : DCSerialNumberIterator :=
  let self := { self with index3 := self.index3 + 1 }
  if self.index3.toNat ≥ primes3.length then
    let self := { self with index3 := 0, index2 := self.index2 + 1 }
    if self.index2.toNat ≥ primes2.length then
      let self := { self with index2 := 0, subdomain := self.subdomain + 1 }
      if self.subdomain ≥ self.endSubdomain then
        let self := { self with subdomain := self.startSubdomain, domain := self.domain + 1 }
        if self.domain ≥ self.endDomain then { self with serialNumber := 0, complete := true } else self
      else self
    else self
  else self

def next (self : DCSerialNumberIterator) : UInt32 × DCSerialNumberIterator :=
  let self := if !self.started then { self with started := true }
    else if !self.complete then self.advance else self
  if !self.complete then
    let index1 := 30 * self.domain.toNat + self.subdomain.toNat % 3
    (encodeDcSerialNumberInt (.ofNat (product index1 (primes2.getD self.index2.toNat 0)
      (primes3.getD self.index3.toNat 0))), self)
  else (0, self)

def totalCount (self : DCSerialNumberIterator) : Nat :=
  (self.endDomain.toNat - self.startDomain.toNat) * (self.endSubdomain.toNat - self.startSubdomain.toNat) *
    primes2.length * primes3.length

def progress (self : DCSerialNumberIterator) : Nat :=
  let domainsDone := self.domain.toNat - self.startDomain.toNat
  let subdomainsPerDomain := self.endSubdomain.toNat - self.startSubdomain.toNat
  let subdomainsDone := self.subdomain.toNat - self.startSubdomain.toNat
  domainsDone * subdomainsPerDomain * primes2.length * primes3.length +
    subdomainsDone * primes2.length * primes3.length + self.index2.toNat * primes3.length + self.index3.toNat

end DCSerialNumberIterator

/-- The loop of `generate_all_dc_serial_numbers`. The tags of a number are what is stored for it. -/
def collect : Nat → DCSerialNumberIterator → (UInt32 → List UInt8) → Except Exception (UInt32 → List UInt8)
  | 0, _, _ => .error .nonterminating
  | fuel + 1, iter, ret =>
      let (serialNumber, iter) := iter.next
      if serialNumber = 0 then .ok ret
      else
        let tag := (iter.domain <<< 2) &&& 3 ||| iter.subdomain &&& 3
        collect fuel iter (Function.update ret serialNumber (ret serialNumber ++ [tag]))

def limitDomain (domain : UInt8) (iter : DCSerialNumberIterator) : Except Exception DCSerialNumberIterator :=
  if domain < 3 then .ok { iter with domain := domain, endDomain := domain + 1 }
  else if domain ≠ 0xFF then .error (.runtimeError "invalid domain")
  else .ok iter

def limitSubdomain (subdomain : UInt8) (iter : DCSerialNumberIterator) : Except Exception DCSerialNumberIterator :=
  if subdomain < 3 then
    .ok { iter with subdomain := subdomain, startSubdomain := subdomain, endSubdomain := subdomain + 1 }
  else if subdomain ≠ 0xFF then .error (.runtimeError "invalid subdomain")
  else .ok iter

def generateAllDcSerialNumbers (domain subdomain : UInt8) : Except Exception (UInt32 → List UInt8) := do
  let iter ← limitDomain domain .new
  let iter ← limitSubdomain subdomain iter
  collect (iter.totalCount + 1) iter fun _ => []

end HuntersGuild.DcSerialNumbers
