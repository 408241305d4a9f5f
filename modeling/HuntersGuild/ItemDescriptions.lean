import HuntersGuild.ItemEncoding
import HuntersGuild.Numerals

/-!
The index of item names, and the descriptions of S-rank weapons: how they are
written, and how they are read.
-/

namespace HuntersGuild.ItemDescriptions

open HuntersGuild.ByteStreams
open HuntersGuild.ItemEncoding
open HuntersGuild.Items (ItemData StackLimits)
open HuntersGuild.Numerals

/-! ## Texts -/

def tolower (text : Text) : Text := text.map Char.toLower

/-- `std::format("{:0nX}")`. -/
def hex (width n : Nat) : Text := ((Nat.toDigits 16 n).map Char.toUpper).leftpad width '0'

def join (tokens : List Text) : Text := [' '].intercalate tokens

def itemException : Items.Exception → Exception
  | .outOfRange what => .outOfRange what
  | .runtimeError what => .runtimeError what

/-- The exception of a function that reads a number. -/
def numberException (function : String) : NumberError → Exception
  | .invalidArgument => .invalidArgument function
  | .outOfRange => .outOfRange function

/-! ## The index -/

/-- The item that an identifier stands for. -/
def fromPrimaryIdentifier (limits : StackLimits) (primaryIdentifier : UInt32) :
    Except Exception ItemData := do
  if 0x04000000 < primaryIdentifier then
    throw (.runtimeError "invalid item class")
  else
    let ret := (ItemData.cleared.withByte 0 (primaryIdentifier >>> 24).toUInt8).withByte 1
      (primaryIdentifier >>> 16).toUInt8
    let ret :=
      if primaryIdentifier &&& 0xFFFF0000 = 0x03020000 then
        (ret.withByte 4 (primaryIdentifier >>> 8).toUInt8).withByte 2 primaryIdentifier.toUInt8
      else
        ret.withByte 2 (primaryIdentifier >>> 8).toUInt8
    let stackable ← (ret.isStackable limits).mapError itemException
    if stackable then
      return ret.withByte 5 1
    else if ret.data1[0] = 3 then
      return ret.withByte 5 0
    else
      return ret

structure ItemMetadata where
  primaryIdentifier : UInt32
  name : Text

/-- The maps of the index that these functions use. -/
structure ItemNameIndex where
  primaryIdentifierIndex : UInt32 → Option ItemMetadata
  esNameIndex : Text → Option ItemMetadata

/-- What an index is made of. `getItemId` is the table's lookup of an item. -/
structure NameSource where
  limits : StackLimits
  getItemId : ItemData → Except Exception UInt32
  nameColl : List Text

/-- A key that is there already keeps its value. -/
def emplace {κ α : Type} [DecidableEq κ] (key : κ) (value : α) (index : κ → Option α) :
    κ → Option α :=
  match index key with
  | some _ => index
  | none => Function.update index key (some value)

/-- The name of an item, if it has one, and whether it is an S-rank weapon. -/
def NameSource.findName (self : NameSource) (primaryIdentifier : UInt32) :
    Except Exception (Option (Text × Bool)) :=
  tryCatch (do
    let item ← fromPrimaryIdentifier self.limits primaryIdentifier
    let itemId ← self.getItemId item
    match self.nameColl[itemId.toNat]? with
    | some name => return some (name, item.isSRankWeapon)
    | none => throw (.outOfRange "vector::at")) fun
    | .outOfRange _ => return none
    | e => throw e

namespace ItemNameIndex

def empty : ItemNameIndex := ⟨fun _ => none, fun _ => none⟩

/-- One round of the constructor's loop. -/
def add (source : NameSource) (self : ItemNameIndex) (primaryIdentifier : UInt32) :
    Except Exception ItemNameIndex := do
  if primaryIdentifier = 0 then
    return self
  else
    match ← source.findName primaryIdentifier with
    | none => return self
    | some (name, isEsWeapon) =>
      let metadata : ItemMetadata := ⟨primaryIdentifier, name⟩
      return ⟨emplace primaryIdentifier metadata self.primaryIdentifierIndex,
        if isEsWeapon ∧ primaryIdentifier &&& 0x0000FFFF = 0 then
          emplace (tolower name) metadata self.esNameIndex
        else
          self.esNameIndex⟩

/-- `ItemNameIndex(item_parameter_table, limits, name_coll)`, for a table with
these valid identifiers. -/
def build (source : NameSource) (primaryIdentifiers : List UInt32) :
    Except Exception ItemNameIndex :=
  primaryIdentifiers.foldlM (add source) empty

end ItemNameIndex

/-! ## S-rank names and specials -/

def sRankNameCharacters : Text :=
  '\x00' :: "ABCDEFGHIJKLMNOPQRSTUVWXYZ[\\]^_".toList

def nameForSRankSpecial : List (Option String) :=
  [none, some "Jellen", some "Zalure", some "HP-Revival", some "TP-Revival", some "Burning",
    some "Tempest", some "Blizzard", some "Arrest", some "Chaos", some "Hell", some "Spirit",
    some "Berserk", some "Demon's", some "Gush", some "Geist", some "King's"]

def bswap16 (v : UInt16) : UInt16 := (v <<< 8) ||| (v >>> 8)

/-! ## Writing -/

/-- The characters that the name's three words hold. -/
def charIndexes (item : ItemData) : List UInt16 :=
  let beData1w3 := bswap16 (data1w item 3)
  let beData1w4 := bswap16 (data1w item 4)
  let beData1w5 := bswap16 (data1w item 5)
  [(beData1w3 >>> 5) &&& 0x1F, beData1w3 &&& 0x1F,
    (beData1w4 >>> 10) &&& 0x1F, (beData1w4 >>> 5) &&& 0x1F, beData1w4 &&& 0x1F,
    (beData1w5 >>> 10) &&& 0x1F, (beData1w5 >>> 5) &&& 0x1F, beData1w5 &&& 0x1F]

/-- The name that is rendered, up to the first character that is zero. -/
def sRankName (item : ItemData) : Text :=
  ((charIndexes item).map fun charIndex => sRankNameCharacters.getD charIndex.toNat '\x00').takeWhile
    (· ≠ '\x00')

def hideTypeName (item : ItemData) : Bool := bswap16 (data1w item 3) &&& 0x7C00 = 0x0800

def specialToken (special : UInt8) : Text :=
  match nameForSRankSpecial[special.toNat]? with
  | some (some name) => name.toList
  | _ => "!SSP:".toList ++ hex 2 special.toNat

/-- `describe_item`, for an S-rank weapon. -/
def ItemNameIndex.describeSRankWeapon (self : ItemNameIndex) (item : ItemData)
    (includeColorEscapes nameOnly : Bool) : Text :=
  let special := if !nameOnly ∧ item.data1[2] ≠ 0 then [specialToken item.data1[2]] else []
  let type :=
    match self.primaryIdentifierIndex item.primaryIdentifier with
    | some metadata => metadata.name
    | none => "!ID:".toList ++ hex 8 item.primaryIdentifier.toNat
  let grind :=
    if !nameOnly ∧ item.data1[3] > 0 then ['+' :: Nat.toDigits 10 item.data1[3].toNat] else []
  let name :=
    if sRankName item = [] then []
    else if hideTypeName item then ['"' :: (sRankName item ++ ['"'])]
    else ['(' :: (sRankName item ++ [')'])]
  let ret := join (special ++ [type] ++ grind ++ name)
  if includeColorEscapes then "$C4".toList ++ ret else ret

/-! ## Reading -/

def charIndex (c : Char) : Except Exception UInt16 :=
  match sRankNameCharacters.idxOf? c.toUpper with
  | some pos => .ok (.ofNat pos)
  | none => .error (.runtimeError ("s-rank name contains invalid character " ++
      String.ofList (hex 2 c.toUpper.toNat) ++ " (" ++ String.ofList [c.toUpper] ++ ")"))

/-- Three characters in the low bits of a word. -/
def nameWord (a b c : UInt16) : UInt16 :=
  0x8000 ||| (c &&& 0x1F) ||| ((b &&& 0x1F) <<< (5 : UInt16)) ||| ((a &&& 0x1F) <<< (10 : UInt16))

/-- The first word has two characters. -/
def putName (charIndexes : List UInt16) (ret : ItemData) : ItemData :=
  let i := fun (z : Nat) => charIndexes.getD z 0
  let ret := withData1w ret 3
    (bswap16 (0x8000 ||| (i 1 &&& 0x1F) ||| ((i 0 &&& 0x1F) <<< (5 : UInt16))))
  let ret := withData1w ret 4 (bswap16 (nameWord (i 2) (i 3) (i 4)))
  withData1w ret 5 (bswap16 (nameWord (i 5) (i 6) (i 7)))

def parseName (token : Text) (ret : ItemData) : Except Exception ItemData := do
  if 8 < token.length then
    throw (.runtimeError "s-rank name too long")
  else
    let charIndexes ← token.mapM charIndex
    return putName charIndexes ret

/-- Nothing is written when the token is not a special. -/
def parseSpecial (token : Text) (ret : ItemData) : Option ItemData := do
  let z ← nameForSRankSpecial.findIdx? fun name => name.map (tolower ·.toList) = some token
  return ret.withByte 2 (.ofNat z)

/-- Nothing is written when the token is not a grind. -/
def parseGrind (token : Text) (ret : ItemData) : Except Exception (Option ItemData) :=
  match token with
  | '+' :: digits =>
    match stoul 0 digits with
    | .ok (grind, _) => .ok (some (ret.withByte 3 grind.toUInt8))
    | .error e => .error (numberException "stoul" e)
  | _ => .ok none

namespace ItemNameIndex

def parseType (self : ItemNameIndex) (token : Text) (ret : ItemData) : Except Exception ItemData :=
  match self.esNameIndex token with
  | none => .error (.outOfRange "map::at")
  | some metadata =>
    if metadata.primaryIdentifier &&& 0xFF00FFFF ≠ 0 then
      .error (.runtimeError "ES weapon has invalid bits in primary identifier")
    else
      .ok (ret.withByte 1 (metadata.primaryIdentifier >>> 16).toUInt8)

/-- The descriptions that begin with ES. -/
def parseEsDescription (self : ItemNameIndex) (desc : Text) : Except Exception ItemData := do
  let ret := ItemData.cleared
  match desc.splitOn ' ' with
  | [] | [_] => throw (.runtimeError "ES weapon type is missing")
  | [_, token1] => parseName token1 ret
  | [_, token1, token2] =>
    match ← parseGrind token2 ret with
    | some ret => self.parseType token1 ret
    | none =>
      match parseSpecial token1 ret with
      | some ret => self.parseType token2 ret
      | none => self.parseType token2 (← parseName token1 ret)
  | [_, token1, token2, token3] =>
    match ← parseGrind token3 ret with
    | some ret =>
      match parseSpecial token1 ret with
      | some ret => self.parseType token2 ret
      | none => self.parseType token2 (← parseName token1 ret)
    | none =>
      let ret ← parseName token1 ret
      match parseSpecial token2 ret with
      | some ret => self.parseType token3 ret
      | none => throw (.runtimeError "invalid ES special")
  | [_, token1, token2, token3, token4] =>
    let ret ← parseName token1 ret
    match parseSpecial token2 ret with
    | some ret =>
      let ret ← self.parseType token3 ret
      match ← parseGrind token4 ret with
      | some ret => return ret
      | none => throw (.runtimeError "invalid grind")
    | none => throw (.runtimeError "invalid ES special")
  | _ => throw (.runtimeError "too many ES weapon tokens")

/-- The descriptions of everything else are left to `parseOther`. -/
def parseItemDescriptionPhase (self : ItemNameIndex)
    (parseOther : Text → Bool → Except Exception ItemData) (description : Text)
    (skipSpecial : Bool) : Except Exception ItemData :=
  let desc := tolower description
  if " meseta".toList.isSuffixOf desc then
    match stoll 10 desc with
    | .ok (amount, _) =>
      .ok { ItemData.cleared.withByte 0 4 with data2d := amount.toUInt64.toUInt32 }
    | .error e => .error (numberException "stol" e)
  else if "es ".toList.isPrefixOf desc then
    self.parseEsDescription desc
  else
    parseOther desc skipSpecial

end ItemNameIndex

end HuntersGuild.ItemDescriptions
