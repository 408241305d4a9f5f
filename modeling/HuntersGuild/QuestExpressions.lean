import HuntersGuild.Numerals
import Mathlib.Data.List.DropRight

/-!
Expressions over quest flags and other conditions of a game: their values,
their texts, and the parser that works on the raw characters.
-/

namespace HuntersGuild.QuestExpressions

open HuntersGuild.Numerals

inductive Exception where
  | outOfRange
  | runtimeError (what : String)
  /-- The processor stops at a division. -/
  | arithmeticFault
deriving DecidableEq

inductive Episode where
  | none
  | ep1
  | ep2
  | ep3
  | ep4
deriving DecidableEq

inductive BinaryOperator where
  | logicalOr
  | logicalAnd
  | bitwiseOr
  | bitwiseAnd
  | bitwiseXor
  | leftShift
  | rightShift
  | lessThan
  | greaterThan
  | lessOrEqual
  | greaterOrEqual
  | equal
  | notEqual
  | add
  | subtract
  | multiply
  | divide
  | modulus
deriving DecidableEq

inductive UnaryOperator where
  | logicalNot
  | bitwiseNot
  | negative
deriving DecidableEq

inductive Node where
  | binaryOperator (type : BinaryOperator) (left right : Node)
  | unaryOperator (type : UnaryOperator) (sub : Node)
  | flagLookup (flagIndex : UInt16)
  | challengeCompletionLookup (episode : Episode) (stageIndex : UInt8)
  | teamRewardLookup (rewardName : Text)
  | numPlayersLookup
  | eventLookup
  | v1PresenceLookup
  | constant (value : Int64)
deriving DecidableEq

/-- `operator==` of the nodes. -/
def Node.equals (node other : Node) : Bool :=
  match node with
  | .binaryOperator type left right =>
    match other with
    | .binaryOperator type' left' right' =>
      type' = type && left'.equals left && right'.equals right
    | _ => false
  | .unaryOperator type sub =>
    match other with
    | .unaryOperator type' sub' => type' = type && sub'.equals sub
    | _ => false
  | .flagLookup flagIndex =>
    match other with
    | .flagLookup flagIndex' => flagIndex' = flagIndex
    | _ => false
  | .challengeCompletionLookup episode stageIndex =>
    match other with
    | .challengeCompletionLookup episode' stageIndex' =>
      episode' = episode && stageIndex' = stageIndex
    | _ => false
  | .teamRewardLookup rewardName =>
    match other with
    | .teamRewardLookup rewardName' => rewardName' = rewardName
    | _ => false
  | .numPlayersLookup =>
    match other with
    | .numPlayersLookup => true
    | _ => false
  | .eventLookup =>
    match other with
    | .eventLookup => true
    | _ => false
  | .v1PresenceLookup =>
    match other with
    | .v1PresenceLookup => true
    | _ => false
  | .constant value =>
    match other with
    | .constant value' => value' = value
    | _ => false
termination_by sizeOf node + sizeOf other

/-! Values. -/

structure ChallengeRecords where
  timesEp1Online : Vector UInt32 9
  timesEp2Online : Vector UInt32 5

structure Team where
  rewardKeys : List Text

structure Env where
  flags : Option (Vector UInt8 0x80)
  challengeRecords : Option ChallengeRecords
  team : Option Team
  numPlayers : UInt64
  event : UInt8
  v1Present : Bool

def ofBool (b : Bool) : Int64 := if b then 1 else 0

/-- `FlagsArray::get`. -/
def getFlag (flags : Vector UInt8 0x80) (flagIndex : UInt16) : Except Exception Bool :=
  match flags[(flagIndex >>> 3).toNat]? with
  | some byte => .ok (byte &&& ((0x80 : UInt8) >>> (flagIndex &&& 7).toUInt8) ≠ 0)
  | none => .error .outOfRange

def hasTime {n : Nat} (times : Vector UInt32 n) (stageIndex : UInt8) : Except Exception Bool :=
  match times[stageIndex.toNat]? with
  | some time => .ok (time ≠ 0)
  | none => .error .outOfRange

def divisionFaults (left right : Int64) : Bool :=
  right = 0 || (left = Int64.minValue && right = -1)

/-- The operators other than the two that may leave out their right side. -/
def BinaryOperator.apply (type : BinaryOperator) (left right : Int64) : Except Exception Int64 :=
  match type with
  | .logicalOr => .ok (ofBool (left ≠ 0 || right ≠ 0))
  | .logicalAnd => .ok (ofBool (left ≠ 0 && right ≠ 0))
  | .bitwiseOr => .ok (left ||| right)
  | .bitwiseAnd => .ok (left &&& right)
  | .bitwiseXor => .ok (left ^^^ right)
  | .leftShift => .ok (left <<< right)
  | .rightShift => .ok (left >>> right)
  | .lessThan => .ok (ofBool (left < right))
  | .greaterThan => .ok (ofBool (left > right))
  | .lessOrEqual => .ok (ofBool (left ≤ right))
  | .greaterOrEqual => .ok (ofBool (left ≥ right))
  | .equal => .ok (ofBool (left = right))
  | .notEqual => .ok (ofBool (left ≠ right))
  | .add => .ok (left + right)
  | .subtract => .ok (left - right)
  | .multiply => .ok (left * right)
  | .divide => if divisionFaults left right then .error .arithmeticFault else .ok (left / right)
  | .modulus => if divisionFaults left right then .error .arithmeticFault else .ok (left % right)

/-- Whether the left side alone tells the value. -/
def BinaryOperator.decided (type : BinaryOperator) (left : Int64) : Option Int64 :=
  match type with
  | .logicalOr => if left ≠ 0 then some 1 else none
  | .logicalAnd => if left = 0 then some 0 else none
  | _ => none

def UnaryOperator.apply (type : UnaryOperator) (value : Int64) : Int64 :=
  match type with
  | .logicalNot => ofBool (value = 0)
  | .bitwiseNot => ~~~value
  | .negative => -value

def Node.evaluate (env : Env) : Node → Except Exception Int64
  | .binaryOperator type left right => do
    let leftValue ← left.evaluate env
    match type.decided leftValue with
    | some value => .ok value
    | none => type.apply leftValue (← right.evaluate env)
  | .unaryOperator type sub => do return type.apply (← sub.evaluate env)
  | .flagLookup flagIndex =>
    match env.flags with
    | none => .error (.runtimeError "quest flags not available")
    | some flags => do return ofBool (← getFlag flags flagIndex)
  | .challengeCompletionLookup episode stageIndex =>
    match env.challengeRecords with
    | none => .error (.runtimeError "challenge records not available")
    | some records =>
      match episode with
      | .ep1 => do return ofBool (← hasTime records.timesEp1Online stageIndex)
      | .ep2 => do return ofBool (← hasTime records.timesEp2Online stageIndex)
      | _ => .ok 0
  | .teamRewardLookup rewardName =>
    .ok (ofBool (env.team.any fun team => team.rewardKeys.contains rewardName))
  | .numPlayersLookup => .ok (Int64.ofNat env.numPlayers.toNat)
  | .eventLookup => .ok (Int64.ofNat env.event.toNat)
  | .v1PresenceLookup => .ok (ofBool env.v1Present)
  | .constant value => .ok value

/-! Texts. -/

def BinaryOperator.text : BinaryOperator → Text
  | .logicalOr => "||".toList
  | .logicalAnd => "&&".toList
  | .bitwiseOr => "|".toList
  | .bitwiseAnd => "&".toList
  | .bitwiseXor => "^".toList
  | .leftShift => "<<".toList
  | .rightShift => ">>".toList
  | .lessThan => "<".toList
  | .greaterThan => ">".toList
  | .lessOrEqual => "<=".toList
  | .greaterOrEqual => ">=".toList
  | .equal => "==".toList
  | .notEqual => "!=".toList
  | .add => "+".toList
  | .subtract => "-".toList
  | .multiply => "*".toList
  | .divide => "/".toList
  | .modulus => "%".toList

def UnaryOperator.char : UnaryOperator → Char
  | .logicalNot => '!'
  | .bitwiseNot => '~'
  | .negative => '-'

def abbreviationForEpisode : Episode → Text
  | .none => "None".toList
  | .ep1 => "Ep1".toList
  | .ep2 => "Ep2".toList
  | .ep3 => "Ep3".toList
  | .ep4 => "Ep4".toList

def enclosed (text : Text) : Text := '(' :: (text ++ [')'])

/-- `{:04X}`. -/
def formatFlag (flagIndex : UInt16) : Text :=
  ((Nat.toDigits 16 flagIndex.toNat).map Char.toUpper).leftpad 4 '0'

def formatInteger (value : Int64) : Text :=
  if value < 0 then
    '-' :: Nat.toDigits 10 value.toInt.natAbs
  else
    Nat.toDigits 10 value.toInt.natAbs

def Node.str : Node → Text
  | .binaryOperator type left right =>
    enclosed left.str ++ ' ' :: (type.text ++ ' ' :: enclosed right.str)
  | .unaryOperator type sub => type.char :: enclosed sub.str
  | .flagLookup flagIndex => "F_".toList ++ formatFlag flagIndex
  | .challengeCompletionLookup episode stageIndex =>
    "CC_".toList ++ (abbreviationForEpisode episode ++ '_' :: Nat.toDigits 10 (stageIndex + 1).toNat)
  | .teamRewardLookup rewardName => "T_".toList ++ rewardName
  | .numPlayersLookup => "V_NumPlayers".toList
  | .eventLookup => "V_Event".toList
  | .v1PresenceLookup => "V_V1Present".toList
  | .constant value => formatInteger value

/-! The parser. -/

/-- A part of a text, and what follows it in the buffer: `strtoul` reads on there. -/
structure View where
  text : Text
  after : Text

namespace View

def drop (count : Nat) (self : View) : View := ⟨self.text.drop count, self.after⟩

def take (count : Nat) (self : View) : View :=
  ⟨self.text.take count, self.text.drop count ++ self.after⟩

def trimLeft (self : View) : View := ⟨self.text.dropWhile (· = ' '), self.after⟩

def trimRight (self : View) : View := self.take (self.text.rdropWhile (· = ' ')).length

end View

/-- Whether as many parentheses as at the start, or more, are open all along. -/
def staysOpen : Nat → Text → Bool
  | _, [] => true
  | level, c :: cs =>
    if c = '(' then
      staysOpen (level + 1) cs
    else if c = ')' then
      if level = 1 then false else staysOpen (level - 1) cs
    else
      staysOpen level cs

/-- Strip off spaces and one pair of fully-enclosing parentheses. -/
def stripRound (view : View) : Except Exception View :=
  let view := view.trimLeft
  if view.text = [] then
    .error .outOfRange
  else
    let view := view.trimRight
    if view.text.head? = some '(' ∧ view.text.getLast? = some ')' ∧
        staysOpen 1 view.text.tail.dropLast then
      .ok ((view.drop 1).take (view.text.length - 2))
    else
      .ok view

/-- The loop ends with the first round that strips nothing. -/
def stripRounds : Nat → View → Except Exception View
  | 0, _ => .error .outOfRange
  | n + 1, view => do
    let stripped ← stripRound view
    if stripped.text.length = view.text.length then
      .ok stripped
    else
      stripRounds n stripped

/-- A round that strips something leaves less text, and `at` throws on no text. -/
def strip (view : View) : Except Exception View := stripRounds view.text.length view

def binaryOperatorLevels : List (List BinaryOperator) :=
  [[.logicalOr],
    [.logicalAnd],
    [.bitwiseOr],
    [.bitwiseXor],
    [.bitwiseAnd],
    [.equal, .notEqual],
    [.lessOrEqual, .greaterOrEqual, .lessThan, .greaterThan],
    [.leftShift, .rightShift],
    [.add, .subtract],
    [.multiply, .divide, .modulus]]

/-- The operator stands between the two texts, the first one being reversed, and
neither after nor before another copy of itself. -/
def matchesHere (before after : Text) (type : BinaryOperator) : Bool :=
  type.text.length < after.length && !type.text.reverse.isPrefixOf before &&
    type.text.isPrefixOf after && !type.text.isPrefixOf (after.drop type.text.length)

/-- The first place outside parentheses with one of the operators. -/
def findOperator (operators : List BinaryOperator) :
    Int → Text → Text → Option (Nat × BinaryOperator)
  | level, before, c :: d :: cs =>
    if c = '(' then
      findOperator operators (level + 1) (c :: before) (d :: cs)
    else if c = ')' then
      findOperator operators (level - 1) (c :: before) (d :: cs)
    else if level = 0 then
      match operators.find? (matchesHere before (c :: d :: cs)) with
      | some type => some (before.length, type)
      | none => findOperator operators level (c :: before) (d :: cs)
    else
      findOperator operators level (c :: before) (d :: cs)
  | _, _, _ => none

def findRootOperator (text : Text) : Option (Nat × BinaryOperator) :=
  binaryOperatorLevels.findSome? fun operators => findOperator operators 0 [] text

def unaryOperator? : Text → Option UnaryOperator
  | '!' :: _ => some .logicalNot
  | '~' :: _ => some .bitwiseNot
  | '-' :: _ => some .negative
  | _ => none

def parseFlagLookup (view : View) : Except Exception Node :=
  let (flag, rest) := strtoul 16 (view.text.drop 2 ++ view.after)
  if rest.length ≠ view.after.length then
    .error (.runtimeError "invalid flag lookup token")
  else if flag ≥ 0x400 then
    .error (.runtimeError "invalid flag index")
  else
    .ok (.flagLookup flag.toUInt16)

def parseChallengeStage (episode : Episode) (view : View) : Except Exception Node :=
  let (stage, rest) := strtoul 0 (view.text.drop 7 ++ view.after)
  let stageIndex := stage - 1
  if rest.length ≠ view.after.length then
    .error (.runtimeError "invalid challenge completion lookup token")
  else if (episode = .ep1 ∧ stageIndex > 8) ∨ (episode = .ep2 ∧ stageIndex > 4) then
    .error (.runtimeError "invalid challenge stage index")
  else
    .ok (.challengeCompletionLookup episode stageIndex.toUInt8)

def parseChallengeCompletionLookup (view : View) : Except Exception Node :=
  if "CC_Ep1_".toList.isPrefixOf view.text then
    parseChallengeStage .ep1 view
  else if "CC_Ep2_".toList.isPrefixOf view.text then
    parseChallengeStage .ep2 view
  else
    .error (.runtimeError "invalid challenge episode")

def parseConstant (text : Text) : Except Exception Node :=
  match stoll 0 text with
  | .ok (value, []) => .ok (.constant value)
  | _ => .error (.runtimeError "unparseable expression")

/-- What is left when no operator applies. -/
def parseLeaf (view : View) : Except Exception Node :=
  if "F_".toList.isPrefixOf view.text then
    parseFlagLookup view
  else if "CC_".toList.isPrefixOf view.text then
    parseChallengeCompletionLookup view
  else if "T_".toList.isPrefixOf view.text then
    .ok (.teamRewardLookup (view.text.drop 2))
  else if view.text = "V_NumPlayers".toList then
    .ok .numPlayersLookup
  else if view.text = "V_Event".toList then
    .ok .eventLookup
  else if view.text = "V_V1Present".toList then
    .ok .v1PresenceLookup
  else if view.text = "true".toList then
    .ok (.constant 1)
  else if view.text = "false".toList then
    .ok (.constant 0)
  else
    parseConstant view.text

/-- The text without spaces and parentheses around it. -/
def parseStripped (parse : View → Except Exception Node) (view : View) : Except Exception Node :=
  match findRootOperator view.text with
  | some (z, type) => do
    let left ← parse (view.take z)
    let right ← parse (view.drop (z + type.text.length))
    return .binaryOperator type left right
  | none =>
    match unaryOperator? view.text with
    | some type => do return .unaryOperator type (← parse (view.drop 1))
    | none => parseLeaf view

/-- The body of `parse_expr`; the parameter stands for the calls to itself. -/
def parseBody (parse : View → Except Exception Node) (view : View) : Except Exception Node := do
  let view ← strip view
  if view.text = [] then
    .error (.runtimeError "invalid expression")
  else
    parseStripped parse view

/-- The calls work on shorter and shorter texts, and an empty one is rejected. -/
def parseCalls : Nat → View → Except Exception Node
  | 0 => fun _ => .error .outOfRange
  | n + 1 => parseBody (parseCalls n)

def parseExpr (view : View) : Except Exception Node := parseCalls view.text.length view

/-- The constructor. -/
def parse (text : Text) : Except Exception Node := parseExpr ⟨text, []⟩

end HuntersGuild.QuestExpressions
