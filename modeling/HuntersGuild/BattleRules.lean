import Mathlib.Data.UInt
import HuntersGuild.JsonValues

/-!
`Rules`: the rules of a battle and their JSON form.
-/

namespace HuntersGuild.BattleRules

open HuntersGuild.ExceptionRules
open HuntersGuild.JsonValues

inductive AllowedCards where
  | all
  | nOnly
  | nROnly
  | nRSOnly
  deriving DecidableEq

inductive HPType where
  | defeatPlayer
  | defeatTeam
  | commonHp
  deriving DecidableEq

inductive DiceExchangeMode where
  | highAtk
  | highDef
  | none
  deriving DecidableEq

/-- An enumeration with the names its values have in JSON. -/
structure EnumNames (α : Type) where
  nameForEnum : α → String
  enumForName : String → Except JsonError α
  enumForName_name : ∀ value, enumForName (nameForEnum value) = .ok value

def allowedCardsNames : EnumNames AllowedCards where
  nameForEnum
    | .all => "ALL"
    | .nOnly => "N_ONLY"
    | .nROnly => "N_R_ONLY"
    | .nRSOnly => "N_R_S_ONLY"
  enumForName
    | "ALL" => .ok .all
    | "N_ONLY" => .ok .nOnly
    | "N_R_ONLY" => .ok .nROnly
    | "N_R_S_ONLY" => .ok .nRSOnly
    | _ => .error .outOfRange
  enumForName_name value := by cases value <;> rfl

def hpTypeNames : EnumNames HPType where
  nameForEnum
    | .defeatPlayer => "DEFEAT_PLAYER"
    | .defeatTeam => "DEFEAT_TEAM"
    | .commonHp => "COMMON_HP"
  enumForName
    | "DEFEAT_PLAYER" => .ok .defeatPlayer
    | "DEFEAT_TEAM" => .ok .defeatTeam
    | "COMMON_HP" => .ok .commonHp
    | _ => .error .outOfRange
  enumForName_name value := by cases value <;> rfl

def diceExchangeModeNames : EnumNames DiceExchangeMode where
  nameForEnum
    | .highAtk => "HIGH_ATK"
    | .highDef => "HIGH_DEF"
    | .none => "NONE"
  enumForName
    | "HIGH_ATK" => .ok .highAtk
    | "HIGH_DEF" => .ok .highDef
    | "NONE" => .ok .none
    | _ => .error .outOfRange
  enumForName_name value := by cases value <;> rfl

structure Rules where
  overallTimeLimit : UInt8
  phaseTimeLimit : UInt8
  allowedCards : AllowedCards
  minDiceValue : UInt8
  maxDiceValue : UInt8
  disableDeckShuffle : UInt8
  disableDeckLoop : UInt8
  charHp : UInt8
  hpType : HPType
  noAssistCards : UInt8
  disableDialogue : UInt8
  diceExchangeMode : DiceExchangeMode
  disableDiceBoost : UInt8
  defDiceValueRange : UInt8
  atkDiceValueRange2v1 : UInt8
  defDiceValueRange2v1 : UInt8
  deriving DecidableEq

/-- A byte member set from a JSON integer. -/
def toUInt8 (value : Int) : UInt8 :=
  UInt8.ofNat (value % 0x100).toNat

def boolToUInt8 (value : Bool) : UInt8 :=
  if value then 1 else 0

def highNibble (value : UInt8) : UInt8 := (value >>> 4) &&& 0x0F

def lowNibble (value : UInt8) : UInt8 := value &&& 0x0F

def diceRange (minDice maxDice : UInt8) : UInt8 :=
  ((minDice <<< 4) &&& 0xF0) ||| (maxDice &&& 0x0F)

/-- The accessors of a key with an older name. -/
def getIntEither (key oldKey : String) (default : UInt8) (json : Json) : Except JsonError UInt8 := do
  let older ← Json.orDefault (json.getInt oldKey) default.toNat
  let value ← Json.orDefault (json.getInt key) older
  return toUInt8 value

def getBoolEither (key oldKey : String) (default : UInt8) (json : Json) : Except JsonError UInt8 := do
  let older ← Json.orDefault (json.getBool oldKey) (default != 0)
  let value ← Json.orDefault (json.getBool key) older
  return boolToUInt8 value

def getEnumEither {α : Type} (names : EnumNames α) (key oldKey : String) (default : α)
    (json : Json) : Except JsonError α := do
  let older ← Json.orDefault (json.getString oldKey >>= names.enumForName) default
  Json.orDefault (json.getString key >>= names.enumForName) older

namespace Rules

/-- What `clear` leaves, before the constructor reads its members. -/
def cleared : Rules where
  overallTimeLimit := 0
  phaseTimeLimit := 0
  allowedCards := .all
  minDiceValue := 0
  maxDiceValue := 0
  disableDeckShuffle := 0
  disableDeckLoop := 0
  charHp := 0
  hpType := .defeatPlayer
  noAssistCards := 0
  disableDialogue := 0
  diceExchangeMode := .highAtk
  disableDiceBoost := 0
  defDiceValueRange := 0
  atkDiceValueRange2v1 := 0
  defDiceValueRange2v1 := 0

/-- One of the ranges of dice that are written as two members. -/
def diceRangeFromJson (minKey oldMinKey maxKey oldMaxKey : String) (default : UInt8)
    (json : Json) : Except JsonError UInt8 := do
  let minDice ← getIntEither minKey oldMinKey (highNibble default) json
  let maxDice ← getIntEither maxKey oldMaxKey (lowNibble default) json
  return diceRange minDice maxDice

def fromJson (json : Json) : Except JsonError Rules := do
  let self := cleared
  let overallTimeLimit ←
    getIntEither "OverallTimeLimit" "overall_time_limit" self.overallTimeLimit json
  let phaseTimeLimit ← getIntEither "PhaseTimeLimit" "phase_time_limit" self.phaseTimeLimit json
  let allowedCards ←
    getEnumEither allowedCardsNames "AllowedCards" "allowed_cards" self.allowedCards json
  let minDiceValue ← getIntEither "MinDice" "min_dice" self.minDiceValue json
  let maxDiceValue ← getIntEither "MaxDice" "max_dice" self.maxDiceValue json
  let disableDeckShuffle ←
    getBoolEither "DisableDeckShuffle" "disable_deck_shuffle" self.disableDeckShuffle json
  let disableDeckLoop ←
    getBoolEither "DisableDeckLoop" "disable_deck_loop" self.disableDeckLoop json
  let charHp ← getIntEither "CharHP" "char_hp" self.charHp json
  let hpType ← getEnumEither hpTypeNames "HPType" "hp_type" self.hpType json
  let noAssistCards ← getBoolEither "NoAssistCards" "no_assist_cards" self.noAssistCards json
  let disableDialogue ← getBoolEither "DisableDialogue" "disable_dialogue" self.disableDialogue json
  let diceExchangeMode ← getEnumEither diceExchangeModeNames "DiceExchangeMode"
    "dice_exchange_mode" self.diceExchangeMode json
  let disableDiceBoost ←
    getBoolEither "DisableDiceBoost" "disable_dice_boost" self.disableDiceBoost json
  let defDiceValueRange ← diceRangeFromJson "MinDEFDice" "min_def_dice" "MaxDEFDice"
    "max_def_dice" self.defDiceValueRange json
  let atkDiceValueRange2v1 ← diceRangeFromJson "MinATKDice2v1" "min_atk_dice_2v1"
    "MaxATKDice2v1" "max_atk_dice_2v1" self.atkDiceValueRange2v1 json
  let defDiceValueRange2v1 ← diceRangeFromJson "MinDEFDice2v1" "min_def_dice_2v1"
    "MaxDEFDice2v1" "max_def_dice_2v1" self.defDiceValueRange2v1 json
  return {
    overallTimeLimit, phaseTimeLimit, allowedCards, minDiceValue, maxDiceValue,
    disableDeckShuffle, disableDeckLoop, charHp, hpType, noAssistCards, disableDialogue,
    diceExchangeMode, disableDiceBoost, defDiceValueRange, atkDiceValueRange2v1,
    defDiceValueRange2v1 }

def toJson (self : Rules) : Json :=
  .dict [
    ("OverallTimeLimit", .int self.overallTimeLimit.toNat),
    ("PhaseTimeLimit", .int self.phaseTimeLimit.toNat),
    ("AllowedCards", .str (allowedCardsNames.nameForEnum self.allowedCards)),
    ("MinDice", .int self.minDiceValue.toNat),
    ("MaxDice", .int self.maxDiceValue.toNat),
    ("DisableDeckShuffle", .bool (self.disableDeckShuffle != 0)),
    ("DisableDeckLoop", .bool (self.disableDeckLoop != 0)),
    ("CharHP", .int self.charHp.toNat),
    ("HPType", .str (hpTypeNames.nameForEnum self.hpType)),
    ("NoAssistCards", .bool (self.noAssistCards != 0)),
    ("DisableDialogue", .bool (self.disableDialogue != 0)),
    ("DiceExchangeMode", .str (diceExchangeModeNames.nameForEnum self.diceExchangeMode)),
    ("DisableDiceBoost", .bool (self.disableDiceBoost != 0)),
    ("MinDEFDice", .int (highNibble self.defDiceValueRange).toNat),
    ("MaxDEFDice", .int (lowNibble self.defDiceValueRange).toNat),
    ("MinATKDice2v1", .int (highNibble self.atkDiceValueRange2v1).toNat),
    ("MaxATKDice2v1", .int (lowNibble self.atkDiceValueRange2v1).toNat),
    ("MinDEFDice2v1", .int (highNibble self.defDiceValueRange2v1).toNat),
    ("MaxDEFDice2v1", .int (lowNibble self.defDiceValueRange2v1).toNat)]

/-- The members that are written as booleans come back as 0 or 1. -/
def normalized (self : Rules) : Rules :=
  { self with
    disableDeckShuffle := boolToUInt8 (self.disableDeckShuffle != 0)
    disableDeckLoop := boolToUInt8 (self.disableDeckLoop != 0)
    noAssistCards := boolToUInt8 (self.noAssistCards != 0)
    disableDialogue := boolToUInt8 (self.disableDialogue != 0)
    disableDiceBoost := boolToUInt8 (self.disableDiceBoost != 0) }

end Rules

/-! Reading back what was written. -/

section ReadBack

variable {json : Json} {key oldKey : String}

theorem toUInt8_toNat (value : UInt8) : toUInt8 value.toNat = value := by
  apply UInt8.toNat_inj.mp
  have hlt := value.toNat_lt
  rw [toUInt8, UInt8.toNat_ofNat']
  omega

theorem getIntEither_eq {value : UInt8} (h : json.lookup key = .ok (.int value.toNat))
    (hold : json.lookup oldKey = .error .outOfRange) (default : UInt8) :
    getIntEither key oldKey default json = .ok value := by
  simp only [getIntEither, Json.getInt, h, hold, ok_bind, error_bind, orDefault_outOfRange,
    Json.asInt, orDefault_ok, toUInt8_toNat]
  rfl

theorem getBoolEither_eq {value : Bool} (h : json.lookup key = .ok (.bool value))
    (hold : json.lookup oldKey = .error .outOfRange) (default : UInt8) :
    getBoolEither key oldKey default json = .ok (boolToUInt8 value) := by
  simp only [getBoolEither, Json.getBool, h, hold, ok_bind, error_bind, orDefault_outOfRange,
    Json.asBool, orDefault_ok]
  rfl

theorem getEnumEither_eq {α : Type} {names : EnumNames α} {value : α}
    (h : json.lookup key = .ok (.str (names.nameForEnum value)))
    (hold : json.lookup oldKey = .error .outOfRange) (default : α) :
    getEnumEither names key oldKey default json = .ok value := by
  simp only [getEnumEither, Json.getString, h, hold, ok_bind, error_bind, orDefault_outOfRange,
    Json.asString, names.enumForName_name, orDefault_ok]

theorem diceRange_nibbles (value : UInt8) :
    diceRange (highNibble value) (lowNibble value) = value := by
  obtain ⟨bits⟩ := value
  revert bits
  decide +kernel

theorem diceRangeFromJson_eq {minKey oldMinKey maxKey oldMaxKey : String} {value : UInt8}
    (hmin : json.lookup minKey = .ok (.int (highNibble value).toNat))
    (holdMin : json.lookup oldMinKey = .error .outOfRange)
    (hmax : json.lookup maxKey = .ok (.int (lowNibble value).toNat))
    (holdMax : json.lookup oldMaxKey = .error .outOfRange) (default : UInt8) :
    Rules.diceRangeFromJson minKey oldMinKey maxKey oldMaxKey default json = .ok value := by
  simp only [Rules.diceRangeFromJson, getIntEither_eq hmin holdMin, getIntEither_eq hmax holdMax,
    ok_bind, diceRange_nibbles]
  rfl

end ReadBack

/-- The JSON form of rules is read back as the same rules, with normalised
flags. -/
theorem fromJson_toJson (rules : Rules) : Rules.fromJson rules.toJson = .ok rules.normalized := by
  unfold Rules.fromJson
  refine bind_of_ok (getIntEither_eq rfl rfl _) ?_
  refine bind_of_ok (getIntEither_eq rfl rfl _) ?_
  refine bind_of_ok (getEnumEither_eq rfl rfl _) ?_
  refine bind_of_ok (getIntEither_eq rfl rfl _) ?_
  refine bind_of_ok (getIntEither_eq rfl rfl _) ?_
  refine bind_of_ok (getBoolEither_eq rfl rfl _) ?_
  refine bind_of_ok (getBoolEither_eq rfl rfl _) ?_
  refine bind_of_ok (getIntEither_eq rfl rfl _) ?_
  refine bind_of_ok (getEnumEither_eq rfl rfl _) ?_
  refine bind_of_ok (getBoolEither_eq rfl rfl _) ?_
  refine bind_of_ok (getBoolEither_eq rfl rfl _) ?_
  refine bind_of_ok (getEnumEither_eq rfl rfl _) ?_
  refine bind_of_ok (getBoolEither_eq rfl rfl _) ?_
  refine bind_of_ok (diceRangeFromJson_eq rfl rfl rfl rfl _) ?_
  refine bind_of_ok (diceRangeFromJson_eq rfl rfl rfl rfl _) ?_
  refine bind_of_ok (diceRangeFromJson_eq rfl rfl rfl rfl _) ?_
  rfl

end HuntersGuild.BattleRules
