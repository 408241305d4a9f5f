import HuntersGuild.ExceptionRules

/-!
JSON values in memory, and the accessors that look a key up and check the type
of its value.
-/

namespace HuntersGuild.JsonValues

inductive Json where
  | null
  | bool (value : Bool)
  | int (value : Int)
  | str (value : String)
  | list (items : List Json)
  | dict (fields : List (String × Json))

inductive JsonError where
  | outOfRange
  | typeError
  deriving DecidableEq

namespace Json

def lookup (key : String) : Json → Except JsonError Json
  | .dict fields =>
      match fields.lookup key with
      | some value => .ok value
      | none => .error .outOfRange
  | _ => .error .typeError

def asBool : Json → Except JsonError Bool
  | .bool value => .ok value
  | _ => .error .typeError

def asInt : Json → Except JsonError Int
  | .int value => .ok value
  | _ => .error .typeError

def asString : Json → Except JsonError String
  | .str value => .ok value
  | _ => .error .typeError

def asList : Json → Except JsonError (List Json)
  | .list items => .ok items
  | _ => .error .typeError

/-- An item of a list, by position. -/
def item (z : Nat) (json : Json) : Except JsonError Json := do
  let items ← json.asList
  match items[z]? with
  | some value => .ok value
  | none => .error .outOfRange

/-- A missing key is replaced by the default; a value of another type is
still an error. -/
def orDefault {α : Type} (value : Except JsonError α) (default : α) : Except JsonError α :=
  match value with
  | .error .outOfRange => .ok default
  | other => other

def getBool (key : String) (json : Json) : Except JsonError Bool :=
  json.lookup key >>= asBool

def getInt (key : String) (json : Json) : Except JsonError Int :=
  json.lookup key >>= asInt

def getString (key : String) (json : Json) : Except JsonError String :=
  json.lookup key >>= asString

def getList (key : String) (json : Json) : Except JsonError (List Json) :=
  json.lookup key >>= asList

end Json

@[simp] theorem orDefault_ok {α : Type} (value default : α) :
    Json.orDefault (.ok value) default = .ok value := rfl

@[simp] theorem orDefault_outOfRange {α : Type} (default : α) :
    Json.orDefault (.error .outOfRange) default = .ok default := rfl

end HuntersGuild.JsonValues
