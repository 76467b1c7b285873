import AgentLink.Json.Value
import AgentLink.Decimal.Integral

/-!
# Reading resources from JSON

The server describes its resources as JSON objects, and the client reads them leniently: a
field of the wrong kind counts as missing and takes its default. Only a few things stop
reading (`DecodeError`): a resource that is no object, a part or message kind that the client
does not know, and a whole number given as a float that has no integer part (NaN or infinity).

The field readers here (`Json.Value.textOr`, `optText`, `optInt`, `objOr`) are the whole
vocabulary of leniency, so each resource's reader is a list of fields.
-/

namespace AgentLink

/-- Why a resource cannot be read. -/
inductive DecodeError where
  /-- The resource, named `what`, is a value of kind `got` and not an object. -/
  | notObject (what got : String)
  /-- A part has a kind that the client does not know. -/
  | unknownPartType (kind : String)
  /-- A message has a role that the client does not know. -/
  | unknownRole (role : String)
  /-- A part update carries no part object. -/
  | partMissing
  /-- A value stood where an object was read, and had no fields to read. -/
  | noFields (got : String)
  /-- A whole number was given as an infinite float. -/
  | infiniteToInt
  /-- A whole number was given as NaN. -/
  | nanToInt
  /-- A whole number is too large to be a float. -/
  | intTooLarge
  deriving DecidableEq, Repr

/-- The message of a reading error. -/
def DecodeError.message : DecodeError → String
  | .notObject what got => "Expected a JSON object for " ++ what ++ ", got " ++ got
  | .unknownPartType kind => "Unknown part type: " ++ kind
  | .unknownRole role => "Unknown message role: " ++ role
  | .partMissing => "message.part.updated without a part object"
  | .noFields got => "'" ++ got ++ "' object has no attribute 'get'"
  | .infiniteToInt => "cannot convert float infinity to integer"
  | .nanToInt => "cannot convert float NaN to integer"
  | .intTooLarge => "int too large to convert to float"

/-- Whether the error is one of the protocol's own (a resource of the wrong shape or kind),
rather than one of arithmetic or of a value. -/
def DecodeError.isProtocol : DecodeError → Bool
  | .notObject .. | .unknownPartType _ | .unknownRole _ | .partMissing => true
  | _ => false

namespace Json.Value

/-- The object's fields, or an error naming the resource when the value is no object. -/
def requireObject (v : Value) (what : String) : Except DecodeError (List (String × Value)) :=
  match v with
  | .obj fs => .ok fs
  | v => .error (.notObject what v.kindName)

/-- The text under a key, or `default` when the field is missing or no text. -/
def textOr (v : Value) (key : String) (default : String := "") : String :=
  match v.get? key with
  | some (.str s) => s
  | _ => default

/-- The text under a key, if the field is a text. -/
def optText (v : Value) (key : String) : Option String :=
  match v.get? key with
  | some (.str s) => some s
  | _ => none

/-- The object under a key, or the empty object. -/
def objOr (v : Value) (key : String) : Value :=
  match v.get? key with
  | some (.obj fs) => .obj fs
  | _ => .obj []

/-- The whole number under a key: an integer as it is, a float cut toward zero; `none` for a
missing field, a boolean or anything else. -/
def optInt (v : Value) (key : String) : Except DecodeError (Option Int) :=
  match v.get? key with
  | some (.int n) => .ok (some n)
  | some (.float x) =>
    match Decimal.truncate x with
    | .ok n => .ok (some n)
    | .error .infinite => .error .infiniteToInt
    | .error .notANumber => .error .nanToInt
  | _ => .ok none

/-- The whole number under a key, zero when there is none. -/
def intOr (v : Value) (key : String) : Except DecodeError Int :=
  return (← v.optInt key).getD 0

/-- The texts among the items of the list under a key, in order; none when it is no list. -/
def texts (v : Value) (key : String) : List String :=
  match v.get? key with
  | some (.arr xs) => xs.filterMap Value.str?
  | _ => []

end Json.Value

end AgentLink
