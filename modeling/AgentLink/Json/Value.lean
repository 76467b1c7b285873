/-!
# JSON values

A JSON value as the server and the configuration hand it over (`Json.Value`). Whole numbers and
numbers with a fraction or an exponent stay apart (`int` and `float`), integers have no bound,
and an object keeps its keys in the order they first appeared, each key once. Setting a key
(`Json.setField`) replaces its value in place, or adds it at the end.
-/

namespace AgentLink.Json

/-- A JSON value. -/
inductive Value where
  | null
  | bool (b : Bool)
  | int (n : Int)
  | float (x : Float)
  | str (s : String)
  | arr (items : List Value)
  | obj (fields : List (String × Value))
  deriving Inhabited

/-- An object's fields with one key set: its value is replaced in place when the key is there,
and the pair is added at the end otherwise. -/
def setField : List (String × Value) → String → Value → List (String × Value)
  | [], k, v => [(k, v)]
  | (k', v') :: rest, k, v => if k' == k then (k, v) :: rest else (k', v') :: setField rest k v

/-- The value under a key of an object; `none` for a missing key or a value that is no object. -/
def Value.get? : Value → String → Option Value
  | .obj fields, k => (fields.find? (·.1 == k)).map (·.2)
  | _, _ => none

/-- The text of a string value. -/
def Value.str? : Value → Option String
  | .str s => some s
  | _ => none

/-- The fields of an object value. -/
def Value.obj? : Value → Option (List (String × Value))
  | .obj fs => some fs
  | _ => none

/-- The name of the kind of a value, as the server's client reports it in messages. -/
def Value.kindName : Value → String
  | .null => "NoneType"
  | .bool _ => "bool"
  | .int _ => "int"
  | .float _ => "float"
  | .str _ => "str"
  | .arr _ => "list"
  | .obj _ => "dict"

/-- Whether a value counts as true when tested: `null`, `false`, zero, and the empty text, list
and object are false. -/
def Value.truthy : Value → Bool
  | .null => false
  | .bool b => b
  | .int n => n != 0
  | .float x => x != 0
  | .str s => !s.isEmpty
  | .arr xs => !xs.isEmpty
  | .obj fs => !fs.isEmpty

end AgentLink.Json
