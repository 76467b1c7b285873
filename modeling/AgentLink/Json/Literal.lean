import AgentLink.Json.Writer
import AgentLink.Text.Quote

/-!
# Values as the program shows them

Messages and configuration show a value in the notation of the program's own literals:
`None`, `True` and `False`, integers in decimal, floats in their shortest form with `nan` and
`inf`, texts quoted (`Text.quote`), lists in brackets and objects in braces with `key: value`
pairs, the items separated by a comma and a space. `Json.Value.literal` is that notation;
`Json.Value.display` is the same except that a text stands for itself, unquoted.
-/

namespace AgentLink.Json

/-- Floats as the program shows them: the shortest form, `nan` and `inf`. -/
def literalFloat : Decimal.Style where
  plainFrom := -4
  plainBelow := 16
  nan := "nan"
  infinity := "inf"

mutual

/-- A value in the notation of the program's literals. -/
def Value.literal : Value → String
  | .null => "None"
  | .bool b => if b then "True" else "False"
  | .int n => intText n
  | .float x => literalFloat.render x
  | .str s => Text.quote s
  | .arr xs => "[" ++ literalItems xs ++ "]"
  | .obj fs => "\x7b" ++ literalFields fs ++ "\x7d"

/-- The literals of a list's items, separated. -/
def literalItems : List Value → String
  | [] => ""
  | [x] => x.literal
  | x :: xs => x.literal ++ ", " ++ literalItems xs

/-- The literals of an object's fields, separated. -/
def literalFields : List (String × Value) → String
  | [] => ""
  | [(k, v)] => Text.quote k ++ ": " ++ v.literal
  | (k, v) :: fs => Text.quote k ++ ": " ++ v.literal ++ ", " ++ literalFields fs

end

/-- A value as a message shows it: a text as itself, anything else as its literal. -/
def Value.display : Value → String
  | .str s => s
  | v => v.literal

end AgentLink.Json
