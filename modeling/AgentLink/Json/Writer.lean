import AgentLink.Json.Value
import AgentLink.Decimal.Layout
import AgentLink.Text.Surrogate

/-!
# Writing JSON text

`Json.Format` fixes how a value is written: the separators between items and after a key, and
whether every character outside printable ASCII is escaped. `Json.Format.spaced` is the
client's format for request bodies and tool inputs (`", "` and `": "`, ASCII only);
`Json.Format.compact` is the scripted server's (`","` and `":"`, characters kept as they are).

Strings escape the quote, the backslash and the control characters, with the short escapes
`\b \f \n \r \t` where they exist and `\u00xx` otherwise; in ASCII form every other character
outside space to tilde becomes `\uxxxx`, above the basic plane as a surrogate pair, and a lone
surrogate as itself. Floats are
written in their shortest form (`Json.floatStyle`), and NaN and the infinities as the constants
`NaN`, `Infinity` and `-Infinity`; strict JSON has no such constants, and a writer that keeps to
it refuses a value that is not `Json.Value.allFinite`.
-/

namespace AgentLink.Json

/-- How a JSON value is written as text. -/
structure Format where
  /-- What stands between two items or two fields. -/
  itemSep : String
  /-- What stands between a key and its value. -/
  keySep : String
  /-- Whether every character outside printable ASCII is escaped. -/
  asciiOnly : Bool

/-- Items after `", "`, keys before `": "`, and only ASCII characters. -/
def Format.spaced : Format := ⟨", ", ": ", true⟩

/-- Items after `","`, keys before `":"`, and characters kept as they are. -/
def Format.compact : Format := ⟨",", ":", false⟩

/-- Floats in their shortest form: positional for leading-digit exponents from -4 to 15, and
the constants `NaN` and `Infinity` for the values that are no numbers. -/
def floatStyle : Decimal.Style where
  plainFrom := -4
  plainBelow := 16
  nan := "NaN"
  infinity := "Infinity"

/-- The decimal text of an integer. -/
def intText (n : Int) : String :=
  (if n < 0 then "-" else "") ++ String.ofList (Nat.toDigits 10 n.natAbs)

/-- The four lower-case hexadecimal digits of a number below `0x10000`. -/
def hex4Text (n : Nat) : String :=
  let d := Nat.toDigits 16 n
  String.ofList (List.replicate (4 - d.length) '0' ++ d)

/-- The escape `\uxxxx` of a code unit. -/
def unitEscape (n : Nat) : String :=
  "\\u" ++ hex4Text n

/-- How one code point of a string is written. -/
def escapeCode (asciiOnly : Bool) (n : Nat) : String :=
  if n == 0x22 then "\\\""
  else if n == 0x5C then "\\\\"
  else if n == 0x0A then "\\n"
  else if n == 0x0D then "\\r"
  else if n == 0x09 then "\\t"
  else if n == 0x08 then "\\b"
  else if n == 0x0C then "\\f"
  else if n < 0x20 then unitEscape n
  else if asciiOnly && 0x7E < n then
    if n < 0x10000 then unitEscape n
    else
      let m := n - 0x10000
      unitEscape (0xD800 + m / 0x400) ++ unitEscape (0xDC00 + m % 0x400)
  else String.ofList (Text.writeCodePoint n)

/-- A string in quotes, with its code points escaped. -/
def quote (asciiOnly : Bool) (s : String) : String :=
  "\"" ++ String.join ((Text.codePoints s.toList).map (escapeCode asciiOnly)) ++ "\""

mutual

/-- The text of a value. -/
def Format.write (f : Format) : Value → String
  | .null => "null"
  | .bool b => if b then "true" else "false"
  | .int n => intText n
  | .float x => floatStyle.render x
  | .str s => quote f.asciiOnly s
  | .arr xs => "[" ++ f.writeItems xs ++ "]"
  | .obj fs => "\x7b" ++ f.writeFields fs ++ "\x7d"

/-- The texts of the items of an array, separated. -/
def Format.writeItems (f : Format) : List Value → String
  | [] => ""
  | [x] => f.write x
  | x :: xs => f.write x ++ f.itemSep ++ f.writeItems xs

/-- The texts of the fields of an object, separated. -/
def Format.writeFields (f : Format) : List (String × Value) → String
  | [] => ""
  | [(k, v)] => quote f.asciiOnly k ++ f.keySep ++ f.write v
  | (k, v) :: fs => quote f.asciiOnly k ++ f.keySep ++ f.write v ++ f.itemSep ++ f.writeFields fs

end

mutual

/-- Whether every float in a value is a number other than the infinities, so that strict
JSON can write it. -/
def Value.allFinite : Value → Bool
  | .float x => !x.isNaN && !x.isInf
  | .arr xs => allFiniteItems xs
  | .obj fs => allFiniteFields fs
  | _ => true

/-- Whether every float in the items is finite. -/
def allFiniteItems : List Value → Bool
  | [] => true
  | x :: xs => x.allFinite && allFiniteItems xs

/-- Whether every float in the fields' values is finite. -/
def allFiniteFields : List (String × Value) → Bool
  | [] => true
  | (_, v) :: fs => v.allFinite && allFiniteFields fs

end

end AgentLink.Json
