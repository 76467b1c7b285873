import AgentLink.Json.Value
import AgentLink.Text.Integer
import AgentLink.Decimal.Integral
import AgentLink.Text.Surrogate

/-!
# Reading JSON text

`Json.read` reads a whole text as one JSON value, with blanks (space, tab, line feed, carriage
return) around it. Beyond the standard it accepts the constants `NaN`, `Infinity` and
`-Infinity`; a number with a fraction or an exponent becomes a float, rounded to nearest, and
one too large for a float becomes infinity; an integer keeps all its digits up to
`Text.Integer.maxDigits`; of two equal keys the last value wins, at the place of the first.
Strings may not hold control characters; an escape reads as the code point it names, written
as `Text.writeCodePoint` writes it, a lone surrogate as its carrier. Arrays and objects may
stand one inside the other only while the calls that lead to the reading and the containers
open together stay within `Json.callBudget`: a reading made from deeper inside the program
admits fewer (`Json.readAt`).

A text that is no JSON gives a `Json.ReadError` with the position, counted in characters, where
reading stopped; `Json.ReadError.message` gives that position, its line and its column counted
in code points.
-/

namespace AgentLink.Json

/-- Why reading stopped. -/
inductive SyntaxKind where
  | expectingValue
  | expectingPropertyName
  | expectingColon
  | expectingComma
  | unterminatedString
  | invalidControl
  | invalidEscape
  | invalidUnicodeEscape
  | extraData
  | byteOrderMark
  deriving DecidableEq, Repr

/-- What the message says for each reason. -/
def SyntaxKind.text : SyntaxKind → String
  | .expectingValue => "Expecting value"
  | .expectingPropertyName => "Expecting property name enclosed in double quotes"
  | .expectingColon => "Expecting ':' delimiter"
  | .expectingComma => "Expecting ',' delimiter"
  | .unterminatedString => "Unterminated string starting at"
  | .invalidControl => "Invalid control character at"
  | .invalidEscape => "Invalid \\escape"
  | .invalidUnicodeEscape => "Invalid \\uXXXX escape"
  | .extraData => "Extra data"
  | .byteOrderMark => "Unexpected UTF-8 BOM (decode using utf-8-sig)"

/-- The two kinds of JSON value that hold others. -/
inductive Container where
  | array
  | object
  deriving DecidableEq, Repr

/-- The name of a kind of container. -/
def Container.name : Container → String
  | .array => "array"
  | .object => "object"

/-- The most calls that may stand one inside another while a text is read: the calls that lead
to the reading, and one for each array or object open. -/
def callBudget : Nat := 1000

/-- The calls of a reading itself: its entry, the reading of the whole text and of its first
value, and the scanner that reads the values. -/
def readerCalls : Nat := 4

/-- The calls that lead to the reading of a server's reply to an operation that the caller runs
directly. -/
def replyCalls : Nat := 10

/-- A text that is no JSON value. -/
inductive ReadError where
  /-- The text breaks the grammar at a position, counted in characters. -/
  | grammar (kind : SyntaxKind) (pos : Nat)
  /-- An integer has more digits than `Text.Integer.maxDigits`. -/
  | tooManyDigits (count : Nat)
  /-- A container opens when the calls and containers open already fill `callBudget`. -/
  | tooDeep (c : Container)
  deriving DecidableEq, Repr

/-- Whether reading stopped at a container nested too deep. -/
def ReadError.isTooDeep : ReadError → Bool
  | .tooDeep _ => true
  | _ => false

/-- The decimal text of a natural number. -/
def natText (n : Nat) : String :=
  String.ofList (Nat.toDigits 10 n)

/-- Where a position of a text lies, counted in code points rather than characters: its line
and column, both from one, and its index. -/
def place (src : List Char) (pos : Nat) : Nat × Nat × Nat :=
  let before := Text.codePoints (src.take pos)
  let line := before.count 0x0A + 1
  match before.reverse.findIdx? (· == 0x0A) with
  | some i => (line, i + 1, before.length)
  | none => (line, before.length + 1, before.length)

/-- The message of a reading error about the text `src`. -/
def ReadError.message (src : String) : ReadError → String
  | .grammar kind pos =>
    let (line, col, index) := place src.toList pos
    kind.text ++ ": line " ++ natText line ++ " column " ++ natText col ++ " (char " ++
      natText index ++ ")"
  | .tooManyDigits count => Text.Integer.tooManyDigitsMessage count
  | .tooDeep c =>
    "maximum recursion depth exceeded while decoding a JSON " ++ c.name ++ " from a unicode string"

/-- Whether a character is a blank between JSON tokens. -/
def isGap (c : Char) : Bool :=
  c == ' ' || c == '\t' || c == '\n' || c == '\r'

/-- The first position at or after `i` that holds no blank. -/
def skipGap (s : Array Char) (i : Nat) : Nat :=
  if h : i < s.size then
    if isGap s[i] then skipGap s (i + 1) else i
  else i
termination_by s.size - i

/-- The value of a hexadecimal digit. -/
def hexValue? (c : Char) : Option Nat :=
  if '0' ≤ c ∧ c ≤ '9' then some (c.toNat - '0'.toNat)
  else if 'a' ≤ c ∧ c ≤ 'f' then some (c.toNat - 'a'.toNat + 10)
  else if 'A' ≤ c ∧ c ≤ 'F' then some (c.toNat - 'A'.toNat + 10)
  else none

/-- The number written by the four hexadecimal digits at `i`. -/
def hex4 (s : Array Char) (i : Nat) : Option Nat := do
  let a ← hexValue? (s.getD i ' ')
  let b ← hexValue? (s.getD (i + 1) ' ')
  let c ← hexValue? (s.getD (i + 2) ' ')
  let d ← hexValue? (s.getD (i + 3) ' ')
  pure (((a * 16 + b) * 16 + c) * 16 + d)

/-- The character of a one-letter escape. -/
def simpleEscape? : Char → Option Char
  | '"' => some '"'
  | '\\' => some '\\'
  | '/' => some '/'
  | 'b' => some '\x08'
  | 'f' => some '\x0c'
  | 'n' => some '\n'
  | 'r' => some '\r'
  | 't' => some '\t'
  | _ => none

/-- The text with the code point read from an escape written after it
(`Text.writeCodePoint`). -/
def pushCodePoint (acc : String) (n : Nat) : String :=
  acc ++ String.ofList (Text.writeCodePoint n)

/-- Reads the rest of a string whose opening quote is at `start`, from position `i`: its text
and the position after the closing quote. -/
def scanString (s : Array Char) (start : Nat) (i : Nat) (acc : String) :
    Except ReadError (String × Nat) :=
  if h : i < s.size then
    let c := s[i]
    if c == '"' then .ok (acc, i + 1)
    else if c == '\\' then
      if i + 1 < s.size then
        let e := s.getD (i + 1) ' '
        if e == 'u' then
          if s.size ≤ i + 6 then .error (.grammar .invalidUnicodeEscape (i + 1))
          else
            match hex4 s (i + 2) with
            | none => .error (.grammar .invalidUnicodeEscape (i + 1))
            | some hi =>
              if 0xD800 ≤ hi ∧ hi ≤ 0xDBFF ∧ i + 12 < s.size ∧ s.getD (i + 6) ' ' == '\\' ∧
                  s.getD (i + 7) ' ' == 'u' then
                match hex4 s (i + 8) with
                | none => .error (.grammar .invalidUnicodeEscape (i + 7))
                | some lo =>
                  if 0xDC00 ≤ lo ∧ lo ≤ 0xDFFF then
                    scanString s start (i + 12)
                      (pushCodePoint acc (0x10000 + (hi - 0xD800) * 0x400 + (lo - 0xDC00)))
                  else scanString s start (i + 6) (pushCodePoint acc hi)
              else scanString s start (i + 6) (pushCodePoint acc hi)
        else
          match simpleEscape? e with
          | some ch => scanString s start (i + 2) (acc.push ch)
          | none => .error (.grammar .invalidEscape i)
      else .error (.grammar .unterminatedString start)
    else if c.toNat ≤ 0x1F then .error (.grammar .invalidControl i)
    else scanString s start (i + 1) (acc.push c)
  else .error (.grammar .unterminatedString start)
termination_by s.size - i

/-- Whether the character at `i` is an ASCII digit. -/
def digitAt (s : Array Char) (i : Nat) : Bool :=
  let c := s.getD i ' '
  '0' ≤ c && c ≤ '9'

/-- The first position at or after `i` that holds no ASCII digit. -/
def skipDigits (s : Array Char) (i : Nat) : Nat :=
  if i < s.size ∧ digitAt s i then skipDigits s (i + 1) else i
termination_by s.size - i
decreasing_by omega

/-- The value of the digits between two positions. -/
def digitsValue (s : Array Char) (i j : Nat) : Nat :=
  ((s.extract i j).toList.filterMap Text.asciiDigit?).foldl (fun acc d => acc * 10 + d) 0

/-- Reads a number at `start`: an optional minus, an integer part without leading zeros, then
an optional fraction and an optional exponent; an exponent without digits is not part of it. -/
def scanNumber (s : Array Char) (start : Nat) : Except ReadError (Value × Nat) :=
  let negative := s.getD start ' ' == '-'
  let i := if negative then start + 1 else start
  if s.size ≤ i then .error (.grammar .expectingValue start)
  else
    let c := s.getD i ' '
    let intEnd :=
      if '1' ≤ c ∧ c ≤ '9' then some (skipDigits s (i + 1))
      else if c == '0' then some (i + 1) else none
    match intEnd with
    | none => .error (.grammar .expectingValue start)
    | some j =>
      let (fracEnd, hasFrac) :=
        if j + 1 < s.size ∧ s.getD j ' ' == '.' ∧ digitAt s (j + 1) then
          (skipDigits s (j + 2), true)
        else (j, false)
      let expPart :=
        let k := fracEnd
        if k + 1 < s.size ∧ (s.getD k ' ' == 'e' ∨ s.getD k ' ' == 'E') then
          let k₁ := k + 1
          let expNeg := s.getD k₁ ' ' == '-'
          let k₂ := if k₁ + 1 < s.size ∧ (s.getD k₁ ' ' == '-' ∨ s.getD k₁ ' ' == '+') then
            k₁ + 1 else k₁
          let k₃ := skipDigits s k₂
          if digitAt s (k₃ - 1) then
            some (k₃, if expNeg && k₂ != k₁ then -(digitsValue s k₂ k₃ : Int)
              else (digitsValue s k₂ k₃ : Int))
          else none
        else none
      match expPart, hasFrac with
      | none, false =>
        let count := j - i
        if Text.Integer.maxDigits < count then .error (.tooManyDigits count)
        else
          let n : Int := digitsValue s i j
          .ok (.int (if negative then -n else n), j)
      | _, _ =>
        let (stop, e) := expPart.getD (fracEnd, 0)
        let m := digitsValue s i fracEnd
        let fracDigits := if hasFrac then fracEnd - (j + 1) else 0
        let x := Decimal.ofDecimal m (e - fracDigits)
        .ok (.float (if negative then -x else x), stop)

/-- Whether the text at `i` spells the given characters. -/
def spellsAt (s : Array Char) (i : Nat) : List Char → Bool
  | [] => true
  | c :: cs => s.getD i ' ' == c && spellsAt s (i + 1) cs

mutual

/-- Reads one value at `i`, with `depth` calls and containers open: the value and the position
after it.
`fuel` bounds the number of steps, and a text of `n` characters needs no more than
`2 * n + 1`. -/
def scanValue (s : Array Char) (depth : Nat) : Nat → Nat → Except ReadError (Value × Nat)
  | 0, i => .error (.grammar .expectingValue i)
  | fuel + 1, i =>
    if s.size ≤ i then .error (.grammar .expectingValue i)
    else
      match s.getD i ' ' with
      | '"' => (scanString s i (i + 1) "").map fun (t, j) => (.str t, j)
      | '{' =>
        if callBudget ≤ depth then .error (.tooDeep .object)
        else scanObject s (depth + 1) fuel (skipGap s (i + 1)) [] true
      | '[' =>
        if callBudget ≤ depth then .error (.tooDeep .array)
        else scanArray s (depth + 1) fuel (skipGap s (i + 1)) [] true
      | 'n' => if i + 3 < s.size ∧ spellsAt s i "null".toList then .ok (.null, i + 4)
          else scanNumber s i
      | 't' => if i + 3 < s.size ∧ spellsAt s i "true".toList then .ok (.bool true, i + 4)
          else scanNumber s i
      | 'f' => if i + 4 < s.size ∧ spellsAt s i "false".toList then .ok (.bool false, i + 5)
          else scanNumber s i
      | 'N' => if i + 2 < s.size ∧ spellsAt s i "NaN".toList then .ok (.float (0.0 / 0.0), i + 3)
          else scanNumber s i
      | 'I' => if i + 7 < s.size ∧ spellsAt s i "Infinity".toList then
          .ok (.float (1.0 / 0.0), i + 8) else scanNumber s i
      | '-' => if i + 8 < s.size ∧ spellsAt s i "-Infinity".toList then
          .ok (.float (-1.0 / 0.0), i + 9) else scanNumber s i
      | _ => scanNumber s i

/-- Reads the members of an object from `i`, after the opening brace or a comma and the blanks
after them; `first` holds before the first member, where a closing brace may stand. -/
def scanObject (s : Array Char) (depth : Nat) : Nat → Nat → List (String × Value) → Bool →
    Except ReadError (Value × Nat)
  | 0, i, _, _ => .error (.grammar .expectingValue i)
  | fuel + 1, i, acc, first =>
    if first ∧ s.getD i ' ' == '}' ∧ i < s.size then .ok (.obj acc, i + 1)
    else if ¬ (i < s.size ∧ s.getD i ' ' == '"') then
      .error (.grammar .expectingPropertyName i)
    else
      match scanString s i (i + 1) "" with
      | .error e => .error e
      | .ok (key, j) =>
        let j := skipGap s j
        if ¬ (j < s.size ∧ s.getD j ' ' == ':') then .error (.grammar .expectingColon j)
        else
          match scanValue s depth fuel (skipGap s (j + 1)) with
          | .error e => .error e
          | .ok (v, k) =>
            let acc := setField acc key v
            let k := skipGap s k
            if k < s.size ∧ s.getD k ' ' == '}' then .ok (.obj acc, k + 1)
            else if ¬ (k < s.size ∧ s.getD k ' ' == ',') then
              .error (.grammar .expectingComma k)
            else scanObject s depth fuel (skipGap s (k + 1)) acc false

/-- Reads the items of an array from `i`, after the opening bracket or a comma and the blanks
after them; `first` holds before the first item, where a closing bracket may stand. -/
def scanArray (s : Array Char) (depth : Nat) : Nat → Nat → List Value → Bool →
    Except ReadError (Value × Nat)
  | 0, i, _, _ => .error (.grammar .expectingValue i)
  | fuel + 1, i, acc, first =>
    if first ∧ s.getD i ' ' == ']' ∧ i < s.size then .ok (.arr acc.reverse, i + 1)
    else
      match scanValue s depth fuel i with
      | .error e => .error e
      | .ok (v, k) =>
        let acc := v :: acc
        let k := skipGap s k
        if k < s.size ∧ s.getD k ' ' == ']' then .ok (.arr acc.reverse, k + 1)
        else if ¬ (k < s.size ∧ s.getD k ' ' == ',') then .error (.grammar .expectingComma k)
        else scanArray s depth fuel (skipGap s (k + 1)) acc false

end

/-- Reads a whole text as one JSON value, with blanks around it, inside `calls` calls. -/
def readAt (calls : Nat) (text : String) : Except ReadError Value :=
  let s := text.toList.toArray
  if s.getD 0 ' ' == '﻿' ∧ 0 < s.size then .error (.grammar .byteOrderMark 0)
  else
    match scanValue s calls (2 * s.size + 2) (skipGap s 0) with
    | .error e => .error e
    | .ok (v, j) =>
      let j := skipGap s j
      if j == s.size then .ok v else .error (.grammar .extraData j)

/-- Reads a whole text as one JSON value, as a server's reply is read. -/
def read (text : String) : Except ReadError Value :=
  readAt replyCalls text

end AgentLink.Json
