import AgentLink.Text.Blank
import AgentLink.Text.Digit

/-!
# Integers written as text

`Integer.read` reads a whole text as a decimal integer: blanks other than the information
separators may surround it, a sign `+` or `-` may open it, its digits may come from any script,
and a single underscore may stand between two digits. More than `Integer.maxDigits` digits are
refused with their count, so that a hostile text cannot make the reader work without bound.
-/

namespace AgentLink.Text.Integer

/-- Why a text is no integer. -/
inductive ReadError where
  /-- The text does not have the form of an integer. -/
  | malformed
  /-- The text has the form of an integer with more digits than `maxDigits`. -/
  | tooManyDigits (count : Nat)
  deriving DecidableEq, Repr

/-- The most digits that an integer text may have. -/
def maxDigits : Nat := 4300

/-- The message of a text with `count` digits, more than `maxDigits`. -/
def tooManyDigitsMessage (count : Nat) : String :=
  "Exceeds the limit (" ++ toString maxDigits ++
    " digits) for integer string conversion: value has " ++ toString count ++
    " digits; use sys.set_int_max_str_digits() to increase the limit"

/-- A run of digits longer than an integer text may have: the count of its digits. -/
structure TooManyDigits where
  count : Nat
  deriving DecidableEq, Repr

/-- The message of a run of digits that is too long. -/
def TooManyDigits.message (e : TooManyDigits) : String :=
  tooManyDigitsMessage e.count

/-- The value of a run of decimal digits of any script, most significant first; a run of more
than `maxDigits` digits has none. -/
def valueOfDigits (ds : List Char) : Except TooManyDigits Nat :=
  if maxDigits < ds.length then .error ⟨ds.length⟩
  else .ok (ds.foldl (fun acc c => acc * 10 + (digitValue? c).getD 0) 0)

/-- Every blank that may surround a number reads as a space and every digit of another script as
its ASCII digit. -/
def normalize (c : Char) : Char :=
  if isNumberBlank c then ' '
  else match digitValue? c with
    | some d => Char.ofNat ('0'.toNat + d)
    | none => c

/-- The digits after a first digit, each alone or after one underscore, and the text that
follows them; `none` when an underscore is not followed by a digit. -/
def digitTail : List Char → Option (List Nat × List Char)
  | [] => some ([], [])
  | '_' :: [] => none
  | '_' :: c :: r =>
    match asciiDigit? c with
    | some d => (digitTail r).map fun (ds, rest) => (d :: ds, rest)
    | none => none
  | c :: r =>
    match asciiDigit? c with
    | some d => (digitTail r).map fun (ds, rest) => (d :: ds, rest)
    | none => some ([], c :: r)

/-- A run of digits that starts with a digit, and the text after it. -/
def digitRun : List Char → Option (List Nat × List Char)
  | [] => none
  | c :: r =>
    match asciiDigit? c with
    | some d => (digitTail r).map fun (ds, rest) => (d :: ds, rest)
    | none => none

/-- The number that a list of decimal digits, most significant first, stands for. -/
def ofDigits (ds : List Nat) : Nat :=
  ds.foldl (fun acc d => acc * 10 + d) 0

/-- The sign of an integer text and the text after it. -/
def sign : List Char → Bool × List Char
  | '-' :: r => (true, r)
  | '+' :: r => (false, r)
  | r => (false, r)

/-- Reads a whole text as a decimal integer. -/
def readChars (cs : List Char) : Except ReadError Int :=
  let (negative, body) := sign ((cs.map normalize).dropWhile (· == ' '))
  match digitRun body with
  | none => .error .malformed
  | some (ds, rest) =>
    if maxDigits < ds.length then .error (.tooManyDigits ds.length)
    else if rest.all (· == ' ') then
      .ok (if negative then -(ofDigits ds : Int) else (ofDigits ds : Int))
    else .error .malformed

/-- Reads a whole text as a decimal integer. -/
def read (s : String) : Except ReadError Int :=
  readChars s.toList

/-- The integer a text stands for, if it stands for one. -/
def read? (s : String) : Option Int :=
  match read s with
  | .ok n => some n
  | .error _ => none

end AgentLink.Text.Integer
