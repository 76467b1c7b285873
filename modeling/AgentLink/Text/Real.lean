import AgentLink.Text.Integer
import AgentLink.Decimal.Integral

/-!
# Real numbers written as text

`Text.readReal?` reads a whole text as a float: blanks may surround it, a sign may open it,
digits may come from any script, and a single underscore may stand between two digits. The
number is digits with an optional fraction after a point, or a fraction alone, then an optional
exponent after `e` or `E`; or one of the words `inf`, `infinity` and `nan` in any case. What it
reads is a `Text.Reading`, whose value is the float nearest to the decimal; too large a decimal
reads as infinity. `Text.Reading.truncate` cuts the value toward zero, and refuses the words
`inf`, `infinity` and `nan` without computing a float.
-/

namespace AgentLink.Text

/-- Whether a text spells a word, ignoring ASCII case. -/
def spellsWord (cs : List Char) (w : String) : Bool :=
  cs.map Char.toLower == w.toList

/-- Digits with single underscores between them, as `Text.Integer.digitRun` reads them, or
nothing when no digit stands at the front. -/
def optionalDigits (cs : List Char) : Option (List Nat × List Char) :=
  match cs with
  | c :: _ => if (asciiDigit? c).isSome then Integer.digitRun cs else some ([], cs)
  | [] => some ([], [])

/-- The exponent of a decimal and what follows it: none when there is no `e`, `none` for an
`e` without digits. -/
def exponentPart (cs : List Char) : Option (Int × List Char) :=
  match cs with
  | e :: rest =>
    if e == 'e' || e == 'E' then
      let (negative, body) := Integer.sign rest
      (Integer.digitRun body).map fun (ds, more) =>
        let n : Int := Integer.ofDigits ds
        (if negative then -n else n, more)
    else some (0, cs)
  | [] => some (0, [])

/-- The mantissa digits and power of ten of an unsigned decimal that fills the whole text. -/
def unsignedDecimal (cs : List Char) : Option (List Nat × Int) := do
  let (whole, rest) ← optionalDigits cs
  let (frac, rest) ← match rest with
    | '.' :: more => optionalDigits more
    | _ => some ([], rest)
  if whole.isEmpty && frac.isEmpty then none
  else
    let (e, rest) ← exponentPart rest
    if rest.isEmpty then some (whole ++ frac, e - frac.length) else none

/-- What a text spells as a real number. -/
inductive Reading where
  /-- `inf` or `infinity`, with its sign. -/
  | infinite (negative : Bool)
  /-- `nan`, signed or not. -/
  | notANumber
  /-- A decimal: its sign, the digits of its mantissa and its power of ten. -/
  | decimal (negative : Bool) (digits : List Nat) (exp : Int)
  deriving DecidableEq, Repr

/-- Reads a whole text as a real number. -/
def readReal? (s : String) : Option Reading :=
  let cs := (s.toList.map Integer.normalize).dropWhile (· == ' ')
  let cs := (cs.reverse.dropWhile (· == ' ')).reverse
  let (negative, body) := Integer.sign cs
  if spellsWord body "inf" || spellsWord body "infinity" then some (.infinite negative)
  else if spellsWord body "nan" then some .notANumber
  else (unsignedDecimal body).map fun (ds, e) => .decimal negative ds e

/-- The float nearest to a reading. -/
def Reading.toFloat : Reading → Float
  | .infinite negative => if negative then -(1.0 / 0.0) else 1.0 / 0.0
  | .notANumber => 0.0 / 0.0
  | .decimal negative ds e =>
    let x := Decimal.ofDecimal (Integer.ofDigits ds) e
    if negative then -x else x

/-- The integer part of a reading, toward zero: the infinities and NaN have none, and neither
has a decimal too large for a float. -/
def Reading.truncate : Reading → Except Decimal.TruncateError Int
  | .infinite _ => .error .infinite
  | .notANumber => .error .notANumber
  | .decimal negative ds e => Decimal.truncate (Reading.decimal negative ds e).toFloat

end AgentLink.Text
