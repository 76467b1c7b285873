import AgentLink.Text.Quote

/-!
# Texts that must be ASCII

Header names and values travel as ASCII bytes. `Text.checkAscii` finds the first run of
code points beyond ASCII in a text and reports it as an `Text.AsciiError`: where the run starts
and ends, counted in code points, and its first code point. The message names a single code
point by its number, and a longer run by its positions.
-/

namespace AgentLink.Text

/-- A run of code points beyond ASCII: its first code point, and the positions from `start` up
to, not including, `stop`. -/
structure AsciiError where
  first : Nat
  start : Nat
  stop : Nat
  deriving DecidableEq, Repr

/-- A code point by its number: `\\xhh`, `\\uhhhh` or `\\Uhhhhhhhh`, by its size. -/
def codeEscape (n : Nat) : String :=
  if n ≤ 0xFF then "\\x" ++ hexPadded 2 n
  else if n ≤ 0xFFFF then "\\u" ++ hexPadded 4 n
  else "\\U" ++ hexPadded 8 n

/-- The message of an encoding that failed on a run of code points: the codec, the first code
point of the run and its positions from `start` up to, not including, `stop`, and the reason. A
run of one names its code point, a longer run its positions. -/
def encodeFailure (codec : String) (first start stop : Nat) (reason : String) : String :=
  if stop = start + 1 then
    "'" ++ codec ++ "' codec can't encode character '" ++ codeEscape first ++ "' in position " ++
      toString start ++ ": " ++ reason
  else
    "'" ++ codec ++ "' codec can't encode characters in position " ++ toString start ++ "-" ++
      toString (stop - 1) ++ ": " ++ reason

/-- The message of a failed ASCII encoding. -/
def AsciiError.message (e : AsciiError) : String :=
  encodeFailure "ascii" e.first e.start e.stop "ordinal not in range(128)"

/-- The first run of code points beyond ASCII in `ns`, whose first one is at `pos`. -/
def firstWide : List Nat → Nat → Option AsciiError
  | [], _ => none
  | n :: ns, pos =>
    if n < 0x80 then firstWide ns (pos + 1)
    else
      let run := (ns.takeWhile (0x80 ≤ ·)).length
      some { first := n, start := pos, stop := pos + 1 + run }

/-- Whether every code point of a text is ASCII. -/
def isAscii (s : String) : Bool :=
  (codePoints s.toList).all (· < 0x80)

/-- Whether a text is ASCII; if not, its first run of other code points. -/
def checkAscii (s : String) : Except AsciiError Unit :=
  match firstWide (codePoints s.toList) 0 with
  | none => .ok ()
  | some e => .error e

end AgentLink.Text
