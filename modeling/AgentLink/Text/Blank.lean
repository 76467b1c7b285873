import AgentLink.Text.Surrogate

/-!
# Blank characters

The characters that separate words in text (`Text.isBlank`): the tabs, line and page breaks,
the four information separators, the next-line control, and the Unicode space separators,
line separator and paragraph separator. Stripping (`Text.strip`), cutting a text into words
(`Text.words`) and collapsing its blank runs (`Text.squeeze`) all use this one class; the last
two read a text as its code points (`Text.codePoints`), as counting its characters does. A number
text may be surrounded by the narrower class `Text.isNumberBlank`, which leaves out the
information separators.
-/

namespace AgentLink.Text

/-- A blank is a tab, a line or page break, an information separator, the next-line control,
or a Unicode space, line or paragraph separator. -/
def isBlank (c : Char) : Bool :=
  let n := c.toNat
  (0x09 ≤ n && n ≤ 0x0D) || (0x1C ≤ n && n ≤ 0x20) || n == 0x85 || n == 0xA0 ||
    n == 0x1680 || (0x2000 ≤ n && n ≤ 0x200A) || n == 0x2028 || n == 0x2029 ||
    n == 0x202F || n == 0x205F || n == 0x3000

/-- A blank that may surround a number text: any blank but the four information separators. -/
def isNumberBlank (c : Char) : Bool :=
  isBlank c && !(0x1C ≤ c.toNat && c.toNat ≤ 0x1F)

/-- Drops the blanks at the end of a text. -/
def dropBlankEnd (cs : List Char) : List Char :=
  (cs.reverse.dropWhile isBlank).reverse

/-- Drops the blanks at both ends of a text. -/
def stripList (cs : List Char) : List Char :=
  dropBlankEnd (cs.dropWhile isBlank)

/-- The text without blanks at either end. -/
def strip (s : String) : String :=
  String.ofList (stripList s.toList)

/-- The text without blanks at its end. -/
def stripEnd (s : String) : String :=
  String.ofList (dropBlankEnd s.toList)

/-- Whether a code point is a blank; a surrogate, which is no character, is none. -/
def isBlankPoint (n : Nat) : Bool :=
  isBlank (Char.ofNat n)

/-- Cuts code points at their blanks into words; `cur` is the word read so far, reversed. Runs
of blanks count as one cut, and blanks at either end make no empty word. -/
def wordsFrom : List Nat → List Nat → List (List Nat)
  | cur, [] => if cur.isEmpty then [] else [cur.reverse]
  | cur, n :: ns =>
    if isBlankPoint n then
      if cur.isEmpty then wordsFrom [] ns else cur.reverse :: wordsFrom [] ns
    else wordsFrom (n :: cur) ns

/-- The words of a text, read as code points, in order: its maximal runs of code points that
are not blank. -/
def words (ns : List Nat) : List (List Nat) :=
  wordsFrom [] ns

/-- The words of a text, read as code points, joined by single spaces: every run of blanks
becomes one space, and blanks at either end go. -/
def squeeze (ns : List Nat) : List Nat :=
  [0x20].intercalate (words ns)

end AgentLink.Text
