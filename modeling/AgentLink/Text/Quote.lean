import AgentLink.Text.Printable
import AgentLink.Text.Surrogate

/-!
# Quoted texts

How the program shows a text inside a message: between single quotes, or between double quotes
when the text holds a single quote and no double quote. Inside, the chosen quote and the
backslash are escaped with a backslash, tab, line feed and carriage return are written `\t`,
`\n` and `\r`, the other ASCII controls and delete as `\xhh`, and a character that is not
printable (`Text.isPrintable`), a lone surrogate among them, as `\xhh`, `\uhhhh` or `\Uhhhhhhhh`
by its size. Every other character stands for itself.
-/

namespace AgentLink.Text

/-- The lower-case hexadecimal digits of `n`, padded with zeros to `width`. -/
def hexPadded (width n : Nat) : String :=
  let d := Nat.toDigits 16 n
  String.ofList (List.replicate (width - d.length) '0' ++ d)

/-- How one code point stands between the quotes `q`. -/
def escapeQuoted (q : Char) (n : Nat) : String :=
  if n == q.toNat || n == 0x5C then "\\" ++ String.singleton (Char.ofNat n)
  else if n == 0x09 then "\\t"
  else if n == 0x0A then "\\n"
  else if n == 0x0D then "\\r"
  else if n < 0x20 || n == 0x7F then "\\x" ++ hexPadded 2 n
  else if n < 0x7F then String.singleton (Char.ofNat n)
  else if !isSurrogate n && isPrintable (Char.ofNat n) then String.ofList (writeCodePoint n)
  else if n ≤ 0xFF then "\\x" ++ hexPadded 2 n
  else if n ≤ 0xFFFF then "\\u" ++ hexPadded 4 n
  else "\\U" ++ hexPadded 8 n

/-- The quote that encloses a text: double when it holds a single quote and no double quote. -/
def quoteFor (s : String) : Char :=
  if s.toList.contains '\'' && !s.toList.contains '"' then '"' else '\''

/-- A text between quotes, escaped. -/
def quote (s : String) : String :=
  let q := quoteFor s
  String.singleton q ++ String.join ((codePoints s.toList).map (escapeQuoted q)) ++
    String.singleton q

end AgentLink.Text
