/-!
# Lines of a text file

A text file is read in universal-newline mode: a carriage return, alone or before a line feed,
reads as one line feed (`Text.unifyNewlines`). Its lines (`Text.lines`) then end at each line
feed, which they keep; the last line has none when the text does not end in one, and an empty
text has no lines.
-/

namespace AgentLink.Text

/-- The characters with every carriage return, alone or before a line feed, read as one line
feed. -/
def unifyNewlines : List Char → List Char
  | '\r' :: '\n' :: cs => '\n' :: unifyNewlines cs
  | '\r' :: cs => '\n' :: unifyNewlines cs
  | c :: cs => c :: unifyNewlines cs
  | [] => []

/-- The lines of the characters after `cur`, the start of the current line reversed. -/
def linesFrom (cur : List Char) : List Char → List String
  | [] => if cur.isEmpty then [] else [String.ofList cur.reverse]
  | '\n' :: cs => String.ofList ('\n' :: cur).reverse :: linesFrom [] cs
  | c :: cs => linesFrom (c :: cur) cs

/-- The lines of a text read in universal-newline mode, each with its line feed. -/
def lines (s : String) : List String :=
  linesFrom [] (unifyNewlines s.toList)

/-- The number right-aligned in two columns, as line numbers are shown in messages. -/
def padTwo (n : Nat) : String :=
  if n < 10 then " " ++ toString n else toString n

end AgentLink.Text
