import AgentLink.Sse.Record
import AgentLink.Text.Utf8
import AgentLink.Text.Integer

/-!
# Reading server-sent records

The body of an event stream arrives in chunks of text or of bytes, cut anywhere. The parser
(`Sse.Parser`) keeps the line read so far and the record being assembled, and reads the body
one character at a time (`Sse.Parser.pushChar`); bytes go through the incremental UTF-8 decoder
first, whose incomplete character stays with it between chunks.

A line ends at a line feed, and one carriage return before it is dropped, so a lone carriage
return is text. A line opening with a colon is a comment. Any other line is a field: its name
runs to the first colon, and its value follows, without one space that may open it
(`Sse.splitField`). The fields `event`, `data`, `id` and `retry` set the record being assembled
(`Sse.Record.setField`): data lines are joined by line feeds, and a delay that is no integer is
ignored. A blank line ends the record (`Sse.Record.close`): it is sent when it has data or an
event name, without one line feed at the end of its data, and a fresh record starts; otherwise
nothing is sent and the record, its id and delay included, stays as it is.

`Sse.parseRecords` reads a whole body given as chunks. `Sse.Parser.pushChars_append` says that
reading two texts in turn is reading them as one, so where the body is cut never matters.
-/

namespace AgentLink.Sse

/-- A chunk of a response body: text, or bytes still to be decoded as UTF-8. -/
inductive Chunk where
  | text (s : String)
  | bytes (bs : List UInt8)
  deriving DecidableEq, Repr

/-- The text without one line feed at its end. -/
def dropFinalNewline (s : String) : String :=
  match s.toList.reverse with
  | '\n' :: r => String.ofList r.reverse
  | _ => s

/-- Sets one field of the record being assembled: `event` and `id` replace, `data` adds a
line, `retry` takes an integer and ignores anything else, and other names change nothing. -/
def Record.setField (r : Record) (field value : String) : Record :=
  if field == "event" then { r with event := value }
  else if field == "data" then
    { r with data := if r.data.isEmpty then value else r.data ++ "\n" ++ value }
  else if field == "id" then { r with id := value }
  else if field == "retry" then
    match Text.Integer.read? value with
    | some n => { r with retry := n }
    | none => r
  else r

/-- A field line cut at its first colon into the field name and the value, without one space
that opens the value; a line without a colon is a name with an empty value. -/
def splitField (line : List Char) : String × String :=
  let (field, rest) := line.span (· != ':')
  match rest with
  | _ :: ' ' :: v => (String.ofList field, String.ofList v)
  | _ :: v => (String.ofList field, String.ofList v)
  | [] => (String.ofList field, "")

/-- Ends the record being assembled at a blank line. It is sent when it has data or an event
name, and a fresh record starts; otherwise nothing is sent and it stays. -/
def Record.close (r : Record) : Option Record × Record :=
  if r.data.isEmpty && r.event.isEmpty then (none, r)
  else (some { r with data := dropFinalNewline r.data }, {})

/-- Reads one complete line, without its line end, into the record being assembled: what it
sends, and the record being assembled after it. -/
def Record.takeLine (r : Record) : List Char → Option Record × Record
  | [] => r.close
  | ':' :: _ => (none, r)
  | line =>
    let (field, value) := splitField line
    (none, r.setField field value)

/-- What the parser holds between two characters. -/
structure Parser where
  /-- The decoder of byte chunks, holding an incomplete character. -/
  decoder : Utf8.Decoder := .idle
  /-- The line read so far, last character first. -/
  line : List Char := []
  /-- The record being assembled. -/
  pending : Record := {}
  deriving DecidableEq, Repr

/-- A line, given last character first, without one carriage return at its end. -/
def lineOf : List Char → List Char
  | '\r' :: r => r.reverse
  | r => r.reverse

/-- Reads one character: a line feed completes the line, any other character extends it. -/
def Parser.pushChar (p : Parser) (c : Char) : Option Record × Parser :=
  if c == '\n' then
    let (out, pending) := p.pending.takeLine (lineOf p.line)
    (out, { p with line := [], pending })
  else (none, { p with line := c :: p.line })

/-- Reads a text: the records it completes, in order, and the parser after it. -/
def Parser.pushChars : Parser → List Char → List Record × Parser
  | p, [] => ([], p)
  | p, c :: cs =>
    let (r, p₁) := p.pushChar c
    let (rs, p₂) := p₁.pushChars cs
    (r.toList ++ rs, p₂)

/-- Reading two texts in turn completes the records of reading them as one. -/
theorem Parser.pushChars_append (p : Parser) (xs ys : List Char) :
    p.pushChars (xs ++ ys) =
      ((p.pushChars xs).1 ++ ((p.pushChars xs).2.pushChars ys).1,
        ((p.pushChars xs).2.pushChars ys).2) := by
  induction xs generalizing p with
  | nil => simp [pushChars]
  | cons c cs ih => simp [pushChars, ih]

/-- Reads one chunk: text directly, bytes through the decoder. -/
def Parser.feed (p : Parser) : Chunk → List Record × Parser
  | .text s => p.pushChars s.toList
  | .bytes bs =>
    let (cs, d) := p.decoder.feed bs
    Parser.pushChars { p with decoder := d } cs

/-- Drops the decoder's incomplete character, the line read so far and the record being
assembled. -/
def Parser.reset (_ : Parser) : Parser := {}

/-- Reads chunks in turn: the records they complete, in order, and the parser after them. -/
def Parser.feedAll : Parser → List Chunk → List Record × Parser
  | p, [] => ([], p)
  | p, c :: cs =>
    let (rs, p₁) := p.feed c
    let (more, p₂) := p₁.feedAll cs
    (rs ++ more, p₂)

/-- The records of a whole body given as chunks, read by a fresh parser. -/
def parseRecords (chunks : List Chunk) : List Record :=
  (Parser.feedAll {} chunks).1

end AgentLink.Sse
