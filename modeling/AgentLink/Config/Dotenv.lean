import AgentLink.Text.Blank
import AgentLink.Text.Lines

/-!
# Environment files

An environment file holds statements `KEY=value`, one to a line, read in order
(`Dotenv.statements`) after the byte order mark that may open it:

* blank lines and lines starting with `#` say nothing, and `export ` before a key is skipped;
* a key is a run of characters other than `=`, `#` and blanks, or any text in single quotes;
  a key without `=` has no value;
* a value in single or double quotes may span lines; inside it a backslash keeps the character
  after it from closing the value, and stands with it for the quote or the backslash, and in
  double quotes also for the control letters `a b f n r t v`;
* blanks after `=` and then `#` make the value empty and the rest of the line a comment;
* any other value runs to the end of the line, cut before a blank run that is followed by `#`,
  and without its trailing blanks;
* a statement that does not read so (an unclosed quote, text after a closing quote) says
  nothing, and reading goes on after the end of the line where it failed.

Values then refer to variables as `${NAME}` or `${NAME:-default}` (`Dotenv.resolve`): a name
takes the value given to it earlier in the file, else the one in the environment, else the
default, else the empty text.
-/

namespace AgentLink.Dotenv

/-- A blank within a line: any blank but the line feed and the carriage return. -/
def isInlineBlank (c : Char) : Bool :=
  Text.isBlank c && c != '\n' && c != '\r'

/-- Whether a character ends a line. -/
def isNewline (c : Char) : Bool :=
  c == '\n' || c == '\r'

/-- A quoted text after its opening quote `q`, and what follows its closing quote. A backslash
takes the character after it into the text, whatever it is, so that an escaped quote does not
close the text; a backslash at the end of the file, or a text that no quote closes, is no quoted
text. -/
def quotedFrom (q : Char) : List Char → Option (List Char × List Char)
  | [] => none
  | [c] => if c == q then some ([], []) else none
  | c :: d :: rest =>
    if c == q then some ([], d :: rest)
    else if c == '\\' then (quotedFrom q rest).map fun (v, r) => (c :: d :: v, r)
    else (quotedFrom q (d :: rest)).map fun (v, r) => (c :: v, r)

/-- The character a backslash and this letter stand for. -/
def escaped (c : Char) : Char :=
  match c with
  | 'a' => Char.ofNat 7
  | 'b' => Char.ofNat 8
  | 'f' => Char.ofNat 12
  | 'n' => '\n'
  | 'r' => '\r'
  | 't' => '\t'
  | 'v' => Char.ofNat 11
  | c => c

/-- Replaces each backslash and a letter it may escape by what they stand for. -/
def unescape (escapes : List Char) : List Char → List Char
  | [] => []
  | [c] => [c]
  | c :: d :: rest =>
    if c == '\\' && escapes.contains d then escaped d :: unescape escapes rest
    else c :: unescape escapes (d :: rest)

/-- The letters a backslash escapes in single quotes. -/
def singleEscapes : List Char := ['\\', '\'']

/-- The letters a backslash escapes in double quotes. -/
def doubleEscapes : List Char := ['\\', '\'', '"', 'a', 'b', 'f', 'n', 'r', 't', 'v']

/-- An unquoted value cut before the first blank run that is followed by `#`. -/
def cutComment : List Char → List Char
  | [] => []
  | c :: rest =>
    if Text.isBlank c && (rest.dropWhile Text.isBlank).head? == some '#' then []
    else c :: cutComment rest

/-- Drops a line end: a carriage return, a line feed, or both. -/
def dropNewline : List Char → List Char
  | '\r' :: '\n' :: rest => rest
  | '\n' :: rest => rest
  | '\r' :: rest => rest
  | cs => cs

/-- The rest of the text after the line where a statement failed. -/
def skipLine (cs : List Char) : List Char :=
  match cs.dropWhile (!isNewline ·) with
  | c :: rest => if isNewline c then rest else c :: rest
  | [] => []

/-- A statement's key, if it has one, and its value, if it has one. -/
abbrev Statement := Option String × Option String

/-- The key of a statement and the text after it; none for a comment. A failure gives the text
where it happened. -/
def readKey (cs : List Char) : Except (List Char) (Option String × List Char) :=
  match cs with
  | '#' :: _ => .ok (none, cs)
  | '\'' :: rest =>
    let k := rest.takeWhile (· != '\'')
    match rest.drop k.length with
    | _ :: after => if k.isEmpty then .error cs else .ok (some (String.ofList k), after)
    | [] => .error cs
  | _ =>
    let k := cs.takeWhile fun c => c != '=' && c != '#' && !Text.isBlank c
    if k.isEmpty then .error cs else .ok (some (String.ofList k), cs.drop k.length)

/-- The value after `=` and the text after it. A failure gives the text where it happened. -/
def readValue (cs : List Char) : Except (List Char) (String × List Char) :=
  match cs with
  | '\'' :: rest =>
    match quotedFrom '\'' rest with
    | some (v, after) => .ok (String.ofList (unescape singleEscapes v), after)
    | none => .error cs
  | '"' :: rest =>
    match quotedFrom '"' rest with
    | some (v, after) => .ok (String.ofList (unescape doubleEscapes v), after)
    | none => .error cs
  | _ =>
    let line := cs.takeWhile (!isNewline ·)
    .ok (String.ofList (Text.dropBlankEnd (cutComment line)), cs.drop line.length)

/-- Skips `export` and the blanks after it, when a blank follows it. -/
def dropExport (cs : List Char) : List Char :=
  match cs with
  | 'e' :: 'x' :: 'p' :: 'o' :: 'r' :: 't' :: c :: rest =>
    if isInlineBlank c then rest.dropWhile isInlineBlank else cs
  | _ => cs

/-- Reads one statement from text that does not start with a blank, and gives the text after
its line. A failure gives the text where it happened. -/
def readStatement (cs : List Char) : Except (List Char) (Statement × List Char) := do
  let (key, cs) ← readKey (dropExport cs)
  let cs := cs.dropWhile isInlineBlank
  let (value, cs) ← match cs with
    | '=' :: rest => do
      let after := rest.dropWhile isInlineBlank
      if after.length < rest.length && after.head? == some '#' then pure (some "", after)
      else
        let (v, after) ← readValue after
        pure (some v, after)
    | _ => pure (none, cs)
  let cs := match cs.dropWhile isInlineBlank with
    | '#' :: rest => rest.dropWhile (!isNewline ·)
    | _ => cs
  match cs.dropWhile isInlineBlank with
  | [] => return ((key, value), [])
  | c :: rest => if isNewline c then return ((key, value), dropNewline (c :: rest)) else throw cs

/-- The statements of the text, with at most `fuel` steps; each step reads at least one
character. -/
def statementsFrom : Nat → List Char → List Statement
  | 0, _ => []
  | fuel + 1, cs =>
    match cs.dropWhile Text.isBlank with
    | [] => []
    | c :: rest =>
      match readStatement (c :: rest) with
      | .ok (s, after) => s :: statementsFrom fuel after
      | .error stop => statementsFrom fuel (skipLine stop)

/-- The text without the byte order mark that may open a file. -/
def dropByteOrderMark : List Char → List Char
  | '\uFEFF' :: rest => rest
  | cs => cs

/-- The keyed statements of an environment file, in order, each with its value if it has
one. -/
def statements (text : String) : List (String × Option String) :=
  let cs := Text.unifyNewlines (dropByteOrderMark text.toList)
  (statementsFrom (cs.length + 1) cs).filterMap fun (k, v) => k.map (·, v)

/-! ## Variables -/

/-- A default after `:-`, up to the closing brace, and the text after the brace; `acc` is the
default read so far, reversed. -/
def defaultFrom (acc : List Char) : List Char → Option (List Char × List Char)
  | '}' :: rest => some (acc.reverse, rest)
  | c :: rest => defaultFrom (c :: acc) rest
  | [] => none

/-- A variable after its `${`: the name, the default if one is given, and the text after the
closing brace; `acc` is the name read so far, reversed. -/
def variableFrom (acc : List Char) : List Char → Option (List Char × Option (List Char) × List Char)
  | '}' :: rest => some (acc.reverse, none, rest)
  | ':' :: '-' :: rest => (defaultFrom [] rest).map fun (d, r) => (acc.reverse, some d, r)
  | ':' :: _ => none
  | c :: rest => variableFrom (c :: acc) rest
  | [] => none

theorem defaultFrom_shorter (acc xs d rest : List Char)
    (h : defaultFrom acc xs = some (d, rest)) : rest.length < xs.length := by
  fun_induction defaultFrom acc xs <;> simp_all
  omega

theorem variableFrom_shorter (acc xs : List Char) (name : List Char) (d : Option (List Char))
    (rest : List Char) (h : variableFrom acc xs = some (name, d, rest)) :
    rest.length < xs.length := by
  fun_induction variableFrom acc xs with
  | case2 acc rest' =>
    simp only [Option.map_eq_some_iff] at h
    obtain ⟨⟨d', r⟩, hd, he⟩ := h
    simp only [Prod.mk.injEq] at he
    obtain ⟨-, -, rfl⟩ := he
    have := defaultFrom_shorter _ _ _ _ hd
    simp only [List.length_cons]
    omega
  | _ => simp_all <;> omega

/-- The text with every variable replaced by its value under `look`, which gives for a name
the value the file gave it, if it gave one, and else the environment's. -/
def expandVariables (look : String → Option (Option String)) (cs : List Char) : String :=
  match cs with
  | '$' :: '{' :: rest =>
    match _h : variableFrom [] rest with
    | some (name, default, after) =>
      let value := match look (String.ofList name) with
        | some v => v.getD ""
        | none => String.ofList (default.getD [])
      value ++ expandVariables look after
    | none => "$" ++ expandVariables look ('{' :: rest)
  | c :: rest => String.singleton c ++ expandVariables look rest
  | [] => ""
termination_by cs.length
decreasing_by
  all_goals first
    | (simp only [List.length_cons]; omega)
    | (simp only [List.length_cons]; have hs := variableFrom_shorter _ _ _ _ _ _h; omega)

/-- Sets a key of an ordered table: in place when the key is there, else at the end. -/
def setKey {α : Type} (t : List (String × α)) (k : String) (v : α) : List (String × α) :=
  if t.any (·.1 == k) then t.map fun (k', v') => if k' == k then (k, v) else (k', v')
  else t ++ [(k, v)]

/-- The values of the statements, variables expanded in order against the environment `env`,
as a table keyed in the order keys were first given; a key given again takes its last value. -/
def resolve (env : List (String × String)) (stmts : List (String × Option String)) :
    List (String × Option String) :=
  stmts.foldl (fun done (k, v) =>
    let look (name : String) : Option (Option String) :=
      match done.find? (·.1 == name) with
      | some (_, v) => some v
      | none => (env.find? (·.1 == name)).map fun (_, v) => some v
    setKey done k (v.map fun s => expandVariables look s.toList)) []

/-- The entries of an environment file against the environment `env`: its statements with their
variables expanded. -/
def values (env : List (String × String)) (text : String) : List (String × Option String) :=
  resolve env (statements text)

end AgentLink.Dotenv
