import AgentLink.Text.Blank
import AgentLink.Text.Case
import AgentLink.Text.Quote
import AgentLink.Text.Lines

/-!
# Sectioned settings files

A settings file is read line by line (`Ini.read`) into sections of named options. A line in
brackets opens a section, `name = value` or `name: value` gives an option of the section, and a
line indented deeper than the option's first line continues its value. Lines whose text starts
with `#` or `;` are comments, and blank lines inside a value are kept in it. Option names are
lower-cased, section names are not. The section `DEFAULT` gives defaults to every other section.

Reading stops at once on a section or option given twice in the file, and at the first option
before any section. Lines that are neither headers nor options are collected, and reading fails
at the end if there are any (`Ini.ReadError`).

Values refer to other options of their section as `%(name)s` and write a percent sign as `%%`
(`Ini.Settings.get`). A reference is looked up among the section's raw values and then the
defaults, and a value that itself holds a percent sign is expanded in turn, at most ten deep.
-/

namespace AgentLink.Ini

/-- The name of the section of defaults. -/
def defaultSection : String := "DEFAULT"

/-- Why a file cannot be read. Each names the file as messages show it. -/
inductive ReadError where
  /-- A section is opened a second time, on this line. -/
  | duplicateSection (source : String) (line : Nat) (name : String)
  /-- An option is given a second time in its section, on this line. -/
  | duplicateOption (source : String) (line : Nat) (sectionName option : String)
  /-- A line other than a comment or blank comes before any section. -/
  | missingHeader (source : String) (line : Nat) (text : String)
  /-- Lines that are neither headers nor options, with their numbers. -/
  | malformed (source : String) (lines : List (Nat × String))
  deriving DecidableEq, Repr

/-- The message of a reading error. -/
def ReadError.message : ReadError → String
  | .duplicateSection src n name =>
    "While reading from " ++ src ++ " [line " ++ Text.padTwo n ++ "]: section " ++
      Text.quote name ++ " already exists"
  | .duplicateOption src n sect opt =>
    "While reading from " ++ src ++ " [line " ++ Text.padTwo n ++ "]: option " ++
      Text.quote opt ++ " in section " ++ Text.quote sect ++ " already exists"
  | .missingHeader src n text =>
    "File contains no section headers.\nfile: " ++ src ++ ", line: " ++ toString n ++ "\n" ++
      Text.quote text
  | .malformed src ls =>
    "Source contains parsing errors: " ++ src ++
      String.join (ls.map fun (n, text) => "\n\t[line " ++ Text.padTwo n ++ "]: " ++ Text.quote text)

/-- Options in the order they were first given, each with the lines of its value. -/
abbrev Draft := List (String × List String)

/-- Adds a line to the value of an option. -/
def Draft.extend (d : Draft) (option line : String) : Draft :=
  d.map fun (k, ls) => if k == option then (k, ls ++ [line]) else (k, ls)

/-- Gives an option its first line, after the options given before it. -/
def Draft.start (d : Draft) (option line : String) : Draft :=
  if d.any (·.1 == option) then d.map fun (k, ls) => if k == option then (k, [line]) else (k, ls)
  else d ++ [(option, [line])]

/-- The state of reading a file. -/
structure Reader where
  /-- The options of the defaults. -/
  defaults : Draft := []
  /-- The other sections, in the order they were opened. -/
  sections : List (String × Draft) := []
  /-- The options given so far, by section. -/
  given : List (String × String) := []
  /-- The section being read, if one is open. -/
  current : Option String := none
  /-- The option being read, or the empty name when none is. -/
  option : String := ""
  /-- The indent of the last header or option line. -/
  indent : Nat := 0
  /-- The lines that are neither headers nor options, with their numbers. -/
  errors : List (Nat × String) := []
  deriving Repr, Inhabited

/-- Changes the options of a section. -/
def Reader.modify (r : Reader) (name : String) (f : Draft → Draft) : Reader :=
  if name == defaultSection then { r with defaults := f r.defaults }
  else { r with sections := r.sections.map fun (k, d) => if k == name then (k, f d) else (k, d) }

/-- Adds a line to the value of the option being read. -/
def Reader.extend (r : Reader) (line : String) : Reader :=
  match r.current with
  | some s => r.modify s (·.extend r.option line)
  | none => r

/-- The name in a section header: what stands between the opening bracket and the last
closing one, when that is not empty. -/
def header? (v : List Char) : Option String :=
  match v with
  | '[' :: rest =>
    match rest.reverse.dropWhile (· != ']') with
    | ']' :: before => if before.isEmpty then none else some (String.ofList before.reverse)
    | _ => none
  | _ => none

/-- The name and value of an option line: the text before the first `=` or `:` without its
trailing blanks, and the text after it stripped. -/
def optionLine? (v : List Char) : Option (String × String) :=
  let name := v.takeWhile fun c => c != '=' && c != ':'
  match v.drop name.length with
  | _ :: value => some (String.ofList (Text.dropBlankEnd name), String.ofList (Text.stripList value))
  | [] => none

/-- Whether a line is a comment: its text starts with `#` or `;`. -/
def isComment (text : List Char) : Bool :=
  match text with
  | '#' :: _ | ';' :: _ => true
  | _ => false

/-- Reads one line, numbered `n`, of the file named `src`. -/
def Reader.step (src : String) (r : Reader) (n : Nat) (line : String) : Except ReadError Reader := do
  let text := Text.stripList line.toList
  let comment := isComment text
  if comment || text.isEmpty then
    if !comment && r.current.isSome && !r.option.isEmpty then return r.extend ""
    return r
  let indent := (line.toList.takeWhile Text.isBlank).length
  if r.current.isSome && !r.option.isEmpty && indent > r.indent then
    return r.extend (String.ofList text)
  let r := { r with indent }
  match header? text with
  | some name =>
    if r.sections.any (·.1 == name) then throw (.duplicateSection src n name)
    if name == defaultSection then return { r with current := some name, option := "" }
    return { r with sections := r.sections ++ [(name, [])], current := some name, option := "" }
  | none =>
    match r.current with
    | none => throw (.missingHeader src n line)
    | some sect =>
      match optionLine? text with
      | none => return { r with errors := r.errors ++ [(n, line)] }
      | some (name, value) =>
        let r := if name.isEmpty then { r with errors := r.errors ++ [(n, line)] } else r
        let key := Text.lower (Text.stripEnd name)
        if r.given.contains (sect, key) then throw (.duplicateOption src n sect key)
        let r := r.modify sect (·.start key value)
        return { r with given := r.given ++ [(sect, key)], option := key }

/-- Reads the lines from number `n` on. -/
def Reader.run (src : String) : Reader → Nat → List String → Except ReadError Reader
  | r, _, [] => .ok r
  | r, n, line :: rest => do
    let r ← r.step src n line
    r.run src (n + 1) rest

/-- Options with their values. -/
abbrev Options := List (String × String)

/-- A value from its lines: joined by line feeds, without trailing blanks. -/
def joinValue (ls : List String) : String :=
  Text.stripEnd ("\n".intercalate ls)

/-- The settings of a file: the defaults and the other sections, with raw values. -/
structure Settings where
  defaults : Options := []
  sections : List (String × Options) := []
  deriving Repr, Inhabited

/-- Reads a settings file named `src`, as messages show it. -/
def read (src text : String) : Except ReadError Settings := do
  let r ← Reader.run src {} 1 (Text.lines text)
  if !r.errors.isEmpty then throw (.malformed src r.errors)
  let finish (d : Draft) : Options := d.map fun (k, ls) => (k, joinValue ls)
  return { defaults := finish r.defaults, sections := r.sections.map fun (s, d) => (s, finish d) }

/-! ## Expanding references -/

/-- Why a value cannot be expanded. Each names the option asked for and its section. -/
inductive LookupError where
  /-- A reference names no option; with the option's raw value and the name. -/
  | missingOption (option sectionName raw reference : String)
  /-- A `%(` starts no well-formed reference; with the text from it on. -/
  | badReference (option sectionName rest : String)
  /-- A percent sign is followed by neither `%` nor `(`; with the text from it on. -/
  | badPercent (option sectionName rest : String)
  /-- References nest more than ten deep; with the option's raw value. -/
  | tooDeep (option sectionName raw : String)
  deriving DecidableEq, Repr

/-- The message of a lookup error. -/
def LookupError.message : LookupError → String
  | .missingOption opt sect raw ref =>
    "Bad value substitution: option " ++ Text.quote opt ++ " in section " ++ Text.quote sect ++
      " contains an interpolation key " ++ Text.quote ref ++
      " which is not a valid option name. Raw value: " ++ Text.quote raw
  | .badReference _ _ rest => "bad interpolation variable reference " ++ Text.quote rest
  | .badPercent _ _ rest => "'%' must be followed by '%' or '(', found: " ++ Text.quote rest
  | .tooDeep opt sect raw =>
    "Recursion limit exceeded in value substitution: option " ++ Text.quote opt ++
      " in section " ++ Text.quote sect ++
      " contains an interpolation key which cannot be substituted in 10 steps. Raw value: " ++
      Text.quote raw

/-- The name of a reference after its `%(`, up to the first closing parenthesis, and the text
after the `)s` that ends it; `acc` is the name read so far, reversed. -/
def referenceFrom (acc : List Char) : List Char → Option (List Char × List Char)
  | ')' :: 's' :: rest => if acc.isEmpty then none else some (acc.reverse, rest)
  | ')' :: _ => none
  | c :: rest => referenceFrom (c :: acc) rest
  | [] => none

theorem referenceFrom_shorter (acc xs name rest : List Char)
    (h : referenceFrom acc xs = some (name, rest)) : rest.length < xs.length := by
  fun_induction referenceFrom acc xs <;> simp_all <;> omega

/-- Expands the references in the text `rest` of the value of `option` in `sect`, looking names
up with `look`; `raw` is the option's raw value, and `budget` how many more levels of nested
expansion are allowed. -/
def expand (look : String → Option String) (option sect raw : String) (budget : Nat)
    (rest : List Char) : Except LookupError String :=
  match rest with
  | [] => .ok ""
  | '%' :: '%' :: tl => return "%" ++ (← expand look option sect raw budget tl)
  | '%' :: '(' :: tl =>
    match _h : referenceFrom [] tl with
    | none => .error (.badReference option sect (String.ofList rest))
    | some (name, after) =>
      let key := Text.lower (String.ofList name)
      match look key with
      | none => .error (.missingOption option sect raw key)
      | some v =>
        if v.contains '%' then
          match budget with
          | 0 => .error (.tooDeep option sect raw)
          | b + 1 => do
            let inner ← expand look option sect raw b v.toList
            return inner ++ (← expand look option sect raw (b + 1) after)
        else return v ++ (← expand look option sect raw budget after)
  | '%' :: _ => .error (.badPercent option sect (String.ofList rest))
  | c :: tl => return String.singleton c ++ (← expand look option sect raw budget tl)
termination_by (budget, rest.length)
decreasing_by
  all_goals first
    | (apply Prod.Lex.left; omega)
    | (apply Prod.Lex.right; simp only [List.length_cons]; omega)
    | (apply Prod.Lex.right; have hs := referenceFrom_shorter _ _ _ _ _h; simp only [List.length_cons]; omega)

/-- The options a section shows: its own, then the defaults it does not give itself. -/
def Settings.options (s : Settings) (sect : String) : Options :=
  if sect == defaultSection then s.defaults
  else
    let own := ((s.sections.find? (·.1 == sect)).map Prod.snd).getD []
    own ++ s.defaults.filter fun (k, _) => !own.any (·.1 == k)

/-- Whether the file has a section of this name; the defaults are no section. -/
def Settings.hasSection (s : Settings) (sect : String) : Bool :=
  s.sections.any (·.1 == sect)

/-- The expanded value of an option of a section, when the section shows it. -/
def Settings.get (s : Settings) (sect option : String) : Option (Except LookupError String) :=
  let opts := s.options sect
  let look (k : String) : Option String := (opts.find? (·.1 == k)).map Prod.snd
  (look option).map fun raw => expand look option sect raw 9 raw.toList

/-- Every option a section shows, with its expanded value, in order; the first value that
cannot be expanded stops it. -/
def Settings.items (s : Settings) (sect : String) : Except LookupError Options :=
  (s.options sect).mapM fun (k, _) =>
    match s.get sect k with
    | some r => (k, ·) <$> r
    | none => .ok (k, "")

end AgentLink.Ini
