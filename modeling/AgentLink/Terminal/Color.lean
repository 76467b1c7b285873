/-!
# Colours on a terminal

The terminal shows text in seven named colours (`Color`), each an ANSI select-graphic-rendition
code. Coloured text is the code, the text and the reset code (`Color.paint`). A colour is
named by its word only (`Color.ofName?`); any other name is refused with the list of names
(`UnknownColor.message`). Events are coloured by the first matching prefix of their type
(`Color.ofEventType`), grey when none matches.
-/

namespace AgentLink

/-- A colour the terminal shows. -/
inductive Color where
  | blue
  | yellow
  | pink
  | green
  | red
  | cyan
  | gray
  deriving DecidableEq, Repr

namespace Color

/-- The colours, in the order messages list them. -/
def all : List Color := [.blue, .yellow, .pink, .green, .red, .cyan, .gray]

/-- The colour's name. -/
def name : Color → String
  | .blue => "blue"
  | .yellow => "yellow"
  | .pink => "pink"
  | .green => "green"
  | .red => "red"
  | .cyan => "cyan"
  | .gray => "gray"

/-- The colour's select-graphic-rendition code. -/
def code : Color → String
  | .blue => "36;1"
  | .yellow => "33;1"
  | .pink => "38;5;200"
  | .green => "32;1"
  | .red => "31;1"
  | .cyan => "96;1"
  | .gray => "90"

/-- The colour a name names, exactly as written. -/
def ofName? (s : String) : Option Color :=
  all.find? (·.name == s)

/-- A text in a colour, followed by the reset code. -/
def paint (c : Color) (text : String) : String :=
  "\x1b[" ++ c.code ++ "m" ++ text ++ "\x1b[0m"

/-- The colour of each prefix of an event type, tried in order. -/
def eventPrefixes : List (String × Color) :=
  [("server.", .gray), ("global.", .gray), ("session.", .blue), ("message.", .cyan),
   ("permission.", .yellow), ("project.", .pink), ("file.", .green), ("installation.", .pink)]

/-- The colour of an event type: that of its first matching prefix, grey when none matches. -/
def ofEventType (t : String) : Color :=
  match eventPrefixes.find? (fun (p, _) => t.startsWith p) with
  | some (_, c) => c
  | none => .gray

end Color

/-- A colour name that names no colour. -/
structure UnknownColor where
  name : String
  deriving DecidableEq, Repr

/-- The message for an unknown colour, with the names there are. -/
def UnknownColor.message (e : UnknownColor) : String :=
  "Unsupported color: " ++ e.name ++ ". Available colors: " ++
    ", ".intercalate (Color.all.map Color.name)

/-- A text in the colour of the given name. -/
def paintNamed (text name : String) : Except UnknownColor String :=
  match Color.ofName? name with
  | some c => .ok (c.paint text)
  | none => .error ⟨name⟩

end AgentLink
