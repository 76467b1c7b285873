import AgentLink.Terminal.Color
import AgentLink.Terminal.Describe

/-!
# Console output

What the command line prints (`Console`). A message has a tone (`Tone`) that gives its colour:
success green, error red, warning yellow, information blue, and dim text gray. With colour on,
a line is painted in its colour, and a colour name the console does not know leaves it plain;
with colour off every line is plain. A line ends with a newline unless another ending is asked
for. An event is printed as its one-line description in the colour of its type. Raw text, as
the pieces of a streamed reply, is printed as it is, with no colour and no newline.

Each function gives the text printed.
-/

namespace AgentLink

/-- The tone of a message. -/
inductive Tone where
  | success
  | error
  | warning
  | info
  | dim
  deriving DecidableEq, Repr

/-- The colour of a tone. -/
def Tone.color : Tone → Color
  | .success => .green
  | .error => .red
  | .warning => .yellow
  | .info => .blue
  | .dim => .gray

/-- A console, printing with or without colour. -/
structure Console where
  color : Bool := true
  deriving Repr, Inhabited

/-- A line in the colour of a name, plain when colour is off or the name is unknown. -/
def Console.line (c : Console) (text colorName : String) (ending : String := "\n") : String :=
  let shown := if c.color then
      match paintNamed text colorName with
      | .ok s => s
      | .error _ => text
    else text
  shown ++ ending

/-- A message in the colour of its tone. -/
def Console.say (c : Console) (t : Tone) (text : String) : String :=
  c.line text t.color.name

/-- An event's description in the colour of its type. -/
def Console.event (c : Console) (e : Event) : String :=
  c.line e.describe (Color.ofEventType e.type).name

/-- Raw text with its ending, empty unless asked for. -/
def Console.raw (_ : Console) (text : String) (ending : String := "") : String :=
  text ++ ending

end AgentLink
