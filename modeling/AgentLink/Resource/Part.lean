import AgentLink.Resource.Decode
import AgentLink.Json.Writer

/-!
# Parts of a message

A message is made of parts (`Part`): text, a file, a tool call with its input and state, or the
agent's reasoning. The kind is given by `type`, which is `text` when it is missing or no text;
a kind the client does not know stops reading that part (`Part.decode`), and a list of parts
skips such parts (`Part.decodeList`). A tool call's input keeps each text as it is and writes
any other value as JSON (`Json.Format.spaced`), in the order of the input's keys.
-/

namespace AgentLink

/-- A text part; `isDelta` marks a part that carries only the newest piece of its text. -/
structure TextPart where
  id : String := ""
  text : String := ""
  isDelta : Bool := false
  deriving DecidableEq, Repr

/-- A file part, with its content when the server sent it. -/
structure FilePart where
  id : String := ""
  file : String := ""
  content : Option String := none
  deriving DecidableEq, Repr

/-- How far a tool call has come (`pending`, `running`, `completed`, `error`), and its error. -/
structure ToolState where
  status : String := ""
  error : Option String := none
  deriving DecidableEq, Repr

/-- A tool call: the tool, its input as texts, and its state when the server sent one. -/
structure ToolPart where
  id : String := ""
  tool : String := ""
  input : List (String × String) := []
  state : Option ToolState := none
  deriving DecidableEq, Repr

/-- The agent's reasoning. -/
structure ReasoningPart where
  id : String := ""
  text : String := ""
  deriving DecidableEq, Repr

/-- A part of a message. -/
inductive Part where
  | text (p : TextPart)
  | file (p : FilePart)
  | tool (p : ToolPart)
  | reasoning (p : ReasoningPart)
  deriving DecidableEq, Repr

/-- The word for a part's kind on the wire. -/
def Part.kind : Part → String
  | .text _ => "text"
  | .file _ => "file"
  | .tool _ => "tool"
  | .reasoning _ => "reasoning"

/-- The input of a tool call: each text as it is, any other value as JSON. -/
def toolInput (v : Json.Value) : List (String × String) :=
  match v with
  | .obj fs => fs.map fun (k, x) => (k, match x with
    | .str s => s
    | x => Json.Format.spaced.write x)
  | _ => []

/-- Reads a tool call; its input sits on the part or, failing that, in its state. -/
def ToolPart.decode (v : Json.Value) : ToolPart :=
  let stateObj := v.get? "state"
  let state := match stateObj with
    | some s@(.obj _) => some { status := s.textOr "status", error := s.optText "error" }
    | _ => none
  let raw := match v.get? "input", stateObj with
    | some i@(.obj _), _ => i
    | _, some s@(.obj _) => (s.get? "input").getD .null
    | _, _ => .null
  { id := v.textOr "id", tool := v.textOr "tool", input := toolInput raw, state }

/-- Reads a part by its kind. -/
def Part.decode (v : Json.Value) : Except DecodeError Part := do
  let _ ← v.requireObject "part"
  match v.textOr "type" "text" with
  | "text" => pure (.text { id := v.textOr "id", text := v.textOr "text" })
  | "file" =>
    let file := v.textOr "file"
    let file := if file.isEmpty then v.textOr "filename" else file
    pure (.file { id := v.textOr "id", file, content := v.optText "content" })
  | "tool" => pure (.tool (ToolPart.decode v))
  | "reasoning" => pure (.reasoning { id := v.textOr "id", text := v.textOr "text" })
  | kind => throw (.unknownPartType kind)

/-- Reads a list of parts, skipping those of the wrong shape or of an unknown kind; anything
but a list has no parts. -/
def Part.decodeList (v : Json.Value) : List Part :=
  match v with
  | .arr xs => xs.filterMap fun x => (Part.decode x).toOption
  | _ => []

end AgentLink
