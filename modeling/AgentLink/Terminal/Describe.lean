import AgentLink.Event.Basic
import AgentLink.Text.Blank

/-!
# One-line summaries

`Part.describe` sums a part up: a text part is its text, a tool call its tool and status
(`pending` when it has no state), any other part its kind. `Event.describe` sums an event up
as its type followed by a detail on one line: the detail's blank runs become single spaces, it
is cut to its first 117 characters and `...` when longer than 120, and the summary is just the
type when the detail is empty. Characters are counted as code points (`Text.codePoints`), so a
character that a text writes with a mark counts once.
-/

namespace AgentLink

/-- A part summed up. -/
def Part.describe : Part → String
  | .text p => p.text
  | .tool p => p.tool ++ " (" ++ (match p.state with
    | some s => s.status
    | none => "pending") ++ ")"
  | p => p.kind

/-- The detail of an event, before it is fitted to a line. -/
def Event.detail : Event → String
  | .sessionCreated s | .sessionUpdated s => s.id ++ " " ++ s.title
  | .sessionStatus id status => id ++ " " ++ status.status
  | .sessionIdle id => id
  | .sessionError id error => id ++ " " ++ error
  | .messagePartUpdated sessionId _ part _ =>
    sessionId ++ " " ++ part.kind ++ ": " ++ part.describe
  | .permissionAsked r => r.sessionId ++ " " ++ r.permission
  | .fileEdited file => file
  | _ => ""

/-- The most characters a detail keeps. -/
def detailWidth : Nat := 120

/-- `...`, as code points. -/
def ellipsis : List Nat := [0x2E, 0x2E, 0x2E]

/-- The code points of a detail fitted to a line: blank runs squeezed, and cut to its first
`detailWidth - 3` characters and `...` when longer than `detailWidth`. -/
def fitPoints (detail : List Nat) : List Nat :=
  let d := Text.squeeze detail
  if detailWidth < d.length then d.take (detailWidth - 3) ++ ellipsis else d

/-- A detail fitted to a line, its characters counted as the code points they write. -/
def fitDetail (detail : String) : String :=
  String.ofList (Text.writeCodePoints (fitPoints (Text.codePoints detail.toList)))

/-- An event summed up on one line. -/
def Event.describe (e : Event) : String :=
  let d := fitDetail e.detail
  if d.isEmpty then e.type else e.type ++ " " ++ d

end AgentLink
