import AgentLink.Resource.Time
import AgentLink.Json.Literal

/-!
# Permissions

Before a tool runs, the agent may ask for permission (`PermissionRequest`): which permission,
for which patterns, in which session, and for which tool call. The client answers with a
`PermissionReply`: allow once, allow always, or reject, with an optional message. A reply is
made from the caller's values by `PermissionReply.make`, which refuses any other action.
-/

namespace AgentLink

/-- A request for permission, as the server describes it. -/
structure PermissionRequest where
  id : String
  sessionId : String := ""
  permission : String := ""
  patterns : List String := []
  toolMessageId : Option String := none
  toolCallId : Option String := none
  time : Timestamps := {}
  deriving DecidableEq, Repr

/-- Reads a permission request; the tool call is read from the `tool` object. -/
def PermissionRequest.decode (v : Json.Value) : Except DecodeError PermissionRequest := do
  let _ ← v.requireObject "permission request"
  let tool := v.objOr "tool"
  let time ← Timestamps.decodeField v
  pure {
    id := v.textOr "id"
    sessionId := v.textOr "sessionID"
    permission := v.textOr "permission"
    patterns := v.texts "patterns"
    toolMessageId := tool.optText "messageID"
    toolCallId := tool.optText "callID"
    time }

/-- How a permission request is answered. -/
inductive PermissionAction where
  | once
  | always
  | reject
  deriving DecidableEq, Repr

/-- The word for an action on the wire. -/
def PermissionAction.text : PermissionAction → String
  | .once => "once"
  | .always => "always"
  | .reject => "reject"

/-- The actions, in the order messages list them. -/
def PermissionAction.all : List PermissionAction := [.once, .always, .reject]

/-- The action a value names: one of the three words, and nothing else. -/
def PermissionAction.ofValue? (v : Json.Value) : Option PermissionAction :=
  match v with
  | .str s => PermissionAction.all.find? (·.text == s)
  | _ => none

/-- An answer to a permission request. -/
structure PermissionReply where
  requestId : String
  action : PermissionAction := .once
  /-- Any value the caller adds; `none` when there is none. -/
  message : Option Json.Value := none

/-- A reply whose action is no known action: the value shown as a message shows it. -/
structure InvalidAction where
  shown : String
  deriving DecidableEq, Repr

/-- The message of an invalid action. -/
def InvalidAction.message (e : InvalidAction) : String :=
  "Invalid permission action '" ++ e.shown ++ "'. Expected one of: " ++
    ", ".intercalate (PermissionAction.all.map PermissionAction.text)

/-- Makes a reply from the caller's values, refusing an action that is not one of the three
words. -/
def PermissionReply.make (requestId : String) (action : Json.Value)
    (message : Option Json.Value) : Except InvalidAction PermissionReply :=
  match PermissionAction.ofValue? action with
  | some a => .ok { requestId, action := a, message }
  | none => .error ⟨action.display⟩

end AgentLink
