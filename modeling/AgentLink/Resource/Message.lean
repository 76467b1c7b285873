import AgentLink.Resource.Part
import AgentLink.Resource.Time

/-!
# Messages

A message is the user's (`UserMessage`) or the assistant's (`AssistantMessage`), told apart by
`role`, which is `user` when it is missing or no text. The assistant's message records the
model that wrote it, its working directories, its cost and the tokens it used. A message with
its parts (`MessageWithParts`) is what the server answers to a prompt; its text is the text of
its text parts, in order.
-/

namespace AgentLink

/-- Cached tokens read and written. -/
structure CacheTokens where
  read : Int := 0
  write : Int := 0
  deriving DecidableEq, Repr

/-- The tokens a reply used. -/
structure TokenInfo where
  input : Int := 0
  output : Int := 0
  reasoning : Int := 0
  cache : CacheTokens := {}
  deriving DecidableEq, Repr

/-- A model, by provider and id. -/
structure ModelRef where
  providerId : String := ""
  modelId : String := ""
  deriving DecidableEq, Repr

/-- A message from the user. -/
structure UserMessage where
  id : String := ""
  sessionId : String := ""
  time : Timestamps := {}
  agent : String := ""
  model : ModelRef := {}
  system : Option String := none
  deriving DecidableEq, Repr

/-- A message from the assistant. -/
structure AssistantMessage where
  id : String := ""
  sessionId : String := ""
  time : Timestamps := {}
  parentId : String := ""
  modelId : String := ""
  providerId : String := ""
  mode : String := ""
  agent : String := ""
  cwd : String := ""
  root : String := ""
  cost : Float := 0
  tokens : TokenInfo := {}
  finish : Option String := none

/-- A message of either role. -/
inductive Message where
  | user (m : UserMessage)
  | assistant (m : AssistantMessage)

/-- The message's id. -/
def Message.id : Message → String
  | .user m => m.id
  | .assistant m => m.id

/-- Reads token counts; anything but an object counts nothing. -/
def TokenInfo.decode (v : Json.Value) : Except DecodeError TokenInfo :=
  match v with
  | .obj _ => do
    let cache := v.objOr "cache"
    let input ← v.intOr "input"
    let output ← v.intOr "output"
    let reasoning ← v.intOr "reasoning"
    let read ← cache.intOr "read"
    let write ← cache.intOr "write"
    pure { input, output, reasoning, cache := { read, write } }
  | _ => pure {}

/-- A cost: a number as a float, booleans counting as one and zero, anything else zero. -/
def costOf : Option Json.Value → Except DecodeError Float
  | some (.float x) => pure x
  | some (.int n) => match Decimal.floatOfInt? n with
    | some x => pure x
    | none => throw .intTooLarge
  | some (.bool b) => pure (if b then 1 else 0)
  | _ => pure 0

/-- Reads a user's message. -/
def UserMessage.decode (v : Json.Value) : Except DecodeError UserMessage := do
  let model := v.objOr "model"
  let time ← Timestamps.decodeField v
  pure {
    id := v.textOr "id"
    sessionId := v.textOr "sessionID"
    time
    agent := v.textOr "agent"
    model := { providerId := model.textOr "providerID", modelId := model.textOr "modelID" }
    system := v.optText "system" }

/-- Reads an assistant's message; its directories are in the `path` object. -/
def AssistantMessage.decode (v : Json.Value) : Except DecodeError AssistantMessage := do
  let path := v.objOr "path"
  let time ← Timestamps.decodeField v
  let cost ← costOf (v.get? "cost")
  let tokens ← TokenInfo.decode ((v.get? "tokens").getD .null)
  pure {
    id := v.textOr "id"
    sessionId := v.textOr "sessionID"
    time
    parentId := v.textOr "parentID"
    modelId := v.textOr "modelID"
    providerId := v.textOr "providerID"
    mode := v.textOr "mode"
    agent := v.textOr "agent"
    cwd := path.textOr "cwd"
    root := path.textOr "root"
    cost
    tokens
    finish := v.optText "finish" }

/-- Reads a message by its role. -/
def Message.decode (v : Json.Value) : Except DecodeError Message := do
  let _ ← v.requireObject "message"
  match v.textOr "role" "user" with
  | "user" => return .user (← UserMessage.decode v)
  | "assistant" => return .assistant (← AssistantMessage.decode v)
  | role => throw (.unknownRole role)

/-- A message with its parts. -/
structure MessageWithParts where
  info : Message
  parts : List Part := []

/-- Reads a message with its parts; a missing or null `info` is an empty user's message. -/
def MessageWithParts.decode (v : Json.Value) : Except DecodeError MessageWithParts := do
  let _ ← v.requireObject "message with parts"
  let info ← match v.get? "info" with
    | none | some .null => pure (.user {})
    | some i => Message.decode i
  pure { info, parts := Part.decodeList ((v.get? "parts").getD .null) }

/-- The message's id. -/
def MessageWithParts.id (m : MessageWithParts) : String :=
  m.info.id

/-- The text of the message's text parts, in order. -/
def MessageWithParts.text (m : MessageWithParts) : String :=
  String.join (m.parts.filterMap fun
    | .text p => some p.text
    | _ => none)

/-- Whether the assistant wrote the message. -/
def MessageWithParts.isAssistant (m : MessageWithParts) : Bool :=
  match m.info with
  | .assistant _ => true
  | .user _ => false

/-- The tokens of an assistant's message. -/
def MessageWithParts.tokens (m : MessageWithParts) : Option TokenInfo :=
  match m.info with
  | .assistant a => some a.tokens
  | .user _ => none

/-- The cost of an assistant's message. -/
def MessageWithParts.cost (m : MessageWithParts) : Option Float :=
  match m.info with
  | .assistant a => some a.cost
  | .user _ => none

end AgentLink
