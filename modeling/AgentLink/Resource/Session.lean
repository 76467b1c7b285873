import AgentLink.Resource.Time

/-!
# Sessions

A session is one conversation with the agent: its id, a short slug, the project and directory
it works in, a title, the server version that made it, its times, the session it was forked
from, and the address where it is shared. Its status says what the agent is doing in it.
-/

namespace AgentLink

/-- A session as the server describes it. -/
structure SessionInfo where
  id : String
  slug : String := ""
  projectId : String := ""
  directory : String := ""
  title : String := ""
  version : String := ""
  time : Timestamps := {}
  parentId : Option String := none
  shareUrl : Option String := none
  deriving DecidableEq, Repr

/-- Reads a session. The share address is `shareURL`, or else the `url` of a `share` object. -/
def SessionInfo.decode (v : Json.Value) : Except DecodeError SessionInfo := do
  let _ ← v.requireObject "session"
  let shareUrl := match v.optText "shareURL", v.get? "share" with
    | some url, _ => some url
    | none, some share@(.obj _) => share.optText "url"
    | none, _ => none
  let time ← Timestamps.decodeField v
  pure {
    id := v.textOr "id"
    slug := v.textOr "slug"
    projectId := v.textOr "projectID"
    directory := v.textOr "directory"
    title := v.textOr "title"
    version := v.textOr "version"
    time
    parentId := v.optText "parentID"
    shareUrl }

/-- What the agent is doing in a session, and on which message and part. -/
structure SessionStatus where
  status : String
  messageId : Option String := none
  partId : Option String := none
  deriving DecidableEq, Repr

/-- Reads a status: a text is the status itself; an object gives it under `type`, or else
under `status`. -/
def SessionStatus.decode (v : Json.Value) : Except DecodeError SessionStatus :=
  match v with
  | .str s => pure { status := s }
  | v => do
    let _ ← v.requireObject "session status"
    let kind := v.textOr "type"
    pure {
      status := if kind.isEmpty then v.textOr "status" else kind
      messageId := v.optText "messageID"
      partId := v.optText "partID" }

end AgentLink
