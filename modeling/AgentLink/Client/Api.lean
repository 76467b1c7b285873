import AgentLink.Client.Basic
import AgentLink.Resource.Health
import AgentLink.Resource.Session
import AgentLink.Resource.Project
import AgentLink.Resource.Message
import AgentLink.Resource.Permission
import AgentLink.Http.Url
import AgentLink.Json.Literal

/-!
# The server's resources

The calls of the client, one per resource: health, sessions, messages, permissions and
projects. Each is an `Operation`, and every operation runs the same way (`Client.perform`): its
path, its payload, one call of the server, and the reading of the reply's JSON as the resource
it expects.

An id in a path is one segment, every byte but those of the unreserved characters escaped
(`Http.encodeSegment`), so an id with a slash stays one segment; an id with lone surrogates
stops the call before anything is sent.

A message is sent as a list of one text part, with the provider and model of the call, or the
client's defaults where the call gives none; a `model` object appears only when one of the two
is set. Deleting, aborting and replying succeed unless the server answers `false`.

Every call takes the `depth` it is made at: how many operations of the client stand between it
and the caller who runs it, none when the caller runs it directly. Each one is a call more
above the reading of the reply (`Client.call`).
-/

namespace AgentLink

/-- The payload of a message: one text part, and the model when a provider or a model is set,
by the call or by the client's defaults. -/
def Client.messagePayload (c : Client) (prompt provider model : Json.Value) : Json.Value :=
  let provider := if provider.truthy then provider else c.defaultProvider
  let model := if model.truthy then model else c.defaultModel
  let parts : Json.Value := .arr [.obj [("type", .str "text"), ("text", prompt)]]
  let chosen := (if provider.truthy then [("providerID", provider)] else []) ++
    (if model.truthy then [("modelID", model)] else [])
  .obj ([("parts", parts)] ++ (if chosen.isEmpty then [] else [("model", .obj chosen)]))

/-- A call of the client that makes one request of the server. -/
inductive Operation where
  | health
  | listSessions
  /-- Creates a session, with a title when the title given counts as true. -/
  | createSession (title : Json.Value)
  | getSession (id : String)
  | deleteSession (id : String)
  /-- Stops the generation in a session. -/
  | abortSession (id : String)
  /-- Sends a message and waits for the complete reply. -/
  | sendMessage (id : String) (prompt provider model : Json.Value)
  /-- The messages of a session; `limit`, unless `null`, is written into the query as the
  program writes values. -/
  | getMessages (id : String) (limit : Json.Value)
  | listPermissions
  | replyPermission (reply : PermissionReply)
  | listProjects
  /-- The project the server works in. -/
  | currentProject

namespace Operation

/-- What an operation gives back. -/
def Result : Operation → Type
  | .health => HealthInfo
  | .listSessions => List SessionInfo
  | .createSession _ | .getSession _ => SessionInfo
  | .deleteSession _ | .abortSession _ | .replyPermission _ => Bool
  | .sendMessage .. => MessageWithParts
  | .getMessages .. => List MessageWithParts
  | .listPermissions => List PermissionRequest
  | .listProjects => List Project
  | .currentProject => Project

/-- The method of an operation's request. -/
def method : Operation → Http.Method
  | .createSession _ | .abortSession _ | .sendMessage .. | .replyPermission _ => .post
  | .deleteSession _ => .delete
  | _ => .get

/-- The path of a session. -/
def sessionPath (id : String) : Except Utf8.EncodeError String :=
  ("/session/" ++ ·) <$> Http.encodeSegment id

/-- The query of a listing of messages. -/
def limitQuery : Json.Value → String
  | .null => ""
  | v => "?limit=" ++ v.display

/-- The path of an operation's request; an id with lone surrogates, which UTF-8 cannot encode,
has none. -/
def target : Operation → Except Utf8.EncodeError String
  | .health => .ok "/global/health"
  | .listSessions | .createSession _ => .ok "/session"
  | .getSession id | .deleteSession id => sessionPath id
  | .abortSession id => (· ++ "/abort") <$> sessionPath id
  | .sendMessage id .. => (· ++ "/message") <$> sessionPath id
  | .getMessages id limit => (· ++ "/message" ++ limitQuery limit) <$> sessionPath id
  | .listPermissions => .ok "/permission"
  | .replyPermission r => ("/permission/" ++ ·) <$> Http.encodeSegment r.requestId
  | .listProjects => .ok "/project"
  | .currentProject => .ok "/project/current"

/-- The payload of an operation's request. -/
def payload (c : Client) : Operation → Option Json.Value
  | .createSession title => some (if title.truthy then .obj [("title", title)] else .obj [])
  | .sendMessage _ prompt provider model => some (c.messagePayload prompt provider model)
  | .replyPermission r =>
    some (.obj ([("action", .str r.action.text)] ++
      (match r.message with
        | some m => [("message", m)]
        | none => [])))
  | _ => none

/-- How an operation reads the JSON of its reply. -/
def finish : (op : Operation) → Json.Value → Except ClientError op.Result
  | .health => expectOne HealthInfo.decode "health"
  | .listSessions => expectList SessionInfo.decode "session"
  | .createSession _ => expectOne SessionInfo.decode "session"
  | .getSession _ => expectOne SessionInfo.decode "session"
  | .deleteSession _ => fun v => .ok (notFalse v)
  | .abortSession _ => fun v => .ok (notFalse v)
  | .sendMessage .. => expectOne MessageWithParts.decode "message"
  | .getMessages .. => expectList MessageWithParts.decode "message"
  | .listPermissions => expectList PermissionRequest.decode "permission request"
  | .replyPermission _ => fun v => .ok (notFalse v)
  | .listProjects => expectList Project.decode "project"
  | .currentProject => expectOne Project.decode "project"

end Operation

/-- Runs an operation `depth` operations below the caller: its path, then one call of the
server with its payload, then the reading of the reply. -/
def Client.perform (c : Client) (op : Operation) (depth : Nat := 0) : Attempt op.Result := do
  let path ← Attempt.ofExcept (op.target.mapError (.stopped ∘ .unencodable))
  Attempt.ofExcept (op.finish (← c.call depth op.method path (op.payload c)))

/-- The health of the server. -/
def Client.health (c : Client) (depth : Nat := 0) : Attempt HealthInfo :=
  c.perform .health depth

/-- Every session. -/
def Client.listSessions (c : Client) (depth : Nat := 0) : Attempt (List SessionInfo) :=
  c.perform .listSessions depth

/-- Creates a session, with a title when the title given counts as true. -/
def Client.createSession (c : Client) (title : Json.Value) (depth : Nat := 0) :
    Attempt SessionInfo :=
  c.perform (.createSession title) depth

/-- The session of an id. -/
def Client.getSession (c : Client) (id : String) (depth : Nat := 0) : Attempt SessionInfo :=
  c.perform (.getSession id) depth

/-- Deletes a session. -/
def Client.deleteSession (c : Client) (id : String) (depth : Nat := 0) : Attempt Bool :=
  c.perform (.deleteSession id) depth

/-- Stops the generation in a session. -/
def Client.abortSession (c : Client) (id : String) (depth : Nat := 0) : Attempt Bool :=
  c.perform (.abortSession id) depth

/-- Sends a message and waits for the complete reply. -/
def Client.sendMessage (c : Client) (id : String) (prompt provider model : Json.Value)
    (depth : Nat := 0) : Attempt MessageWithParts :=
  c.perform (.sendMessage id prompt provider model) depth

/-- The messages of a session. -/
def Client.getMessages (c : Client) (id : String) (limit : Json.Value) (depth : Nat := 0) :
    Attempt (List MessageWithParts) :=
  c.perform (.getMessages id limit) depth

/-- The pending permission requests. -/
def Client.listPermissions (c : Client) (depth : Nat := 0) : Attempt (List PermissionRequest) :=
  c.perform .listPermissions depth

/-- Answers a permission request. -/
def Client.replyPermission (c : Client) (r : PermissionReply) (depth : Nat := 0) : Attempt Bool :=
  c.perform (.replyPermission r) depth

/-- Every project. -/
def Client.listProjects (c : Client) (depth : Nat := 0) : Attempt (List Project) :=
  c.perform .listProjects depth

/-- The project the server works in. -/
def Client.currentProject (c : Client) (depth : Nat := 0) : Attempt Project :=
  c.perform .currentProject depth

/-- The description of a session, read through the fetching of its handle. -/
def Client.getSessionInfo (c : Client) (id : String) (depth : Nat := 0) : Attempt SessionInfo :=
  c.getSession id (depth + 1)

/-- How a session handle shows itself: its id and title, quoted. -/
def SessionInfo.handleText (s : SessionInfo) : String :=
  "Session(id=" ++ Text.quote s.id ++ ", title=" ++ Text.quote s.title ++ ")"

end AgentLink
