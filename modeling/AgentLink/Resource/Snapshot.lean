import AgentLink.Resource.Session
import AgentLink.Resource.Project
import AgentLink.Resource.Health
import AgentLink.Resource.Permission
import AgentLink.Resource.Message

/-!
# Snapshots of resources

A snapshot of a resource is a JSON object that shows every field of it: the name of its type
under `kind`, then each field under its name, in lower case with underscores, in the order
the type declares them. Parts carry their `type` tag and messages their `role` after the
kind. An absent optional field shows as `null`, and a float that is no number shows as an
object naming it (`Json.floatSnapshot`), since JSON has no such numbers.
-/

namespace AgentLink

namespace Json

/-- An optional text as JSON: the text, or `null`. -/
def optText : Option String → Value
  | some s => .str s
  | none => .null

/-- An optional integer as JSON: the integer, or `null`. -/
def optInt : Option Int → Value
  | some n => .int n
  | none => .null

/-- A float as JSON: the number, or for NaN and the infinities an object naming it under
`float`. -/
def floatSnapshot (x : Float) : Value :=
  if x.isNaN then .obj [("float", .str "NaN")]
  else if x.isInf then .obj [("float", .str (if x < 0 then "-Infinity" else "Infinity"))]
  else .float x

/-- An object with a type's name under `kind` before its fields. -/
def kindObject (kind : String) (fields : List (String × Value)) : Value :=
  .obj (("kind", .str kind) :: fields)

end Json

open Json

/-- A snapshot of timestamps. -/
def Timestamps.snapshot (t : Timestamps) : Json.Value :=
  kindObject "TimeInfo" [("created", .int t.created), ("updated", .int t.updated),
    ("compacting", optInt t.compacting), ("archived", optInt t.archived),
    ("completed", optInt t.completed)]

/-- A snapshot of a session. -/
def SessionInfo.snapshot (s : SessionInfo) : Json.Value :=
  kindObject "SessionInfo" [("id", .str s.id), ("slug", .str s.slug),
    ("project_id", .str s.projectId), ("directory", .str s.directory), ("title", .str s.title),
    ("version", .str s.version), ("time", s.time.snapshot), ("parent_id", optText s.parentId),
    ("share_url", optText s.shareUrl)]

/-- A snapshot of a session status. -/
def SessionStatus.snapshot (s : SessionStatus) : Json.Value :=
  kindObject "SessionStatus" [("status", .str s.status), ("message_id", optText s.messageId),
    ("part_id", optText s.partId)]

/-- A snapshot of a project. -/
def Project.snapshot (p : Project) : Json.Value :=
  kindObject "Project" [("id", .str p.id), ("worktree", .str p.worktree), ("vcs", optText p.vcs),
    ("name", optText p.name), ("time", p.time.snapshot), ("sandboxes", .arr (p.sandboxes.map .str))]

/-- A snapshot of a permission request. -/
def PermissionRequest.snapshot (r : PermissionRequest) : Json.Value :=
  kindObject "PermissionRequest" [("id", .str r.id), ("session_id", .str r.sessionId),
    ("permission", .str r.permission), ("patterns", .arr (r.patterns.map .str)),
    ("tool_message_id", optText r.toolMessageId), ("tool_call_id", optText r.toolCallId),
    ("time", r.time.snapshot)]

/-- A snapshot of the server's health. -/
def HealthInfo.snapshot (h : HealthInfo) : Json.Value :=
  kindObject "HealthInfo" [("healthy", .bool h.healthy), ("version", .str h.version)]

/-- A snapshot of a part. -/
def Part.snapshot : Part → Json.Value
  | .text p => kindObject "TextPart" [("type", .str "text"), ("id", .str p.id),
      ("text", .str p.text), ("is_delta", .bool p.isDelta)]
  | .file p => kindObject "FilePart" [("type", .str "file"), ("id", .str p.id),
      ("file", .str p.file), ("content", optText p.content)]
  | .tool p => kindObject "ToolPart" [("type", .str "tool"), ("id", .str p.id),
      ("tool", .str p.tool), ("input", .obj (p.input.map fun (k, v) => (k, .str v))),
      ("state", match p.state with
        | some s => kindObject "ToolState" [("status", .str s.status), ("error", optText s.error)]
        | none => .null)]
  | .reasoning p => kindObject "ReasoningPart" [("type", .str "reasoning"),
      ("id", .str p.id), ("text", .str p.text)]

/-- A snapshot of token counts. -/
def TokenInfo.snapshot (t : TokenInfo) : Json.Value :=
  kindObject "TokenInfo" [("input", .int t.input), ("output", .int t.output),
    ("reasoning", .int t.reasoning), ("cache", kindObject "CacheTokens"
      [("read", .int t.cache.read), ("write", .int t.cache.write)])]

/-- A snapshot of a message. -/
def Message.snapshot : Message → Json.Value
  | .user m => kindObject "UserMessage" [("role", .str "user"), ("id", .str m.id),
      ("session_id", .str m.sessionId), ("time", m.time.snapshot), ("agent", .str m.agent),
      ("model", kindObject "ModelRef" [("provider_id", .str m.model.providerId),
        ("model_id", .str m.model.modelId)]), ("system", optText m.system)]
  | .assistant m => kindObject "AssistantMessage" [("role", .str "assistant"),
      ("id", .str m.id), ("session_id", .str m.sessionId), ("time", m.time.snapshot),
      ("parent_id", .str m.parentId), ("model_id", .str m.modelId),
      ("provider_id", .str m.providerId), ("mode", .str m.mode), ("agent", .str m.agent),
      ("cwd", .str m.cwd), ("root", .str m.root), ("cost", floatSnapshot m.cost),
      ("tokens", m.tokens.snapshot), ("finish", optText m.finish)]

end AgentLink
