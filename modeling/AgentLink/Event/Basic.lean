import AgentLink.Resource.Session
import AgentLink.Resource.Project
import AgentLink.Resource.Permission
import AgentLink.Resource.Message

/-!
# Events

The server pushes events over its event stream (`Event`): the server connecting, beating and
being disposed; sessions created, updated, deleted, changing status, falling idle or failing;
messages and their parts updated or removed; permissions asked and answered; projects updated;
files edited; and new versions installed or available. Each kind has its name on the wire
(`Event.type`), such as `session.idle`.
-/

namespace AgentLink

/-- An event pushed by the server. -/
inductive Event where
  | serverConnected
  | serverHeartbeat
  | serverInstanceDisposed (directory : String)
  | globalDisposed
  | sessionCreated (session : SessionInfo)
  | sessionUpdated (session : SessionInfo)
  | sessionDeleted (sessionId : String)
  | sessionStatus (sessionId : String) (status : SessionStatus)
  | sessionIdle (sessionId : String)
  | sessionError (sessionId : String) (error : String)
  | messageUpdated (info : Message)
  | messageRemoved (sessionId messageId : String)
  | messagePartUpdated (sessionId messageId : String) (part : Part) (delta : Option String)
  | messagePartRemoved (sessionId messageId partId : String)
  | permissionAsked (request : PermissionRequest)
  | permissionReplied (requestId sessionId reply : String)
  | projectUpdated (project : Project)
  | fileEdited (file : String)
  | installationUpdated (version : String)
  | installationUpdateAvailable (version : String)

/-- The name of an event's kind on the wire. -/
def Event.type : Event → String
  | .serverConnected => "server.connected"
  | .serverHeartbeat => "server.heartbeat"
  | .serverInstanceDisposed _ => "server.instance.disposed"
  | .globalDisposed => "global.disposed"
  | .sessionCreated _ => "session.created"
  | .sessionUpdated _ => "session.updated"
  | .sessionDeleted _ => "session.deleted"
  | .sessionStatus .. => "session.status"
  | .sessionIdle _ => "session.idle"
  | .sessionError .. => "session.error"
  | .messageUpdated _ => "message.updated"
  | .messageRemoved .. => "message.removed"
  | .messagePartUpdated .. => "message.part.updated"
  | .messagePartRemoved .. => "message.part.removed"
  | .permissionAsked _ => "permission.asked"
  | .permissionReplied .. => "permission.replied"
  | .projectUpdated _ => "project.updated"
  | .fileEdited _ => "file.edited"
  | .installationUpdated _ => "installation.updated"
  | .installationUpdateAvailable _ => "installation.update-available"

end AgentLink
