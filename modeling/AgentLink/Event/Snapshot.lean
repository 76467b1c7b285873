import AgentLink.Event.Basic
import AgentLink.Resource.Snapshot

/-!
# Snapshots of events

A snapshot of an event shows the name of its kind under `kind`, its type tag under `type`, and
then the fields of its kind, resources as their own snapshots (`Resource.Snapshot`).
-/

namespace AgentLink

open Json

/-- The name of an event's kind and its fields. -/
def Event.fields : Event → String × List (String × Json.Value)
  | .serverConnected => ("ServerConnectedEvent", [])
  | .serverHeartbeat => ("ServerHeartbeatEvent", [])
  | .serverInstanceDisposed d => ("ServerInstanceDisposedEvent", [("directory", .str d)])
  | .globalDisposed => ("GlobalDisposedEvent", [])
  | .sessionCreated s => ("SessionCreatedEvent", [("session", s.snapshot)])
  | .sessionUpdated s => ("SessionUpdatedEvent", [("session", s.snapshot)])
  | .sessionDeleted i => ("SessionDeletedEvent", [("session_id", .str i)])
  | .sessionStatus i st => ("SessionStatusEvent", [("session_id", .str i), ("status", st.snapshot)])
  | .sessionIdle i => ("SessionIdleEvent", [("session_id", .str i)])
  | .sessionError i er => ("SessionErrorEvent", [("session_id", .str i), ("error", .str er)])
  | .messageUpdated m => ("MessageUpdatedEvent", [("info", m.snapshot)])
  | .messageRemoved s m => ("MessageRemovedEvent", [("session_id", .str s), ("message_id", .str m)])
  | .messagePartUpdated s m p d => ("MessagePartUpdatedEvent", [("session_id", .str s),
      ("message_id", .str m), ("part", p.snapshot), ("delta", optText d)])
  | .messagePartRemoved s m p => ("MessagePartRemovedEvent", [("session_id", .str s),
      ("message_id", .str m), ("part_id", .str p)])
  | .permissionAsked r => ("PermissionAskedEvent", [("request", r.snapshot)])
  | .permissionReplied r s y => ("PermissionRepliedEvent", [("request_id", .str r),
      ("session_id", .str s), ("reply", .str y)])
  | .projectUpdated p => ("ProjectUpdatedEvent", [("project", p.snapshot)])
  | .fileEdited f => ("FileEditedEvent", [("file", .str f)])
  | .installationUpdated v => ("InstallationUpdatedEvent", [("version", .str v)])
  | .installationUpdateAvailable v => ("InstallationUpdateAvailableEvent", [("version", .str v)])

/-- A snapshot of an event. -/
def Event.snapshot (e : Event) : Json.Value :=
  let (kind, fields) := e.fields
  kindObject kind (("type", .str e.type) :: fields)

end AgentLink
