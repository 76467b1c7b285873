import AgentLink.Event.Basic
import AgentLink.Json.Reader
import AgentLink.Sse.Record

/-!
# Reading events from records

The data of a record is a JSON object `{"type": ..., "properties": {...}}`. `Event.decode`
reads it: a text that is no JSON, or JSON that is no object, is a malformed record; a type the
client does not know, or properties of the wrong shape, are a mismatch with the protocol
(`EventError`). Properties that are no object count as empty. Several kinds take their payload
from an `info` object inside the properties, or from the properties themselves when there is
none.

`Event.dispatch` hands a record's event on, and drops a record that breaks the protocol: it
gives `none` for such a record, and an error only for a number that no integer can hold.
-/

namespace AgentLink

/-- Why a record gives no event. -/
inductive EventError where
  /-- The data is no JSON text; `detail` says where reading stopped. -/
  | notJson (detail : String)
  /-- The data is JSON, but no object. -/
  | notObject
  /-- The type names no kind of event. -/
  | unknownType (kind : String)
  /-- A resource in the properties has the wrong shape or an unknown kind. -/
  | mismatch (e : DecodeError)
  /-- The properties of an event of this kind hold a value that cannot be read. -/
  | badPayload (kind : String) (e : DecodeError)
  /-- A whole number in the properties is an infinite float or too large. -/
  | overflow (e : DecodeError)
  /-- The data nests arrays and objects too deep to be read. -/
  | tooDeep (e : Json.ReadError)
  deriving DecidableEq, Repr

/-- The message of an event error. -/
def EventError.message : EventError → String
  | .notJson detail => "Record data is not JSON: " ++ detail
  | .notObject => "Record data is not a JSON object"
  | .unknownType kind => "Unknown event type: " ++ (if kind.isEmpty then "<missing>" else kind)
  | .mismatch e => e.message
  | .badPayload kind e => "Bad " ++ kind ++ " payload: " ++ e.message
  | .overflow e => e.message
  | .tooDeep e => e.message ""

/-- Whether the error breaks the protocol, so that its record is dropped. -/
def EventError.isProtocol : EventError → Bool
  | .overflow _ | .tooDeep _ => false
  | _ => true

/-- The first of the keys whose value is a text, or the empty text. -/
def firstText (v : Json.Value) : List String → String
  | [] => ""
  | k :: ks => match v.get? k with
    | some (.str s) => s
    | _ => firstText v ks

/-- The payload of a kind that may wrap it in `info`. -/
def infoOf (props : Json.Value) : Json.Value :=
  (props.get? "info").getD props

/-- The text of a session error: a text as it is, or from an error object its data's message,
its message, or its name. -/
def errorText (v : Option Json.Value) : String :=
  match v with
  | some (.str s) => s
  | some e@(.obj _) =>
    match (e.get? "data") with
    | some d@(.obj _) =>
      match d.get? "message" with
      | some (.str m) => m
      | _ => fromTop e
    | _ => fromTop e
  | _ => ""
where
  fromTop (e : Json.Value) : String :=
    match e.get? "message" with
    | some (.str m) => m
    | _ => e.textOr "name"

/-- The id of a deleted session: `sessionID`, or else the `id` of `info`. A value of `info` that
counts as false reads as an empty object; any other value that is no object has no fields. -/
def deletedSessionId (props : Json.Value) : Except DecodeError String := do
  let direct := props.textOr "sessionID"
  if !direct.isEmpty then return direct
  match props.get? "info" with
  | none => return ""
  | some info =>
    if !info.truthy then return ""
    match info with
    | .obj _ => return info.textOr "id"
    | v => throw (.noFields v.kindName)

/-- Reads a part update: the part must be an object, and a text `delta` replaces the text of a
text part, which is then marked as a delta. -/
def decodePartUpdate (props : Json.Value) : Except DecodeError Event := do
  match props.get? "part" with
  | some partObj@(.obj _) =>
    let part ← Part.decode partObj
    let delta := props.optText "delta"
    let part := match delta, part with
      | some d, .text p => .text { p with text := d, isDelta := true }
      | _, p => p
    return .messagePartUpdated (partObj.textOr "sessionID") (partObj.textOr "messageID") part delta
  | _ => throw .partMissing

/-- Reads the properties of an event of a known kind, or `none` for an unknown kind. -/
def decodeProperties (kind : String) (p : Json.Value) : Option (Except DecodeError Event) :=
  match kind with
  | "server.connected" => some (pure .serverConnected)
  | "server.heartbeat" => some (pure .serverHeartbeat)
  | "server.instance.disposed" => some (pure (.serverInstanceDisposed (p.textOr "directory")))
  | "global.disposed" => some (pure .globalDisposed)
  | "session.created" => some (.sessionCreated <$> SessionInfo.decode (infoOf p))
  | "session.updated" => some (.sessionUpdated <$> SessionInfo.decode (infoOf p))
  | "session.deleted" => some (.sessionDeleted <$> deletedSessionId p)
  | "session.status" => some (.sessionStatus (p.textOr "sessionID") <$>
      SessionStatus.decode ((p.get? "status").getD .null))
  | "session.idle" => some (pure (.sessionIdle (p.textOr "sessionID")))
  | "session.error" => some (pure (.sessionError (p.textOr "sessionID") (errorText (p.get? "error"))))
  | "message.updated" => some (.messageUpdated <$> Message.decode (infoOf p))
  | "message.removed" => some (pure (.messageRemoved (p.textOr "sessionID") (p.textOr "messageID")))
  | "message.part.updated" => some (decodePartUpdate p)
  | "message.part.removed" => some (pure (.messagePartRemoved (p.textOr "sessionID")
      (p.textOr "messageID") (p.textOr "partID")))
  | "permission.asked" => some (.permissionAsked <$> PermissionRequest.decode p)
  | "permission.replied" => some (pure (.permissionReplied (firstText p ["requestID", "permissionID"])
      (p.textOr "sessionID") (firstText p ["reply", "response"])))
  | "project.updated" => some (.projectUpdated <$> Project.decode (infoOf p))
  | "file.edited" => some (pure (.fileEdited (p.textOr "file")))
  | "installation.updated" => some (pure (.installationUpdated (p.textOr "version")))
  | "installation.update-available" =>
    some (pure (.installationUpdateAvailable (p.textOr "version")))
  | _ => none

/-- Files a reading error of an event's properties: errors of the protocol stay as they are, a
whole number out of range stays an overflow, and any other error is a bad payload. -/
def EventError.ofDecode (kind : String) (e : DecodeError) : EventError :=
  if e.isProtocol then .mismatch e
  else match e with
    | .infiniteToInt | .intTooLarge => .overflow e
    | e => .badPayload kind e

/-- The calls that lead to the reading of a record's data when its event is read for itself. -/
def Event.readCalls : Nat := 9

/-- Reads the event of a record, inside `calls` calls. -/
def Event.decodeAt (calls : Nat) (r : Sse.Record) : Except EventError Event :=
  match Json.readAt calls r.data with
  | .error e => .error (if e.isTooDeep then .tooDeep e else .notJson (e.message r.data))
  | .ok (.obj fs) =>
    let payload : Json.Value := .obj fs
    let kind := payload.textOr "type"
    let props := payload.objOr "properties"
    match decodeProperties kind props with
    | none => .error (.unknownType kind)
    | some (.ok ev) => .ok ev
    | some (.error e) => .error (EventError.ofDecode kind e)
  | .ok _ => .error .notObject

/-- Reads the event of a record. -/
def Event.decode (r : Sse.Record) : Except EventError Event :=
  Event.decodeAt Event.readCalls r

/-- The event of a record to hand on, its data read inside `calls` calls: `none` when the
record breaks the protocol and is dropped, an error when it cannot be read for any other
reason. -/
def Event.dispatchAt (calls : Nat) (r : Sse.Record) : Except EventError (Option Event) :=
  match Event.decodeAt calls r with
  | .ok ev => .ok (some ev)
  | .error e => if e.isProtocol then .ok none else .error e

/-- The event of a record to hand on, read one call deeper than `Event.decode` reads it. -/
def Event.dispatch (r : Sse.Record) : Except EventError (Option Event) :=
  Event.dispatchAt (Event.readCalls + 1) r

end AgentLink
