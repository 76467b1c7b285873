/-!
# Server-sent records

A server pushes records over a long-lived response in the server-sent events format. A record
has an event name, a data text, an id and a reconnection delay (`retry`); a field the server did
not send is empty, and a delay it did not send is zero.
-/

namespace AgentLink.Sse

/-- One record pushed by the server. -/
structure Record where
  /-- The event name, empty when the server sent none. -/
  event : String := ""
  /-- The data lines, joined by line feeds. -/
  data : String := ""
  /-- The record's id, empty when the server sent none. -/
  id : String := ""
  /-- The reconnection delay in milliseconds, zero when the server sent none. -/
  retry : Int := 0
  deriving DecidableEq, Repr, Inhabited

end AgentLink.Sse
