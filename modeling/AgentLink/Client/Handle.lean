import AgentLink.Client.Streaming

/-!
# Session handles

Fetching or creating a session hands out a handle on it (`SessionHandle`). Its operations run
the client's own for the session's id, called through the handle: each is one operation deeper
(`Client.call`), so the reading of its reply admits one container fewer. Refreshing reads the
session's description through `Client.getSessionInfo`, two operations deep.
-/

namespace AgentLink

/-- A handle on one session of a client, known by its id. -/
structure SessionHandle where
  id : String
  deriving DecidableEq, Repr

namespace SessionHandle

/-- The session's description as the server has it now. -/
def refresh (h : SessionHandle) (c : Client) : Attempt SessionInfo :=
  c.getSessionInfo h.id 1

/-- Sends a message to the session and waits for the complete reply. -/
def send (h : SessionHandle) (c : Client) (prompt provider model : Json.Value) :
    Attempt MessageWithParts :=
  c.sendMessage h.id prompt provider model 1

/-- Sends a message to the session while reading the stream of events for its parts. -/
def sendStreaming (h : SessionHandle) (c : Client) (prompt provider model : Json.Value) :
    Http.Net StreamedReply :=
  c.sendStreaming h.id prompt provider model 1

/-- The messages of the session; `limit`, unless `null`, bounds how many. -/
def messages (h : SessionHandle) (c : Client) (limit : Json.Value) :
    Attempt (List MessageWithParts) :=
  c.getMessages h.id limit 1

/-- Stops the generation in the session. -/
def abort (h : SessionHandle) (c : Client) : Attempt Bool :=
  c.abortSession h.id 1

/-- Deletes the session. -/
def destroy (h : SessionHandle) (c : Client) : Attempt Bool :=
  c.deleteSession h.id 1

end SessionHandle

end AgentLink
