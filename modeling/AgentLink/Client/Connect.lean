import AgentLink.Client.Basic
import AgentLink.Config.Options
import AgentLink.Supervisor.Server
import AgentLink.Http.Address

/-!
# Connecting a client

A client connects from its options (`connectClient`). With a base URL it talks to the host and
port the URL names (`Http.hostAndPort`); without one it launches a private server on any free
port and talks to it. Either way it then checks that the server answers its health check, and
a client whose server does not answer is closed, its private server stopped, and fails
(`ConnectError`).
-/

namespace AgentLink

/-- Why a client does not connect. -/
inductive ConnectError where
  /-- The host and port make no URL, or the credentials cannot be encoded. -/
  | badAddress (e : Http.SetupError)
  /-- The private server did not start. -/
  | server (e : SupervisorError)
  /-- The server did not answer the health check. -/
  | unanswered (e : ClientError)
  /-- The base URL names a port of more digits than an integer text may have. -/
  | tooManyDigits (e : Text.Integer.TooManyDigits)
  deriving Repr

/-- The message of a connection error. -/
def ConnectError.message : ConnectError → String
  | .badAddress e => e.message
  | .server e => e.message
  | .unanswered e => e.message
  | .tooManyDigits e => e.message

/-- A connected client, and the private server it launched, if it launched one, with the
machine it runs on. -/
structure Connection where
  client : Client
  server : Option (Server × Machine)
  deriving Inhabited

/-- The client of a transport, with the options' default provider and model. -/
def clientOn (o : ClientOptions) (t : Http.Transport) : Client :=
  let text (s : Option String) : Json.Value := (s.map Json.Value.str).getD .null
  { transport := t, defaultProvider := text o.defaultProvider, defaultModel := text o.defaultModel }

/-- A transport through a library to a host and port with the options' credentials and
directory. -/
def transportTo (lib : Http.Library) (o : ClientOptions) (host : String) (port : Int) :
    Except ConnectError Http.Transport :=
  (Http.Transport.make lib host port (o.basicAuth.map Prod.fst) (o.basicAuth.map Prod.snd)
    o.directory).mapError .badAddress

/-- The transport through a library to the host and port a base URL names, with the options'
credentials and directory. -/
def transportFor (lib : Http.Library) (o : ClientOptions) (url : String) :
    Except ConnectError Http.Transport := do
  let (h, p) ← (Http.hostAndPort url).mapError .tooManyDigits
  transportTo lib o h p

/-- Connects a client from its options on a host, through an HTTP library, a private server
getting the process id `pid`; a server that does not answer leaves the client closed and its
private server stopped. -/
def connectClient (host : Host) (lib : Http.Library) (pid : Nat) (o : ClientOptions) :
    Http.Net (Except ConnectError Connection) := do
  let start : Except ConnectError Connection :=
    match o.baseUrl with
    | some url => do
      return { client := clientOn o (← transportFor lib o url), server := none }
    | none =>
      match ({ options := o.serverOptions } : Server).start host { nextPid := pid } with
      | (s, m, .ok ()) => do
        return { client := clientOn o (← transportTo lib o s.hostname s.port)
                 server := some (s, m) }
      | (_, _, .error e) => .error (.server e)
  match start with
  | .error e => return .error e
  | .ok conn =>
    match ← (conn.client.probe).run with
    | .ok () => return .ok conn
    | .error e => return .error (.unanswered e)

/-- Closes a connection: the client, and the private server it launched. -/
def Connection.close (c : Connection) : Connection :=
  { client := c.client.close, server := c.server.map fun (s, m) => s.stop m }

end AgentLink
