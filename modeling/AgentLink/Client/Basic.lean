import AgentLink.Client.Error
import AgentLink.Http.Transport
import AgentLink.Json.Reader
import AgentLink.Json.Writer
import AgentLink.Text.Blank
import AgentLink.Channel
import AgentLink.Event.Basic

/-!
# The client

A client (`Client`) talks to one server through a transport. Its calls
(`Client.call`) send a JSON payload, written with spaces after separators and ASCII only,
and read the response: no response, `404`, another status that is no success, or a body that
is no JSON each fail with their own `ClientError`; an empty or blank body reads as `null`.
The value then has to be the resource the call expects (`expectOne`, `expectList`); a value of
the wrong shape is unexpected, and a value that cannot be read for another reason fails as it
is.

`Client.probe` checks that the server answers its health check. `Client.close` closes the
transport and every event stream the client opened; closing twice is closing once.
-/

namespace AgentLink

/-- A client call: it may fail, and it talks to the network. -/
abbrev Attempt := ExceptT ClientError Http.Net

/-- A client of one server. -/
structure Client where
  /-- The transport of the client's calls. -/
  transport : Http.Transport
  /-- The provider of a message when the call names none. -/
  defaultProvider : Json.Value := .null
  /-- The model of a message when the call names none. -/
  defaultModel : Json.Value := .null
  /-- Whether the client is closed. -/
  closed : Bool := false
  /-- The event streams the client opened, in order. -/
  streams : Array (Channel Event) := #[]
  deriving Inhabited

/-- A result that is known, as a call. -/
def Attempt.ofExcept {α : Type} (x : Except ClientError α) : Attempt α :=
  ExceptT.mk (pure x)

/-- The base URL of the client's server. -/
def Client.baseUrl (c : Client) : String :=
  c.transport.baseText

/-- The call that sends an optional JSON payload, written with spaces after separators and
ASCII only. -/
def jsonCall (m : Http.Method) (path : String) (payload : Option Json.Value) : Http.Call :=
  { method := m.name, path
    body := match payload with
      | some p => Json.Format.spaced.write p
      | none => "" }

/-- Checks the answer of the call named `name`: no response in time, no response, `404`, and
another status that is no success each fail with their own error. -/
def checkAnswer (name : String) (r : Http.Answer) : Except ClientError Unit := do
  if r.timedOut then throw (.timedOut name r.error)
  if !r.error.isEmpty then throw (.unreachable name r.error)
  if r.status == 404 then throw (.notFound name r.body)
  if !r.ok then throw (.rejected name r.status r.body)

/-- The JSON of a body read `calls` calls deep, `null` for a blank body. -/
def readBody (calls : Nat) (body : String) : Except Json.ReadError Json.Value :=
  if (Text.strip body).isEmpty then .ok .null else Json.readAt calls body

/-- The JSON of the body of the call named `name`: a body that is no JSON fails, as one that
nests too deep does with an error of its own. -/
def readReply (name : String) (calls : Nat) (body : String) : Except ClientError Json.Value :=
  (readBody calls body).mapError fun e =>
    if e.isTooDeep then .tooDeep e else .invalidJson name (e.message body)

/-- Sends a call with an optional JSON payload and reads its JSON response, `null` for an
empty body. The call is made `depth` operations below the one the caller runs, and each of them
stands above the reading of the response (`Json.replyCalls`). -/
def Client.call (c : Client) (depth : Nat) (m : Http.Method) (path : String)
    (payload : Option Json.Value := none) : Attempt Json.Value := do
  let name := m.name ++ " " ++ path
  let r ← ExceptT.mk ((fun x => x.mapError ClientError.stopped) <$>
    c.transport.request (jsonCall m path payload))
  Attempt.ofExcept do
    checkAnswer name r
    readReply name (Json.replyCalls + depth) r.body

/-- The error of reading a resource: unexpected when the value has the wrong shape. -/
def ClientError.ofDecode (what : String) (e : DecodeError) : ClientError :=
  if e.isProtocol then .unexpected what e else .unreadable e

/-- Reads one resource, named `what`. -/
def expectOne {α : Type} (decode : Json.Value → Except DecodeError α) (what : String)
    (v : Json.Value) : Except ClientError α :=
  (decode v).mapError (ClientError.ofDecode what)

/-- Reads a list of resources, each named `what`. -/
def expectList {α : Type} (decode : Json.Value → Except DecodeError α) (what : String)
    (v : Json.Value) : Except ClientError (List α) :=
  match v with
  | .arr xs => xs.mapM (expectOne decode what)
  | v => .error (.notAList what v.kindName)

/-- Whether a call's result is anything but `false`. -/
def notFalse : Json.Value → Bool
  | .bool false => false
  | _ => true

/-- Checks that the server answers its health check with a success. -/
def Client.probe (c : Client) : Attempt Unit := do
  let r ← ExceptT.mk ((fun x => x.mapError ClientError.stopped) <$>
    c.transport.request { method := "GET", path := "/global/health" })
  if !r.ok then
    throw (.probeFailed c.baseUrl (if r.error.isEmpty then "HTTP " ++ toString r.status else r.error))

/-- Closes the client: its transport and every stream it opened. -/
def Client.close (c : Client) : Client :=
  if c.closed then c
  else
    { c with
      closed := true
      transport := c.transport.close.1
      streams := c.streams.map (·.close) }

/-- Sets the directory the client's calls name. -/
def Client.setDirectory (c : Client) (d : Option String) : Client :=
  { c with transport := { c.transport with directory := d } }

end AgentLink
