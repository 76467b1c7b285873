import AgentLink.Http.Method
import AgentLink.Http.Url
import AgentLink.Http.Header

/-!
# Requests and replies

A request reaches the server as an `Http.Request`: method, canonical URL, headers and body.
The server answers with an `Http.Reply`: a network failure (`Http.NetError`), a status,
headers and a body, or an error of its own in writing the response, which reaches the caller
as it is. A body arrives as chunks of bytes (`Http.Body`); it ends when the chunks
are done, breaks off with a network failure after its last chunk, or is held open, sending
nothing more, until the client stops reading.

Network failures come in kinds (`Http.Fault`); four of them are timeouts. The text the client
keeps of a failure (`Http.NetError.text`) marks a timeout as such and names the kind when the
failure has no message.
-/

namespace AgentLink.Http

/-- A kind of network failure. -/
inductive Fault where
  | connect
  | connectTimeout
  | readTimeout
  | writeTimeout
  | poolTimeout
  | readError
  | remoteProtocol
  | networkError
  deriving DecidableEq, Repr, Inhabited

/-- Whether the failure is a timeout. -/
def Fault.isTimeout : Fault → Bool
  | .connectTimeout | .readTimeout | .writeTimeout | .poolTimeout => true
  | _ => false

/-- The name of a kind of failure. -/
def Fault.name : Fault → String
  | .connect => "ConnectError"
  | .connectTimeout => "ConnectTimeout"
  | .readTimeout => "ReadTimeout"
  | .writeTimeout => "WriteTimeout"
  | .poolTimeout => "PoolTimeout"
  | .readError => "ReadError"
  | .remoteProtocol => "RemoteProtocolError"
  | .networkError => "NetworkError"

/-- The kind a script names by a word. -/
def Fault.ofWord? : String → Option Fault
  | "connect" => some .connect
  | "connect_timeout" => some .connectTimeout
  | "read_timeout" => some .readTimeout
  | "write_timeout" => some .writeTimeout
  | "pool_timeout" => some .poolTimeout
  | "read_error" => some .readError
  | "remote_protocol" => some .remoteProtocol
  | "network_error" => some .networkError
  | _ => none

/-- A network failure with its message. -/
structure NetError where
  fault : Fault
  message : String
  deriving DecidableEq, Repr, Inhabited

/-- The text kept of a failure: `Timeout: ` and the message for a timeout, otherwise the
message, or the kind's name when the message is empty. -/
def NetError.text (e : NetError) : String :=
  if e.fault.isTimeout then "Timeout: " ++ e.message
  else if e.message.isEmpty then e.fault.name
  else e.message

/-- A request as the server receives it. -/
structure Request where
  method : Method
  url : Url
  headers : Headers
  body : String
  deriving Repr, Inhabited

/-- The path and query of a request's URL. -/
def Request.rawPath (r : Request) : String :=
  r.url.rawPath

/-- The path of a request's URL without its query, `/` when empty. -/
def Request.pathOnly (r : Request) : String :=
  if r.url.path.isEmpty then "/" else r.url.path

/-- How a body ends after its chunks. -/
inductive BodyEnd where
  /-- The body is complete. -/
  | complete
  /-- The connection fails after the last chunk. -/
  | broken (e : NetError)
  /-- The server holds the body open and sends nothing more until the client stops. -/
  | held
  deriving Repr, Inhabited

/-- A response body: chunks of bytes and how they end. -/
structure Body where
  chunks : List (List UInt8) := []
  ending : BodyEnd := .complete
  deriving Repr, Inhabited

/-- All bytes of a body. -/
def Body.bytes (b : Body) : List UInt8 :=
  b.chunks.flatten

/-- Why a server cannot write the response it means to give. -/
inductive WriteError where
  /-- A JSON body holds NaN or an infinity, which strict JSON cannot write. -/
  | outOfRange
  /-- The body holds lone surrogates, which UTF-8 cannot encode. -/
  | unencodable (e : Utf8.EncodeError)
  deriving DecidableEq, Repr

/-- The message of a response that cannot be written. -/
def WriteError.message : WriteError → String
  | .outOfRange => "Out of range float values are not JSON compliant"
  | .unencodable e => e.message

/-- What the server does with a request. -/
inductive Reply where
  /-- The request fails on the network. -/
  | fail (e : NetError)
  /-- A response with a status, headers and a body. -/
  | respond (status : Nat) (headers : Headers) (body : Body)
  /-- The server cannot write the response it means to give; the caller meets that error where
  it sent the request. -/
  | unwritable (e : WriteError)
  deriving Repr, Inhabited

end AgentLink.Http
