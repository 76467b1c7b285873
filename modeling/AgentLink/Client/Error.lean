import AgentLink.Resource.Decode
import AgentLink.Resource.Permission
import AgentLink.Http.Transport
import AgentLink.Json.Reader
import AgentLink.ErrorKind

/-!
# Why a client call fails

A call is named by its method and path (`GET /session`). It fails (`ClientError`) when no
response came, in time or at all; when the server answered with a status other than success,
`404` apart from the others; when the body is no JSON, or nests too deep to be read; when the
JSON is not the resource the call expects; and before anything is sent, when a header is not
ASCII or a permission reply names no action the server knows; and when the call stops without
an answer, for a header that is not ASCII or a response the server could not write.
-/

namespace AgentLink

/-- Why a client call fails. -/
inductive ClientError where
  /-- No response came in time. -/
  | timedOut (call detail : String)
  /-- No response came. -/
  | unreachable (call detail : String)
  /-- The health check at connection failed. -/
  | probeFailed (baseUrl reason : String)
  /-- The server knows no such resource. -/
  | notFound (call body : String)
  /-- The server answered with a status other than success. -/
  | rejected (call : String) (status : Nat) (body : String)
  /-- The body is no JSON. -/
  | invalidJson (call detail : String)
  /-- The body nests arrays and objects too deep to be read. -/
  | tooDeep (e : Json.ReadError)
  /-- The JSON is not the resource expected, named `what`. -/
  | unexpected (what : String) (e : DecodeError)
  /-- A list of resources was expected and a value of another kind came. -/
  | notAList (what got : String)
  /-- A value of the resource cannot be read at all. -/
  | unreadable (e : DecodeError)
  /-- The call stopped without an answer: a header is not ASCII, or the server could not write
  its response. -/
  | stopped (e : Http.CallError)
  /-- A permission reply names an action the server does not know. -/
  | invalidAction (e : InvalidAction)
  deriving Repr

/-- The message of a client error. -/
def ClientError.message : ClientError → String
  | .timedOut call detail => call ++ ": " ++ detail
  | .unreachable call detail => call ++ ": " ++ detail
  | .probeFailed base reason => "Cannot reach server at " ++ base ++ ": " ++ reason
  | .notFound call _ => call ++ " not found (HTTP 404)"
  | .rejected call status _ => call ++ " failed (HTTP " ++ toString status ++ ")"
  | .invalidJson call detail => call ++ " returned invalid JSON: " ++ detail
  | .tooDeep e => e.message ""
  | .unexpected what e => "Unexpected " ++ what ++ " in response: " ++ e.message
  | .notAList what got => "Expected a list of " ++ what ++ ", got " ++ got
  | .unreadable e => e.message
  | .stopped e => e.message
  | .invalidAction e => e.message

/-- The kind of the library's own error that a client error is raised as. The others escape the
family: a body nested deeper than the reader follows, a number no reader can take, a call
stopped before any answer came (a text that cannot be encoded, a host name with no Unicode form,
a server that cannot write its response), and a permission action the server does not know. -/
def ClientError.kind? : ClientError → Option ErrorKind
  | .timedOut .. => some .transportTimeout
  | .unreachable .. | .probeFailed .. => some .connectionFailed
  | .notFound .. => some .notFound
  | .rejected .. => some .api
  | .invalidJson .. | .unexpected .. | .notAList .. => some .malformedResponse
  | .tooDeep _ | .unreadable _ | .stopped _ | .invalidAction _ => none

/-- The status and body of an error that carries a response. -/
def ClientError.response? : ClientError → Option (Nat × String)
  | .notFound _ body => some (404, body)
  | .rejected _ status body => some (status, body)
  | _ => none

end AgentLink
