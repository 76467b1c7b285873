import AgentLink.Http.Script
import AgentLink.Http.Library
import AgentLink.Sse.Parser
import AgentLink.Http.Stream

/-!
# The transport

A transport (`Http.Transport`) sends requests to one server through an HTTP library
(`Http.Library`): its base URL (`http://host:port`), the credentials for basic authentication,
and the directory the server should work in, which every request names in a header of its own.
Requests are of two sorts.

*A call* (`Http.Transport.request`) sends one request and reads its whole response into an
`Http.Answer`. It never fails for the network's sake: a method the transport does not speak,
a target that is no URL, a closed transport, or a failure on the way all give an answer with
an error text and no status. Only a text that cannot be encoded, a host with no Unicode form,
or a server that cannot write its response, stops it (`Http.CallError`).

*A stream* (`Http.Transport.openStream`) asks for a stream of events and reads the records of
its body (`Sse.Record`) as they come. It ends with the body, with a failure of any kind, or
stays open while the server holds the body open (`Http.StreamEnd`). A status other than
success rejects it.

The library builds each request (`Http.Transport.prepare`) and reads each response.
-/

namespace AgentLink.Http

/-- Why a call stops without an answer: a text of the request that cannot be encoded, a host
name that has no Unicode form, or a server that could not write its response. -/
inductive CallError where
  /-- A header is not ASCII. -/
  | ascii (e : Text.AsciiError)
  /-- A text of the request holds lone surrogates, which UTF-8 cannot encode. -/
  | unencodable (e : Utf8.EncodeError)
  /-- The host name is in ASCII and has no Unicode form. -/
  | idna (e : Idna.DecodeError)
  /-- The server could not write its response. -/
  | unwritable (e : WriteError)
  deriving DecidableEq, Repr

/-- The message of a call that stopped. -/
def CallError.message : CallError → String
  | .ascii e => e.message
  | .unencodable e => e.message
  | .idna e => e.message
  | .unwritable e => e.message

/-- The header that names the directory the server works in. -/
def directoryHeader : String := "x-opencode-directory"

/-- The headers a stream asks with, before its own. -/
def streamHeaders : Headers :=
  [("Accept", "text/event-stream"), ("Cache-Control", "no-cache"), ("Connection", "keep-alive")]

/-- The text of an error: its message, or the name of its kind when the message is empty. -/
def errorText (message kind : String) : String :=
  if message.isEmpty then kind else message

/-- A connection to one server. -/
structure Transport where
  /-- The HTTP library the transport drives. -/
  library : Library
  /-- The base URL as it was given. -/
  baseText : String
  /-- The base URL in canonical form, its path ending in a slash. -/
  base : Url
  /-- User and password, used only together. -/
  credentials : Option (String × String) := none
  /-- The base URL is the one the library gives for the base text and the credentials. -/
  made : library.client baseText credentials = .ok base
  /-- The directory the requests name, if any. -/
  directory : Option String := none
  /-- Whether calls are no longer sent. -/
  closed : Bool := false
  /-- Whether a stream of the transport's own, read whole, is open. -/
  live : Bool := false
  /-- The stream of the transport's own that a worker reads, if one was started and not stopped
  since: what its worker works with, and where it stands. -/
  stream : Option (Stream.Setup × Stream.State) := none

/-- The credentials of a user and a password, which are used only together. -/
def pairCredentials : Option String → Option String → Option (String × String)
  | some u, some p => some (u, p)
  | _, _ => none

/-- A transport to `http://host:port` through a library, or the error that makes the library
refuse it. -/
def Transport.make (lib : Library) (host : String) (port : Int) (user password : Option String)
    (directory : Option String) : Except SetupError Transport :=
  let text := "http://" ++ host ++ ":" ++ toString port
  let credentials := pairCredentials user password
  match h : lib.client text credentials with
  | .ok base => .ok { library := lib, baseText := text, base, credentials, made := h, directory }
  | .error e => .error e

/-- The transport to `http://127.0.0.1:4096` through the reference library. -/
instance : Inhabited Transport :=
  ⟨{ library := .reference, baseText := "http://127.0.0.1:4096",
     base := { scheme := "http", host := "127.0.0.1", port := some 4096 },
     made := by
      have h : (Library.reference.client "http://127.0.0.1:4096" none).toOption =
          some { scheme := "http", host := "127.0.0.1", port := some 4096 } := by decide +kernel
      revert h
      cases Library.reference.client "http://127.0.0.1:4096" none <;> simp [Except.toOption] }⟩

/-- A fresh transport to the same server with the same settings: open, with no stream. -/
def Transport.renewed (t : Transport) : Transport :=
  { t with closed := false, live := false, stream := none }

/-- The headers with the directory header added, when there is a directory. -/
def Transport.scoped (t : Transport) (hs : Headers) : Headers :=
  match t.directory with
  | some d => if d.isEmpty then hs else hs ++ [(directoryHeader, d)]
  | none => hs

/-- The request the library builds for the server. -/
def Transport.prepare (t : Transport) (m : Method) (target : String) (headers : Headers)
    (content : Option String) : Except BuildError Request :=
  t.library.prepare t.base t.credentials m target headers content

/-! ## Calls -/

/-- A call as the caller asks for it. -/
structure Call where
  method : String
  path : String
  body : String := ""
  headers : Headers := []
  contentType : Option String := some "application/json"
  deriving Repr, Inhabited

/-- The result of a call: status, body and headers, or an error text when no response came. -/
structure Answer where
  status : Nat := 0
  body : String := ""
  headers : Headers := []
  error : String := ""
  timedOut : Bool := false
  deriving Repr, Inhabited

/-- Whether a response came and its status is a success. -/
def Answer.ok (a : Answer) : Bool :=
  a.error.isEmpty && 200 ≤ a.status && a.status < 300

/-- The answer of a failure on the network. -/
def Answer.ofNetError (e : NetError) : Answer :=
  { error := e.text, timedOut := e.fault.isTimeout }

/-- The content type a call's body is sent with: the one asked for, JSON when none. -/
def Call.typeOfBody (c : Call) : String :=
  match c.contentType with
  | some ct => if ct.isEmpty then "application/json" else ct
  | none => "application/json"

/-- The headers a call is sent with: its own and the directory's, JSON accepted, and the content
type of a body when it has one. -/
def Transport.callHeaders (t : Transport) (c : Call) (withBody : Bool) : Headers :=
  t.scoped c.headers ++ [("Accept", "application/json")] ++
    (if withBody then [("Content-Type", c.typeOfBody)] else [])

/-- What a built request comes to: a target that is no URL, or a closed transport, is answered
at once with an error text; a text that cannot be encoded stops the call. -/
def Transport.settle (t : Transport) : Except BuildError Request → Except CallError (Except Answer Request)
  | .error (.url e) => .ok (.error { error := errorText e.message "InvalidURL" })
  | .error (.unencodable e) => .error (.unencodable e)
  | .error (.ascii e) => .error (.ascii e)
  | .error (.idna e) => .error (.idna e)
  | .ok req =>
    .ok (if t.closed then .error { error := errorText t.library.closedText "RuntimeError" }
      else .ok req)

/-- What a call comes to before anything is sent: the request to send, or an answer given at
once for a method the transport does not speak, a target that is no URL, or a closed transport.
A text that cannot be encoded stops the call. A body goes only with a method that sends one. -/
def Transport.build (t : Transport) (c : Call) : Except CallError (Except Answer Request) :=
  match Method.ofName? c.method with
  | none => .ok (.error { error := "Unsupported HTTP method: " ++ c.method })
  | some m =>
    let withBody := !c.body.isEmpty && m.sendsBody
    match (if withBody then discard (Utf8.encode c.body) else .ok ()) with
    | .error e => .error (.unencodable e)
    | .ok () =>
      t.settle (t.prepare m c.path (t.callHeaders c withBody) (if withBody then some c.body else none))

/-- The answer a reply gives: a failure on the network, or a body that breaks off, as its error
text; a response as its status, and its body and headers as the library reads them. A server
that cannot write its response stops the call. -/
def Answer.ofReply (lib : Library) : Reply → Except CallError Answer
  | .unwritable e => .error (.unwritable e)
  | .fail e => .ok (Answer.ofNetError e)
  | .respond status hs body =>
    match body.ending with
    | .broken e => .ok (Answer.ofNetError e)
    | _ => .ok { status, body := lib.bodyText hs body.bytes, headers := lib.responseHeaders hs }

/-- Sends one call and reads its whole response. -/
def Transport.request (t : Transport) (c : Call) : Net (Except CallError Answer) :=
  match t.build c with
  | .error e => return .error e
  | .ok (.error a) => return .ok a
  | .ok (.ok req) => Answer.ofReply t.library <$> send req

/-! ## Streams -/

/-- How a stream stands after its records: closed, with the error that closed it if any, or
still open. -/
inductive StreamEnd where
  | closed (error : Option String)
  | opened
  deriving DecidableEq, Repr, Inhabited

/-- The calls that stand above the handler of a record on a stream's worker, which runs apart
from the caller: the worker's start (three calls), its loop, the reading of a chunk, of a line
and of a record (three), and the delivery of the record. -/
def recordHandlerDepth : Nat := 8

/-- The records a stream delivered, and how it stands. -/
structure StreamRun where
  records : List Sse.Record := []
  ending : StreamEnd
  deriving Repr, Inhabited

/-- Opens a stream of events at a path and reads what it delivers. -/
def Transport.openStream (t : Transport) (path : String) (headers : Headers) : Net StreamRun := do
  match t.prepare .get path (streamHeaders ++ t.scoped headers) none with
  | .error e => return { ending := .closed (reason e.message) }
  | .ok req =>
    match ← send req with
    | .unwritable e => return { ending := .closed (reason e.message) }
    | .fail e => return { ending := .closed (reason e.text) }
    | .respond status _ body =>
      if !(200 ≤ status && status < 300) then
        return { ending := .closed (some (rejectedText status)) }
      match body.ending with
      | .complete => return { records := Sse.parseRecords (body.chunks.map .bytes), ending := .closed none }
      | .broken e =>
        return { records := Sse.parseRecords (body.chunks.map .bytes), ending := .closed (reason e.text) }
      | .held =>
        return { records := Sse.parseRecords ((body.chunks ++ [keepAlive]).map .bytes), ending := .opened }

/-- What the worker of a stream meets: a request that cannot be built, one the server cannot
answer or that fails on the network, or the server's response. -/
def Transport.streamAnswer (t : Transport) (path : String) (headers : Headers) :
    Net Stream.Answer := do
  match t.prepare .get path (streamHeaders ++ t.scoped headers) none with
  | .error e => return .failed e.message
  | .ok req =>
    match ← send req with
    | .unwritable e => return .failed e.message
    | .fail e => return .failed e.text
    | .respond status _ body => return .responded status body

/-- Stops the transport's stream, if it has one: the stop is asked for and the worker runs to
its end. Also the handlers' calls in the meantime. -/
def Transport.stopStream (t : Transport) : Transport × List Stream.Happening :=
  let happened := match t.stream with
    | none => []
    | some (setup, st) => (Stream.run setup st (Stream.stopping st)).log.drop st.log.length
  ({ t with live := false, stream := none }, happened)

/-- Starts a stream of the transport's own, after stopping the one before, and lets its worker
read the body. Also the handlers' calls in the meantime. -/
def Transport.startStream (t : Transport) (path : String) (headers : Headers)
    (handlers : Stream.Handlers) : Net (Transport × List Stream.Happening) := do
  let (t, before) := t.stopStream
  let answer ← t.streamAnswer path headers
  let setup : Stream.Setup := { answer, handlers }
  let st := Stream.run setup {} (Stream.untilRead setup)
  return ({ t with stream := some (setup, st) }, before ++ st.log)

/-- Closes the transport: its stream stops and calls are no longer sent. Also the handlers'
calls in the meantime. -/
def Transport.close (t : Transport) : Transport × List Stream.Happening :=
  let (t, happened) := t.stopStream
  ({ t with closed := true }, happened)

/-- The state of the transport's stream: closed when it has none. -/
def Transport.streamState (t : Transport) : StreamState :=
  match t.stream with
  | some (_, st) => st.state
  | none => .closed

end AgentLink.Http
