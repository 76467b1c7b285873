import AgentLink.Http.Exchange
import AgentLink.Json.Writer

/-!
# A scripted server

A server given by a script of routes (`Http.Script`), to run the client without a network. A
route (`Http.Route`) names a method and a path, and the reply to give. A request takes the
reply of the first route whose method and path, query left out, are the request's; a route
marked `once` is used up by the first request it answers. A request that no route takes gets
`404` with a JSON body naming the error. The script keeps a log of every request that reaches
it, in order.

The replies a route can describe are built by `Http.Reply.json` (a JSON value, written compactly
with its characters as they are, and strictly: NaN and the infinities make it unwritable),
`Http.Reply.text`, `Http.Reply.empty` and `Http.Reply.events` (chunks of a stream of events). A
body is sent in UTF-8, so a text with lone surrogates makes it unwritable too.
-/

namespace AgentLink.Http

/-- A reply with a body given as a text, encoded in UTF-8; a text with lone surrogates has no
reply. -/
def Reply.ofText (status : Nat) (contentType : String) (text : String) : Reply :=
  match Utf8.encode text with
  | .error e => .unwritable (.unencodable e)
  | .ok bytes =>
    .respond status [("content-length", toString bytes.length), ("content-type", contentType)]
      { chunks := [bytes] }

/-- A reply with a JSON body, written compactly; strict JSON cannot write NaN or the
infinities, so a value that holds one has no reply. -/
def Reply.json (status : Nat) (v : Json.Value) : Reply :=
  if !v.allFinite then .unwritable .outOfRange
  else Reply.ofText status "application/json" (Json.Format.compact.write v)

/-- A reply with a plain text body. -/
def Reply.text (status : Nat) (s : String) : Reply :=
  Reply.ofText status "text/plain; charset=utf-8" s

/-- A reply with no body. -/
def Reply.empty (status : Nat) : Reply :=
  .respond status [] {}

/-- A reply that streams events: chunks of bytes and how they end. -/
def Reply.events (status : Nat) (chunks : List (List UInt8)) (ending : BodyEnd) : Reply :=
  .respond status [("content-type", "text/event-stream")] { chunks, ending }

/-- The reply to a request that no route takes. -/
def Reply.notFound : Reply :=
  Reply.json 404 (.obj [("name", .str "NotFoundError")])

/-- A route of the script. -/
structure Route where
  method : String := "GET"
  path : String
  once : Bool := false
  reply : Reply
  deriving Repr, Inhabited

/-- Whether a route takes a request. -/
def Route.takes (r : Route) (req : Request) : Bool :=
  r.method == req.method.name && r.path == req.pathOnly

/-- The routes still in force, and the requests received so far. -/
structure Script where
  routes : List Route := []
  log : List Request := []
  /-- The reply to a request that no route takes. -/
  fallback : Reply := Reply.notFound
  deriving Repr, Inhabited

/-- Answers a request: logs it, and gives the reply of the first route that takes it, which is
used up when it is marked `once`. -/
def Script.answer (req : Request) (s : Script) : Reply × Script :=
  let log := s.log ++ [req]
  match s.routes.findIdx? (·.takes req) with
  | some i =>
    let r := s.routes.getD i { path := "", reply := Reply.notFound }
    (r.reply, { s with routes := if r.once then s.routes.eraseIdx i else s.routes, log })
  | none => (s.fallback, { s with log })

/-- The network as the client meets it: a scripted server that answers and logs. -/
abbrev Net := StateM Script

/-- Sends a request to the scripted server. -/
def send (req : Request) : Net Reply :=
  modifyGet (Script.answer req)

end AgentLink.Http
