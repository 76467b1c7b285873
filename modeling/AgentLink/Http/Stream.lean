import AgentLink.Http.Exchange
import AgentLink.Sse.Parser

/-!
# The worker of a stream

A transport reads its stream of events on a worker thread of its own (`Stream.Worker`), which
shares a little with the threads that may stop the stream (`Stream.State`): where the
subscription stands (`StreamState`), and whether a stop was asked for. What the stream's
handlers see is a log of `Stream.Happening`s; a handler that raises is caught, and the failure
only logged.

The worker sends the request and meets the server's answer (`Stream.Answer`). With a response
at hand it marks the subscription open unless a stop was asked for, and then ends at once if
one was, or with an error if the status is no success. Otherwise it reads the body chunk by
chunk, checking for a stop before each chunk, and hands each record a chunk completes to the
record handler after checking for a stop once more; a stop asked for between that check and the
call does not hold the call back. A body that is held open keeps sending
keep-alive comments. When the body ends, breaks off or is left after a stop, the worker marks
the subscription closed, reports the error it ended with unless a stop was asked for, and
calls the close handler.

A stop (`Stream.stopStep`) asks the worker to stop and marks the subscription closing unless it
is closed already. Both it and the worker's marks of the subscription happen under the one
lock. A stop and the worker's steps interleave in any order (`Stream.run` over a list of
`Stream.Turn`s); a stop while the worker is inside the record handler is a stop the handler
itself asks for.
-/

namespace AgentLink.Http

/-- Where a subscription stands. -/
inductive StreamState where
  | connecting
  | open
  | closing
  | closed
  deriving DecidableEq, Repr, Inhabited

/-- The name of a subscription's state. -/
def StreamState.value : StreamState → String
  | .connecting => "connecting"
  | .open => "open"
  | .closing => "closing"
  | .closed => "closed"

/-- The place of a state in the order a subscription moves through. -/
def StreamState.rank : StreamState → Nat
  | .connecting => 0
  | .open => 1
  | .closing => 2
  | .closed => 3

/-- An error text as a reason to close: the empty text is none. -/
def reason (s : String) : Option String :=
  if s.isEmpty then none else some s

/-- The comment a server sends to keep a held stream alive. -/
def keepAlive : List UInt8 :=
  ": keep-alive\n\n".toUTF8.toList

/-- The chunks a body sends after its own: a held body sends keep-alive comments. -/
def BodyEnd.trailer : BodyEnd → List (List UInt8)
  | .held => [keepAlive]
  | _ => []

/-- The text of the error of a stream whose response has a status that is no success. -/
def rejectedText (status : Nat) : String :=
  "Stream rejected with HTTP " ++ toString status

namespace Stream

/-- What the worker of a stream meets when it sends its request: the request fails, with the
text of its error, or the server answers with a status and a body. -/
inductive Answer where
  | failed (error : String)
  | responded (status : Nat) (body : Body)
  deriving Repr, Inhabited

/-- Which of a stream's handlers raise after they ran. -/
structure Handlers where
  record : Bool := false
  error : Bool := false
  close : Bool := false
  deriving Repr, Inhabited

/-- What a stream's worker works with: the answer to its request, and its handlers. -/
structure Setup where
  answer : Answer
  handlers : Handlers := {}
  deriving Repr, Inhabited

/-- A call of one of a stream's handlers. -/
inductive Happening where
  /-- The record handler is called with a record. -/
  | record (r : Sse.Record)
  /-- The error handler is called with a message. -/
  | error (message : String)
  /-- The close handler is called. -/
  | close
  deriving DecidableEq, Repr

/-- The text logged when the record handler raises. -/
def recordFailedText : String := "SSE record handler failed"

/-- The text logged when the error handler raises. -/
def errorFailedText : String := "SSE error handler failed"

/-- The text logged when the close handler raises. -/
def closeFailedText : String := "SSE close handler failed"

/-- Where the worker is. -/
inductive Worker where
  /-- Sending the request. -/
  | connecting
  /-- With the response at hand: checking for a stop, then the status. -/
  | checking (status : Nat) (body : Body)
  /-- Reading the chunks left, after which the body ends as `ending`. -/
  | reading (chunks : List (List UInt8)) (ending : BodyEnd) (parser : Sse.Parser)
  /-- Handing on the records the last chunk completed, checking for a stop before each. -/
  | delivering (records : List Sse.Record) (chunks : List (List UInt8)) (ending : BodyEnd)
      (parser : Sse.Parser)
  /-- About to call the record handler with a record, the stop checked. -/
  | calling (record : Sse.Record) (records : List Sse.Record) (chunks : List (List UInt8))
      (ending : BodyEnd) (parser : Sse.Parser)
  /-- Inside the record handler. -/
  | inRecord (records : List Sse.Record) (chunks : List (List UInt8)) (ending : BodyEnd)
      (parser : Sse.Parser)
  /-- Marking the subscription closed, with the error the worker ended with. -/
  | finishing (error : Option String)
  /-- Reporting the error unless a stop was asked for. -/
  | reporting (error : Option String)
  /-- Calling the close handler. -/
  | closing
  | ended
  deriving Repr, Inhabited

/-- A stream's subscription and its worker. -/
structure State where
  worker : Worker := .connecting
  state : StreamState := .connecting
  /-- A stop was asked for. -/
  stop : Bool := false
  /-- The handlers' calls, in order. -/
  log : List Happening := []
  /-- What was logged of handlers that raised. -/
  failures : List String := []
  deriving Repr, Inhabited

/-- The handler's call logged, and its failure if it raises. -/
def State.call (st : State) (h : Happening) (raises : Bool) (failed : String) : State :=
  { st with log := st.log ++ [h], failures := if raises then st.failures ++ [failed] else st.failures }

/-- Whether a status is a success. -/
def success (status : Nat) : Bool :=
  200 ≤ status && status < 300

/-- One step of the worker. -/
def workerStep (setup : Setup) (st : State) : State :=
  match st.worker with
  | .connecting =>
    match setup.answer with
    | .failed e => { st with worker := .finishing (reason e) }
    | .responded status body =>
      { st with worker := .checking status body, state := if st.stop then st.state else .open }
  | .checking status body =>
    if st.stop then { st with worker := .finishing none }
    else if !success status then { st with worker := .finishing (some (rejectedText status)) }
    else { st with worker := .reading body.chunks body.ending {} }
  | .reading (c :: cs) ending p =>
    if st.stop then { st with worker := .finishing none }
    else { st with worker := .delivering (p.feed (.bytes c)).1 cs ending (p.feed (.bytes c)).2 }
  | .reading [] .complete _ => { st with worker := .finishing none }
  | .reading [] (.broken e) _ => { st with worker := .finishing (reason e.text) }
  -- a held body sends a keep-alive comment, read as a chunk, until the stream is stopped
  | .reading [] .held p =>
    if st.stop then { st with worker := .finishing none }
    else { st with worker := .delivering (p.feed (.bytes keepAlive)).1 [] .held
                                         (p.feed (.bytes keepAlive)).2 }
  | .delivering (r :: rs) cs ending p =>
    if st.stop then { st with worker := .delivering rs cs ending p }
    else { st with worker := .calling r rs cs ending p }
  | .delivering [] cs ending p => { st with worker := .reading cs ending p }
  | .calling r rs cs ending p =>
    { st.call (.record r) setup.handlers.record recordFailedText with
      worker := .inRecord rs cs ending p }
  | .inRecord rs cs ending p => { st with worker := .delivering rs cs ending p }
  | .finishing err => { st with worker := .reporting err, state := .closed }
  | .reporting (some e) =>
    if st.stop then { st with worker := .closing }
    else { st.call (.error e) setup.handlers.error errorFailedText with worker := .closing }
  | .reporting none => { st with worker := .closing }
  | .closing => { st.call .close setup.handlers.close closeFailedText with worker := .ended }
  | .ended => st

/-- A stop is asked for: the subscription is closing unless it is closed already. -/
def stopStep (st : State) : State :=
  { st with stop := true, state := if st.state = .closed then .closed else .closing }

/-- A turn to move: the worker's, or a stop asked for by any thread. -/
inductive Turn where
  | worker
  | stop
  deriving DecidableEq, Repr

/-- One step of a run. -/
def step (setup : Setup) (st : State) : Turn → State
  | .worker => workerStep setup st
  | .stop => stopStep st

/-- The worker and the stops in the order of the turns. -/
def run (setup : Setup) (st : State) (turns : List Turn) : State :=
  turns.foldl (step setup) st

/-- At most how many steps the worker takes to end once a stop is asked for. -/
def Worker.left : Worker → Nat
  | .connecting => 5
  | .checking _ _ => 4
  | .reading _ _ _ => 4
  | .delivering rs _ _ _ => rs.length + 5
  | .calling _ rs _ _ _ => rs.length + 7
  | .inRecord rs _ _ _ => rs.length + 6
  | .finishing _ => 3
  | .reporting _ => 2
  | .closing => 1
  | .ended => 0

/-- The records the worker hands on when no stop is asked for: those of a body with a success
status, its chunks and a keep-alive comment after them if it is held. -/
def Setup.records (setup : Setup) : List Sse.Record :=
  match setup.answer with
  | .failed _ => []
  | .responded status body =>
    if success status then Sse.parseRecords ((body.chunks ++ body.ending.trailer).map .bytes)
    else []

/-- How many steps the worker takes, when no stop is asked for, to read every chunk of the
body and a keep-alive comment after them, or to end. -/
def Setup.steps (setup : Setup) : Nat :=
  match setup.answer with
  | .failed _ => 4
  | .responded _ body => 2 * (body.chunks.length + 1) + 3 * setup.records.length + 6

/-- The worker left to run until it has read the body, or ended. -/
def untilRead (setup : Setup) : List Turn :=
  List.replicate setup.steps .worker

/-- A stop, then the worker left to run until it has ended. -/
def stopping (st : State) : List Turn :=
  .stop :: List.replicate st.worker.left .worker

end Stream

end AgentLink.Http
