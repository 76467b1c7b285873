import AgentLink.Client.Events

/-!
# Streamed sends

A streamed send runs on two threads. The caller (`Streaming.Caller`) opens a subscription of its
own, waits for the server's greeting until the stream settles or a timeout passes, sends the
message, marks the send done, stops the stream and waits for its worker for a bounded time,
closes the transport, and reports: the reply to one callback, or the message of the send's error
to the other. The worker (`Streaming.Worker`) reads the stream's records one at a time: a
greeting settles the handshake, and a part update of the session is handed to the part callback
unless the send is done by then; when the stream ends it keeps the stream's error, unless the
stream was stopped, and marks the stream closed.

The two share a few flags (`Streaming.State`), and what the callbacks and the transport see is a
log of `Streaming.Happening`s. Each thread moves by its own step function, and a run interleaves
them in any order (`Streaming.run` over a list of `Streaming.Turn`s). Three waits are bounded:
the handshake, the join of the worker, and a caller's turn marked as timed out stands for the
end of either.

The done flag is read under the lock and released before the part callback starts, and the join
of the worker can give up, so the worker is free to call the part callback at any time before it
reaches the done flag again.

`Client.sendStreaming` runs the machine in the order a scripted server imposes
(`Streaming.serverOrder`): the server sends the whole stream before it answers the send.
-/

namespace AgentLink

/-- What a streamed send hands on: the parts as they came, and the reply or the message of
the error that stopped the send. -/
structure StreamedReply where
  parts : List Part
  outcome : Except String MessageWithParts

namespace Streaming

/-- What a record means to a streamed send. -/
inductive Role where
  /-- The server's greeting. -/
  | greeting
  /-- A part update, with its part when it can be read and belongs to the session. -/
  | update (part : Option Part)
  /-- Anything else, a record that cannot be read included. -/
  | other

/-- What the payload of a record means to a streamed send for a session: anything but an object
means nothing. -/
def roleOfPayload (session : String) (payload : Json.Value) : Role :=
  match payload with
  | .obj _ =>
    match payload.textOr "type" with
    | "server.connected" => .greeting
    | "message.part.updated" =>
      .update (match decodePartUpdate (payload.objOr "properties") with
        | .ok (.messagePartUpdated sid _ part _) => if sid == session then some part else none
        | _ => none)
    | _ => .other
  | _ => .other

/-- What the record handler of a streamed send makes of a record whose data it reads inside
`calls` calls: the record's role, or the error that escapes the handler when the data nests
deeper than the reader follows. Any other data that is no JSON text means nothing. -/
def handleAt (calls : Nat) (session : String) (r : Sse.Record) : Except Json.ReadError Role :=
  match Json.readAt calls r.data with
  | .ok payload => .ok (roleOfPayload session payload)
  | .error e => if e.isTooDeep then .error e else .ok .other

/-- What a record means to a streamed send for a session. The stream's worker catches what
escapes the handler, and such a record means nothing. -/
def roleOf (session : String) (r : Sse.Record) : Role :=
  match handleAt streamedPartReadCalls session r with
  | .ok role => role
  | .error _ => .other

/-- How the send itself ends: with the reply, with an error of the library and its text, or
with any other exception, of a class with a name, and its text. -/
inductive SendOutcome where
  | returned (m : MessageWithParts)
  | failed (text : String)
  | crashed (kind text : String)

/-- The outcome of a send that gives a reply or the text of an error of the library. -/
def SendOutcome.ofExcept : Except String MessageWithParts → SendOutcome
  | .ok m => .returned m
  | .error text => .failed text

/-- What a streamed send returns: the reply, or nothing when the send failed. -/
def SendOutcome.result : SendOutcome → Option MessageWithParts
  | .returned m => some m
  | _ => none

/-- The message a failed send reports: the text of an error of the library, and for any other
exception its text, or its class's name when the text is empty. -/
def SendOutcome.toExcept : SendOutcome → Except String MessageWithParts
  | .returned m => .ok m
  | .failed text => .error text
  | .crashed kind text => .error (if text.isEmpty then kind else text)

/-- What the callbacks and the transport of a streamed send see. -/
inductive Happening where
  /-- The part callback starts on a part. -/
  | partStarted (p : Part)
  /-- The part callback returns. -/
  | partEnded
  /-- The caller's stop of the stream returns. -/
  | streamStopped
  /-- The transport of the subscription is closed. -/
  | transportClosed
  /-- The completion callback receives the reply. -/
  | completed (m : MessageWithParts)
  /-- The error callback receives a message. -/
  | failed (message : String)

/-- The callback that reports an outcome. -/
def SendOutcome.report : SendOutcome → Happening
  | .returned m => .completed m
  | .failed text => .failed text
  | .crashed kind text => .failed (if text.isEmpty then kind else text)

/-- The part a happening starts the part callback on. -/
def Happening.startedPart? : Happening → Option Part
  | .partStarted p => some p
  | _ => none

/-- What a streamed send works with: the session whose parts it hands on, the records its
stream delivers and how the stream ends, and how the send itself ends. -/
structure Setup where
  session : String
  records : List Sse.Record
  ending : Http.StreamEnd
  outcome : SendOutcome

/-- Where the worker is. -/
inductive Worker where
  /-- Delivering the records left, or ending the stream when none is left. -/
  | delivering (rest : List Sse.Record)
  /-- Checking whether the send is done before handing on a part update. -/
  | checking (part : Option Part) (rest : List Sse.Record)
  /-- About to call the part callback. -/
  | calling (p : Part) (rest : List Sse.Record)
  /-- Inside the part callback. -/
  | inPart (rest : List Sse.Record)
  | ended

/-- Whether the worker has ended. -/
def Worker.isEnded : Worker → Bool
  | .ended => true
  | _ => false

/-- Where the caller is. -/
inductive Caller where
  /-- Waiting for the handshake to settle. -/
  | handshake
  /-- Sending the message. -/
  | sending
  /-- Marking the send done. -/
  | marking
  /-- Setting the stream's stop flag. -/
  | stopping
  /-- Waiting for the worker, for a bounded time. -/
  | joining
  /-- Closing the transport. -/
  | closing
  /-- Calling the callback that reports the outcome. -/
  | reporting
  /-- Returned, with the reply or nothing. -/
  | finished (result : Option MessageWithParts)

/-- The state of a streamed send: both threads, the flags they share, and the log. -/
structure State where
  worker : Worker
  caller : Caller := .handshake
  /-- The greeting came. -/
  connected : Bool := false
  /-- The stream's close callback ran. -/
  streamClosed : Bool := false
  /-- The stream's error callback ran with this error. -/
  streamError : Option String := none
  /-- The send is done. -/
  done : Bool := false
  /-- The stream is asked to stop. -/
  stop : Bool := false
  log : List Happening := []

/-- A streamed send before either thread moved. -/
def start (setup : Setup) : State :=
  { worker := .delivering setup.records }

/-- The worker ends its stream: it keeps the stream's error unless the stream was stopped, and
runs the close callback. -/
def State.finish (st : State) (err : Option String) : State :=
  { st with worker := .ended, streamClosed := true,
            streamError := if st.stop then st.streamError else err }

/-- One step of the worker. -/
def workerStep (setup : Setup) (st : State) : State :=
  match st.worker with
  | .delivering (r :: rest) =>
    if st.stop then st.finish none
    else match roleOf setup.session r with
      | .greeting => { st with worker := .delivering rest, connected := true }
      | .update part => { st with worker := .checking part rest }
      | .other => { st with worker := .delivering rest }
  | .delivering [] =>
    match setup.ending with
    | .closed err => st.finish err
    -- a held stream sends nothing more until it is stopped
    | .opened => if st.stop then st.finish none else st
  | .checking part rest =>
    if st.done then { st with worker := .delivering rest }
    else match part with
      | some p => { st with worker := .calling p rest }
      | none => { st with worker := .delivering rest }
  | .calling p rest => { st with worker := .inPart rest, log := st.log ++ [.partStarted p] }
  | .inPart rest => { st with worker := .delivering rest, log := st.log ++ [.partEnded] }
  | .ended => st

/-- One step of the caller; `timedOut` ends a bounded wait that has not ended otherwise. -/
def callerStep (setup : Setup) (timedOut : Bool) (st : State) : State :=
  match st.caller with
  | .handshake =>
    if st.connected || st.streamClosed || st.streamError.isSome || timedOut then
      { st with caller := .sending }
    else st
  | .sending => { st with caller := .marking }
  | .marking => { st with caller := .stopping, done := true }
  | .stopping => { st with caller := .joining, stop := true }
  | .joining =>
    if st.worker.isEnded || timedOut then
      { st with caller := .closing, log := st.log ++ [.streamStopped] }
    else st
  | .closing => { st with caller := .reporting, log := st.log ++ [.transportClosed] }
  | .reporting =>
    { st with caller := .finished setup.outcome.result, log := st.log ++ [setup.outcome.report] }
  | .finished _ => st

/-- A thread's turn to move: the worker's, or the caller's with its bounded wait timed out or
not. -/
inductive Turn where
  | worker
  | caller (timedOut : Bool)

/-- One step of a run. -/
def step (setup : Setup) (st : State) : Turn → State
  | .worker => workerStep setup st
  | .caller timedOut => callerStep setup timedOut st

/-- The threads moving in the order of the turns. -/
def run (setup : Setup) (st : State) (turns : List Turn) : State :=
  turns.foldl (step setup) st

/-- The order a scripted server imposes: it sends the whole stream before it answers the send,
so the worker reads every record first (at most four steps each, and one to end); the caller
then waits out the handshake, sends and stops the stream; the worker ends; and the join returns
after it. -/
def serverOrder (setup : Setup) : List Turn :=
  List.replicate (4 * setup.records.length + 1) .worker ++ List.replicate 4 (.caller true) ++
    [.worker] ++ List.replicate 3 (.caller false)

/-- What the callbacks of a streamed send received: the parts handed on, and the outcome. -/
def reply (setup : Setup) (st : State) : StreamedReply :=
  { parts := st.log.filterMap Happening.startedPart?
    outcome := setup.outcome.toExcept }

end Streaming

/-- Sends a message while reading the stream of events for its parts, `depth` operations
below the one the caller runs. -/
def Client.sendStreaming (c : Client) (id : String) (prompt provider model : Json.Value)
    (depth : Nat := 0) : Http.Net StreamedReply := do
  let run ← c.transport.renewed.openStream "/event" []
  let sent ← (c.sendMessage id prompt provider model (depth + streamedSendDepth)).run
  let setup : Streaming.Setup :=
    { session := id, records := run.records, ending := run.ending
      outcome := .ofExcept (sent.mapError ClientError.message) }
  return Streaming.reply setup (Streaming.run setup (Streaming.start setup)
    (Streaming.serverOrder setup))

end AgentLink
