import AgentLink.Http.Stream

/-!
# The streams of one transport, under calls from many threads

A transport holds at most one subscription at a time (`Streams.Machine.held`), and each
subscription it makes has a worker of its own (`Stream.State`), whose thread is started once
the subscription is installed. Three calls act on them, from any thread, the workers' own
handlers included (`Streams.Op`):

- a stop takes the held subscription under the lock, if there is one, and asks its worker to
  stop; then, outside the lock, it waits for the worker for a bounded time, unless the worker's
  thread is the one that called. Waiting for a worker whose thread was not started yet raises;
- a start stops the stream first; then it makes a subscription, installs it under the lock in a
  second critical section, and starts its worker's thread;
- a close stops the stream first, then closes the transport's own calls.

Each call moves through its places (`Streams.Place`) by its own steps, each worker by the steps
of `Stream.workerStep`, and a run interleaves them in any order (`Streams.run` over a list of
`Streams.Turn`s). A call's turn while it waits for a worker may be marked as timed out: the
bounded wait gives up. Closing the response of a stopped worker only makes it see the stop
sooner, so it is left out.
-/

namespace AgentLink.Http

namespace Streams

/-- What a call on the transport does. -/
inductive Op where
  /-- Starts a stream whose worker works with `setup`. -/
  | start (setup : Stream.Setup)
  | stop
  | close

/-- Where a call is. -/
inductive Place where
  /-- About to take the held subscription under the lock: the call has done nothing yet. -/
  | taking
  /-- Waiting for the worker of subscription `i`, which it asked to stop. -/
  | joining (i : Nat)
  /-- A start, its stop done: about to make its subscription. -/
  | creating
  /-- About to install subscription `i` under the lock. -/
  | installing (i : Nat)
  /-- About to start the thread of subscription `i`'s worker. -/
  | launching (i : Nat)
  /-- A close, its stop done: about to close the transport's own calls. -/
  | closingCalls
  | returned
  /-- Raised: the worker it was to wait for had no thread started yet. -/
  | raised

/-- A call: what it does, the subscription whose worker's thread makes it from a handler
(`none` for any other thread), and where it is. -/
structure Call where
  op : Op
  thread : Option Nat := none
  place : Place := .taking

/-- A subscription: what its worker works with, where the worker stands, and whether its
thread was started. -/
structure Sub where
  setup : Stream.Setup
  worker : Stream.State := {}
  started : Bool := false

/-- The transport's streams: every subscription it made, by number, the one it holds, the
calls on it, and whether its own calls are closed. -/
structure Machine where
  subs : List Sub := []
  held : Option Nat := none
  calls : List Call := []
  callsClosed : Bool := false

/-- Where a call goes once its stop is done. -/
def Op.afterStop : Op → Place
  | .start _ => .creating
  | .stop => .returned
  | .close => .closingCalls

/-- Whether a subscription's worker has ended. -/
def Sub.ended (s : Sub) : Bool :=
  match s.worker.worker with
  | .ended => true
  | _ => false

/-- Whether a subscription's worker is running: its thread was started and has not ended. -/
def Sub.running (s : Sub) : Bool :=
  s.started && !s.ended

/-- A stop asked of a subscription's worker. -/
def Sub.askStop (s : Sub) : Sub :=
  { s with worker := Stream.stopStep s.worker }

/-- A step of a subscription's worker, once its thread was started. -/
def Sub.advance (s : Sub) : Sub :=
  if s.started then { s with worker := Stream.workerStep s.setup s.worker } else s

/-- Call `c` moves to a place. -/
def Machine.moveCall (m : Machine) (c : Nat) (call : Call) (place : Place) : Machine :=
  { m with calls := m.calls.set c { call with place } }

/-- One step of call `c`; `timedOut` ends a wait for a worker that has not ended. -/
def callStep (m : Machine) (c : Nat) (timedOut : Bool) : Machine :=
  match m.calls[c]? with
  | none => m
  | some call =>
    match call.place with
    | .taking =>
      match m.held with
      | none => m.moveCall c call call.op.afterStop
      | some i =>
        { m.moveCall c call (.joining i) with held := none, subs := m.subs.modify i Sub.askStop }
    | .joining i =>
      -- a worker's own thread does not wait for itself
      if call.thread = some i then m.moveCall c call call.op.afterStop
      else
        match m.subs[i]? with
        | none => m
        | some s =>
          if !s.started then m.moveCall c call .raised
          else if s.ended || timedOut then m.moveCall c call call.op.afterStop
          else m
    | .creating =>
      match call.op with
      | .start setup =>
        { m.moveCall c call (.installing m.subs.length) with subs := m.subs ++ [{ setup }] }
      | _ => m
    | .installing i => { m.moveCall c call (.launching i) with held := some i }
    | .launching i =>
      { m.moveCall c call .returned with
        subs := m.subs.modify i fun s => { s with started := true } }
    | .closingCalls => { m.moveCall c call .returned with callsClosed := true }
    | .returned | .raised => m

/-- One step of the worker of subscription `i`, once its thread was started. -/
def workerStep (m : Machine) (i : Nat) : Machine :=
  { m with subs := m.subs.modify i Sub.advance }

/-- A thread's turn to move: a call's, with its wait for a worker timed out or not, or a
worker's. -/
inductive Turn where
  | call (c : Nat) (timedOut : Bool)
  | worker (i : Nat)

/-- One step of a run. -/
def step (m : Machine) : Turn → Machine
  | .call c timedOut => callStep m c timedOut
  | .worker i => workerStep m i

/-- The calls and the workers moving in the order of the turns. -/
def run (m : Machine) (turns : List Turn) : Machine :=
  turns.foldl step m

/-- The calls of `ops`, each made by the thread given with it, before any of them moved. -/
def Machine.init (ops : List (Op × Option Nat)) : Machine :=
  { calls := ops.map fun (op, thread) => { op, thread } }

end Streams

end AgentLink.Http
