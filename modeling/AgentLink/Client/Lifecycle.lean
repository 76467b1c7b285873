import AgentLink.Channel
import AgentLink.Event.Basic

/-!
# Subscriptions and the closing of a client, under calls from many threads

A client keeps the event streams it opened in a registry (`Lifecycle.Machine.register`), and
two of its calls act on it, from any thread (`Lifecycle.Op`):

- a subscription makes a stream on a transport of its own, whose channel has a close hook that
  stops that transport, and starts the stream's worker; then, under the client's lock, it drops
  the closed streams from the registry, adds its own, and gives the stream back;
- a close, under the lock, marks the client closed and takes the registry, leaving it empty,
  unless the client was closed already, when it returns at once; then, outside the lock, it
  closes each stream it took, and last closes the client's own transport.

Closing a stream's channel takes its hook, under the channel's lock, when the channel was open;
the thread that took it runs it outside that lock, stopping the stream's transport. A stream's
worker reads until its stream ends, because the server ended it, it failed or its transport was
stopped, and then closes the channel itself (`Lifecycle.Worker`). The server may end a stream at
any moment, so a worker's step may come at any time.

Each call moves through its places (`Lifecycle.Place`) by its own steps, each worker by its
own, and a run interleaves them in any order (`Lifecycle.run` over a list of
`Lifecycle.Turn`s). The events a worker puts into its channel change nothing here and are left
out; so is the server a client may own, which its close stops last.
-/

namespace AgentLink

namespace Lifecycle

/-- What a call on the client does. -/
inductive Op where
  | subscribe
  | close
  deriving DecidableEq, Repr

/-- Where a stream's worker is. -/
inductive Worker where
  /-- Reading the stream. -/
  | reading
  /-- The stream ended, and the worker closed the channel and took its hook: about to stop the
  stream's transport. -/
  | hooking
  | ended
  deriving DecidableEq, Repr

/-- A stream the client opened: its channel, whether its transport was stopped, and where its
worker is. -/
structure Sub where
  channel : Channel Event := Channel.fresh true
  stopped : Bool := false
  worker : Worker := .reading

/-- Where a call is. -/
inductive Place where
  /-- The call has done nothing yet. -/
  | start
  /-- A subscription, its stream `i` made and its worker started: about to register it. -/
  | registering (i : Nat)
  /-- A close, with the streams it took that it has still to close. -/
  | closing (left : List Nat)
  /-- A close that took the hook of stream `i`: about to stop its transport, then to close the
  streams `left`. -/
  | hooking (i : Nat) (left : List Nat)
  /-- A close returned. -/
  | returned
  /-- A subscription returned, giving back stream `i`. -/
  | gave (i : Nat)
  deriving DecidableEq, Repr

/-- A call: what it does and where it is. -/
structure Call where
  op : Op
  place : Place := .start

/-- The client: whether it is closed, the streams it keeps, every stream it made, by number, the
calls on it, and how many times its own transport was closed. -/
structure Machine where
  closed : Bool := false
  register : List Nat := []
  subs : List Sub := []
  calls : List Call := []
  ownCloses : Nat := 0

/-- Whether closing the stream's channel now takes its hook: the channel is open and its hook
still waits. -/
def Sub.takesHook (s : Sub) : Bool :=
  !s.channel.closed && s.channel.hooked

/-- The stream with its channel closed. -/
def Sub.shut (s : Sub) : Sub :=
  { s with channel := s.channel.close }

/-- The stream with its transport stopped, which is what its close hook does. -/
def Sub.stop (s : Sub) : Sub :=
  { s with stopped := true }

/-- One step of a stream's worker: once the stream ends it closes the channel, and runs the hook
if it took it. -/
def Sub.workerStep (s : Sub) : Sub :=
  match s.worker with
  | .reading => { s.shut with worker := if s.takesHook then .hooking else .ended }
  | .hooking => { s.stop with worker := .ended }
  | .ended => s

/-- Whether stream `i` is open. -/
def Machine.isOpen (m : Machine) (i : Nat) : Bool :=
  m.subs[i]?.any fun s => !s.channel.closed

/-- Call `c` moves to a place. -/
def Machine.moveCall (m : Machine) (c : Nat) (call : Call) (place : Place) : Machine :=
  { m with calls := m.calls.set c { call with place } }

/-- One step of call `c`. -/
def callStep (m : Machine) (c : Nat) : Machine :=
  match m.calls[c]? with
  | none => m
  | some call =>
    match call.place with
    | .start =>
      match call.op with
      | .subscribe =>
        { m.moveCall c call (.registering m.subs.length) with subs := m.subs ++ [{}] }
      | .close =>
        if m.closed then m.moveCall c call .returned
        else { m.moveCall c call (.closing m.register) with closed := true, register := [] }
    | .registering i =>
      { m.moveCall c call (.gave i) with register := m.register.filter m.isOpen ++ [i] }
    | .closing [] => { m.moveCall c call .returned with ownCloses := m.ownCloses + 1 }
    | .closing (i :: left) =>
      { m.moveCall c call
          (if m.subs[i]?.any Sub.takesHook then .hooking i left else .closing left) with
        subs := m.subs.modify i Sub.shut }
    | .hooking i left =>
      { m.moveCall c call (.closing left) with subs := m.subs.modify i Sub.stop }
    | .returned | .gave _ => m

/-- One step of the worker of stream `i`. -/
def workerStep (m : Machine) (i : Nat) : Machine :=
  { m with subs := m.subs.modify i Sub.workerStep }

/-- A thread's turn to move: a call's or a worker's. -/
inductive Turn where
  | call (c : Nat)
  | worker (i : Nat)

/-- One step of a run. -/
def step (m : Machine) : Turn → Machine
  | .call c => callStep m c
  | .worker i => workerStep m i

/-- The calls and the workers moving in the order of the turns. -/
def run (m : Machine) (turns : List Turn) : Machine :=
  turns.foldl step m

/-- The calls of `ops` on an open client, before any of them moved. -/
def Machine.init (ops : List Op) : Machine :=
  { calls := ops.map fun op => { op } }

end Lifecycle

end AgentLink
