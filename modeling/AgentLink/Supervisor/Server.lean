import AgentLink.Supervisor.Startup

/-!
# Supervising a server process

A `Server` owns at most one server process and walks through its lifecycle (`ServerState`): it
starts once, from `unstarted`, by launching the binary with the options' command and environment
and waiting until the process announces that it listens (`awaitReady`). Then it runs until
stopped.

A server owns its process through a finalizer registered when it starts (`Server.finalizer`):
while that finalizer is alive the server is the owner, and the finalizer shuts the process down
when the server is stopped (`Server.stop`, gracefully, or `Server.forceStop`, at once) or
collected (`Server.collect`). A server without a live finalizer stops nothing.

Ownership moves to a new server (`Server.transfer`): the old finalizer is detached and a new one
registered for the new server, which takes the state, address and process; the old server is left
empty.

A stop takes three steps (`StopCall`): it takes the finalizer under the server's lock, shuts the
process down outside it, and takes the lock again to mark the server stopped. Calls from several
threads interleave between these steps (`Stops`); `Server.shutdown` is one call with no other
in between.

Starting fails (`SupervisorError`) when the server is not unstarted, when the binary cannot be
launched, and when the wait ends without an announcement. After a failure the server is
`stopped`, owns nothing, and the launched process has been killed and collected.
-/

namespace AgentLink

/-- The owner of at most one server process. -/
structure Server where
  options : ServerOptions
  state : ServerState := .unstarted
  /-- The id of its process, kept after the process is stopped. -/
  process : Option Nat := none
  /-- The finalizer through which it owns its process. -/
  finalizer : Option Nat := none
  url : String := ""
  hostname : String := ""
  port : Int := 0
  deriving Repr, Inhabited

namespace Server

/-- Whether the server's process is running. -/
def running (s : Server) (m : Machine) : Bool :=
  match s.process with
  | some pid => m.isRunning pid
  | none => false

/-- The process id, zero when there is no process. -/
def pid (s : Server) : Nat :=
  s.process.getD 0

/-- The server as text, its pid shown by `showPid`. -/
def describe (s : Server) (showPid : Nat → String := toString) : String :=
  "Server(url=" ++ Text.quote s.url ++ ", pid=" ++ showPid s.pid ++ ", state=" ++
    s.state.value ++ ")"

/-- Starts the server on a host: launches the binary and waits until the process announces
that it listens. On success the server runs and owns the process through a new finalizer; on a
failure after the launch the process is shut down at once. -/
def start (host : Host) (s : Server) (m : Machine) :
    Server × Machine × Except SupervisorError Unit :=
  if s.state != .unstarted then (s, m, .error (.cannotStart s.state))
  else
    match launchOn host s.options with
    | .error e => ({ s with state := .stopped }, m, .error e)
    | .ok b =>
      let (pid, m) := m.spawn
      match awaitReady s.options b pid [] b.start b.rounds m with
      | (m, .ok l) =>
        let (fid, m) := m.register pid
        ({ s with state := .running, process := some pid, finalizer := some fid, url := l.url,
                  hostname := l.hostname, port := l.port }, m, .ok ())
      | (m, .error e) => ({ s with state := .stopped }, m.shutdown false pid, .error e)

/-- Stops the owned process, gracefully or at once: the server gives up its finalizer, and if
that was alive it is detached and the process shut down. A server without a live finalizer is
left as it is. -/
def shutdown (graceful : Bool) (s : Server) (m : Machine) : Server × Machine :=
  match s.finalizer with
  | none => (s, m)
  | some fid =>
    if m.isAlive fid then
      let m := match m.detach fid with
        | (some pid, m) => m.shutdown graceful pid
        | (none, m) => m
      ({ s with finalizer := none, state := .stopped }, m)
    else ({ s with finalizer := none }, m)

/-- Stops the server gracefully. -/
def stop (s : Server) (m : Machine) : Server × Machine :=
  s.shutdown true m

/-- Stops the server at once. -/
def forceStop (s : Server) (m : Machine) : Server × Machine :=
  s.shutdown false m

/-- Waits for the process to exit and gives its status, or `-1` when there is no process. -/
def wait (s : Server) (m : Machine) : Machine × Int :=
  match s.process with
  | some pid => m.waitFor pid
  | none => (m, -1)

/-- The server is collected: its finalizer, if alive, runs. -/
def collect (s : Server) (m : Machine) : Machine :=
  match s.finalizer with
  | some fid => m.call fid
  | none => m

/-- Moves the owned process to a new server with the same options: the old finalizer is
detached and a new one registered for the new server, for the same process. The old server is
left without a process, and stopped unless it never started; a server that owns nothing hands
over a fresh server. -/
def transfer (s : Server) (m : Machine) : Server × Server × Machine :=
  let fresh : Server := { options := s.options }
  let (other, m) : Server × Machine :=
    match s.finalizer with
    | some fid =>
      if m.isAlive fid then
        match m.detach fid with
        | (some pid, m) =>
          let (fid', m) := m.register pid
          ({ fresh with process := s.process, url := s.url, hostname := s.hostname,
                        port := s.port, finalizer := some fid', state := s.state }, m)
        | (none, m) => (fresh, m)
      else (fresh, m)
    | none => (fresh, m)
  let left := { s with process := none, finalizer := none, url := "", hostname := "", port := 0,
                       state := if s.state == .unstarted then .unstarted else .stopped }
  (left, other, m)

end Server

/-! ## Stops from several threads -/

/-- Where a call of `stop` or `force_stop` is. The call takes the server's finalizer under the
server's lock, shuts the process down outside it, and takes the lock again to mark the server
stopped, so calls from several threads interleave between these steps. -/
inductive StopCall where
  /-- Called, about to take the lock. -/
  | called (graceful : Bool)
  /-- Holding the live finalizer it took from the server, about to shut the process down. -/
  | shutting (graceful : Bool) (fid : Nat)
  /-- Done with the process, about to take the lock again. -/
  | finishing
  /-- Returned at once: the server had no live finalizer. -/
  | gaveUp
  /-- Returned after marking the server stopped. -/
  | stopped
  deriving DecidableEq, Repr

/-- One step of a call on a server: taking the finalizer, and the server stopping, when the
finalizer is alive; shutting down the process of the finalizer taken; marking the server
stopped. A call that returned takes no more steps. -/
def StopCall.step (s : Server) (m : Machine) : StopCall → Server × Machine × StopCall
  | .called g =>
    match s.finalizer with
    | some fid =>
      if m.isAlive fid then ({ s with finalizer := none, state := .stopping }, m, .shutting g fid)
      else ({ s with finalizer := none }, m, .gaveUp)
    | none => (s, m, .gaveUp)
  | .shutting g fid =>
    match m.detach fid with
    | (some pid, m) => (s, m.shutdown g pid, .finishing)
    | (none, m) => (s, m, .finishing)
  | .finishing => ({ s with state := .stopped }, m, .stopped)
  | .gaveUp => (s, m, .gaveUp)
  | .stopped => (s, m, .stopped)

/-- Calls of `stop` and `force_stop` made on one server from several threads, each at its own
point, with the server and the machine they share. -/
structure Stops where
  server : Server
  machine : Machine
  calls : List StopCall

namespace Stops

/-- Calls made on a server, none of which has taken the lock yet; each is graceful or not. -/
def begin (s : Server) (m : Machine) (gs : List Bool) : Stops :=
  { server := s, machine := m, calls := gs.map .called }

/-- Call `k` takes a step; when there is no call `k`, nothing happens. -/
def step (st : Stops) (k : Nat) : Stops :=
  match st.calls[k]? with
  | some c =>
    let (s, m, c) := c.step st.server st.machine
    { server := s, machine := m, calls := st.calls.set k c }
  | none => st

/-- The calls stepping in the order of a schedule. -/
def run (st : Stops) (ks : List Nat) : Stops :=
  ks.foldl step st

end Stops

end AgentLink
