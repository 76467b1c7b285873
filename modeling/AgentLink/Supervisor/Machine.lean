/-!
# Processes and finalizers

A supervisor launches processes on a machine (`Machine`) and leaves it to finalizers to end them.
The machine keeps each process by its id, running or exited with a status (`ProcessStatus`), and
the finalizers registered so far (`Finalizer`), each known by its place in the registry.

A finalizer promises to shut its process down once. Calling it (`Machine.call`) keeps the
promise if the finalizer is still alive; detaching it (`Machine.detach`) lets it die without
running and hands back the process it was for. Either way it is dead afterwards, so no finalizer
runs twice.

The shutdown procedure (`Machine.shutdown`) ends a running process, by a termination signal
when there is a grace period (the program ends on it, with status `-15`) or by a kill signal at
once (status `-9`), and then collects its exit status. The machine records every run of it, so
that how often a process was shut down can be read off (`Machine.shutdowns`).
-/

namespace AgentLink

/-- Whether a process is still running, or the status it exited with and that was collected. -/
inductive ProcessStatus where
  | alive
  | exited (code : Int)
  deriving DecidableEq, Repr, Inhabited

/-- The exit status of a terminated process. -/
def terminatedStatus : Int := -15

/-- The exit status of a killed process. -/
def killedStatus : Int := -9

/-- A finalizer registered for a process: while alive, it shuts the process down, once. -/
structure Finalizer where
  pid : Nat
  alive : Bool := true
  deriving DecidableEq, Repr, Inhabited

/-- The processes launched on a machine, the finalizers registered for them, and the runs of
the shutdown procedure. -/
structure Machine where
  /-- The id the next process launched gets. -/
  nextPid : Nat := 1
  /-- The status of each process launched, by id; `none` for an id that no process has. -/
  processes : Nat → Option ProcessStatus := fun _ => none
  /-- The finalizers registered, in order; a finalizer is known by its place. -/
  finalizers : List Finalizer := []
  /-- The processes the shutdown procedure ran on, in order. -/
  shutdowns : List Nat := []

namespace Machine

/-- Whether the process `pid` is running. -/
def isRunning (m : Machine) (pid : Nat) : Bool :=
  m.processes pid == some .alive

/-- The machine with the process `pid` in the status `st`. -/
def setStatus (m : Machine) (pid : Nat) (st : ProcessStatus) : Machine :=
  { m with processes := fun q => if q = pid then some st else m.processes q }

/-- Launches a process: it gets the next id and runs. -/
def spawn (m : Machine) : Nat × Machine :=
  (m.nextPid, { m.setStatus m.nextPid .alive with nextPid := m.nextPid + 1 })

/-- The process exits by itself with `code`, unless it is not running. -/
def exit (m : Machine) (pid : Nat) (code : Int) : Machine :=
  if m.isRunning pid then m.setStatus pid (.exited code) else m

/-- Waits for a process to exit and gives its status; a running program ends by itself with
status zero. -/
def waitFor (m : Machine) (pid : Nat) : Machine × Int :=
  match m.processes pid with
  | some (.exited c) => (m, c)
  | _ => (m.exit pid 0, 0)

/-- The shutdown procedure: a running process is ended by a termination signal when there is a
grace period and by a kill signal otherwise, then its status is collected. The run is recorded. -/
def shutdown (graceful : Bool) (pid : Nat) (m : Machine) : Machine :=
  let m := if m.isRunning pid then
      m.setStatus pid (.exited (if graceful then terminatedStatus else killedStatus))
    else m
  { m with shutdowns := m.shutdowns ++ [pid] }

/-- Registers a finalizer for the process `pid`; it is known by the number returned. -/
def register (pid : Nat) (m : Machine) : Nat × Machine :=
  (m.finalizers.length, { m with finalizers := m.finalizers ++ [{ pid }] })

/-- The process the finalizer `fid` is for, while the finalizer is alive. -/
def target (m : Machine) (fid : Nat) : Option Nat :=
  match m.finalizers[fid]? with
  | some f => if f.alive then some f.pid else none
  | none => none

/-- Whether the finalizer `fid` is alive. -/
def isAlive (m : Machine) (fid : Nat) : Bool :=
  (m.target fid).isSome

/-- Detaches a finalizer: it is dead afterwards, without having run, and the process it was for
is given back if it was alive. -/
def detach (fid : Nat) (m : Machine) : Option Nat × Machine :=
  (m.target fid, { m with finalizers := m.finalizers.modify fid fun f => { f with alive := false } })

/-- Calls a finalizer: if it was alive it dies and shuts its process down, with a grace
period. -/
def call (fid : Nat) (m : Machine) : Machine :=
  match m.detach fid with
  | (some pid, m) => m.shutdown true pid
  | (none, m) => m

end Machine

end AgentLink
