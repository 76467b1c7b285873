import AgentLink.Supervisor.Server

/-!
# A fleet of servers

The servers a program holds on one machine (`Fleet`): the first one, and every one a transfer
returns, in order. Each command (`Fleet.Command`) acts on one of them by its place: start it,
stop it gracefully or at once, wait for its process, transfer its process to a new server at
the end of the fleet, or let it be collected, after which its place is empty and the commands
on it do nothing.
-/

namespace AgentLink

/-- Servers held by a program, by place; a collected server leaves its place empty. -/
structure Fleet where
  servers : List (Option Server)
  machine : Machine

namespace Fleet

/-- A fleet of one unstarted server. -/
def single (o : ServerOptions) (m : Machine) : Fleet :=
  { servers := [some { options := o }], machine := m }

/-- The server at place `i`, if there is one. -/
def server? (f : Fleet) (i : Nat) : Option Server :=
  f.servers[i]?.join

/-- The fleet with `s` at place `i`, and the machine `m`. -/
def put (f : Fleet) (i : Nat) (s : Server) (m : Machine) : Fleet :=
  { servers := f.servers.set i (some s), machine := m }

/-- Starts the server at place `i`, and gives how the start went; nothing happens when the place
is empty. -/
def start (host : Host) (i : Nat) (f : Fleet) : Fleet × Option (Except SupervisorError Unit) :=
  match f.server? i with
  | some s => let (s, m, r) := s.start host f.machine; (f.put i s m, some r)
  | none => (f, none)

/-- Stops the server at place `i`, gracefully or at once. -/
def shutdown (graceful : Bool) (i : Nat) (f : Fleet) : Fleet :=
  match f.server? i with
  | some s => let (s, m) := s.shutdown graceful f.machine; f.put i s m
  | none => f

/-- Waits for the process of the server at place `i`, and gives its status; nothing happens
when the place is empty. -/
def wait (i : Nat) (f : Fleet) : Fleet × Option Int :=
  match f.server? i with
  | some s => let (m, c) := s.wait f.machine; ({ f with machine := m }, some c)
  | none => (f, none)

/-- Transfers the process of the server at place `i` to a new server at the end of the fleet. -/
def transfer (i : Nat) (f : Fleet) : Fleet :=
  match f.server? i with
  | some s =>
    let (left, other, m) := s.transfer f.machine
    { servers := f.servers.set i (some left) ++ [some other], machine := m }
  | none => f

/-- The server at place `i` is collected. -/
def collect (i : Nat) (f : Fleet) : Fleet :=
  match f.server? i with
  | some s => { servers := f.servers.set i none, machine := s.collect f.machine }
  | none => f

/-- What a program does with one of its servers. -/
inductive Command where
  | start (i : Nat)
  | stop (i : Nat)
  | forceStop (i : Nat)
  | wait (i : Nat)
  | transfer (i : Nat)
  | collect (i : Nat)
  deriving DecidableEq, Repr

/-- The fleet after a command. -/
def apply (host : Host) (f : Fleet) : Command → Fleet
  | .start i => (f.start host i).1
  | .stop i => f.shutdown true i
  | .forceStop i => f.shutdown false i
  | .wait i => (f.wait i).1
  | .transfer i => f.transfer i
  | .collect i => f.collect i

/-- The fleet after a sequence of commands. -/
def run (host : Host) (f : Fleet) (cs : List Command) : Fleet :=
  cs.foldl (apply host) f

end Fleet

end AgentLink
