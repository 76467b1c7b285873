import AgentLink.Supervisor.Readiness
import AgentLink.Supervisor.Machine
import AgentLink.Text.Quote
import AgentLink.Decimal.Layout

/-!
# Waiting for a server to come up

A server starts by launching its binary on a host (`Host`, `Launch`) and then waiting, round by
round, for the process to announce that it listens (`awaitReady`). What the supervisor sees of
the launched program is its behaviour (`Behaviour`): the clock's reading when the wait begins,
then in each round (`Round`) the clock's reading at the top of the round and, within the poll
interval, the line the output gives if one comes, whether the program exits meanwhile, and
whether an interrupt arrives. After its last round the program prints nothing more and exits;
every round it prints before it exits stays readable after the exit.

A round of the wait, in order:

* When the clock shows that the startup timeout has elapsed, the wait fails
  (`SupervisorError.startupTimeout`) with the lines read so far, after the process is shut down.
* An interrupt ends the wait (`SupervisorError.interrupted`).
* A line read is kept. If it announces where the server listens (`detectListening`), the wait
  ends: with the announcement while the program runs, as an exit during startup otherwise.
  A line that names too long a port ends the wait as well.
* With no line, the wait goes on while the program runs, and ends as an exit otherwise.

An exit during startup (`SupervisorError.exitedDuringStartup`) carries the program's exit status
and its output: the lines read, then what the output still held.
-/

namespace AgentLink

/-- Where a server is in its lifecycle. -/
inductive ServerState where
  | unstarted
  | spawning
  | awaitingReady
  | running
  | stopping
  | stopped
  deriving DecidableEq, Repr, Inhabited

/-- The name of a state. -/
def ServerState.value : ServerState → String
  | .unstarted => "unstarted"
  | .spawning => "spawning"
  | .awaitingReady => "awaiting_ready"
  | .running => "running"
  | .stopping => "stopping"
  | .stopped => "stopped"

/-- Why a server does not start. -/
inductive SupervisorError where
  /-- Only an unstarted server starts. -/
  | cannotStart (state : ServerState)
  /-- The binary could not be launched: the error number, its text and the path it names. -/
  | spawnFailed (binary : String) (errno : Nat) (reason path : String)
  /-- No announcement within the timeout, in seconds; with the output read. -/
  | startupTimeout (timeout : Float) (output : String)
  /-- The process exited before the server was up; with its status and output. -/
  | exitedDuringStartup (code : Int) (output : String)
  /-- An announcement names a port of more digits than an integer text may have. -/
  | tooManyDigits (e : Text.Integer.TooManyDigits)
  /-- An interrupt arrived while the supervisor waited. -/
  | interrupted
  deriving Repr, Inhabited

/-- The message of a supervisor error. -/
def SupervisorError.message : SupervisorError → String
  | .cannotStart s => "Server cannot start from state " ++ s.value
  | .spawnFailed binary errno reason path =>
    "Failed to launch " ++ binary ++ ": [Errno " ++ toString errno ++ "] " ++ reason ++ ": " ++
      Text.quote path
  | .startupTimeout t output =>
    "Server startup timeout: did not detect listening message within " ++
      Decimal.fixedText t 1 ++ "s. Output: " ++ output
  | .exitedDuringStartup code output =>
    "Server process exited during startup with code " ++ toString code ++ ". Output: " ++ output
  | .tooManyDigits e => e.message
  | .interrupted => ""

/-- One round of the wait for a server: the clock's reading at its top, in seconds, and within
the poll interval the line the output gives, if one comes, whether the program exits, and
whether an interrupt arrives. -/
structure Round where
  clock : Float
  line : Option String := none
  exits : Bool := false
  interrupted : Bool := false
  deriving Repr, Inhabited

/-- What a launched program does while the supervisor waits for it: the clock's reading when the
wait begins, the rounds, and the status the program exits with. After its rounds the program
prints nothing more and exits. -/
structure Behaviour where
  start : Float := 0
  rounds : List Round := []
  code : Int := 0
  deriving Repr, Inhabited

/-- What launching a binary does: nothing is found under its name, the file found may not be
run, or it runs, behaving as its arguments and environment make it. -/
inductive Launch where
  | missing
  | denied
  | runs (behave : List String → List (String × String) → Behaviour)

/-- The machine servers are launched on. -/
structure Host where
  /-- What launching a binary of this name does. -/
  launch : String → Launch
  /-- Whether a directory of this name exists. -/
  isDirectory : String → Bool

/-- Launches the options' binary on a host, in the working directory if one is set: what the
program does, or why it could not be launched. -/
def launchOn (host : Host) (o : ServerOptions) : Except SupervisorError Behaviour := do
  if let some d := o.workingDirectory then
    if !host.isDirectory d then throw (.spawnFailed o.binary 2 "No such file or directory" d)
  match host.launch o.binary with
  | .missing => throw (.spawnFailed o.binary 2 "No such file or directory" o.binary)
  | .denied => throw (.spawnFailed o.binary 13 "Permission denied" o.binary)
  | .runs behave => return behave o.command o.environment

/-- The lines the rounds give: what the output holds when they are not read. -/
def unread (rounds : List Round) : List String :=
  rounds.filterMap (·.line)

/-- The wait ends with the program exited: its status is collected, and the failure carries the
lines read and the lines the output still holds. -/
def exitedDuring (pid : Nat) (read : List String) (rest : List Round) (m : Machine) :
    Machine × Except SupervisorError Listening :=
  let (m, code) := m.waitFor pid
  (m, .error (.exitedDuringStartup code (String.join (read ++ unread rest))))

/-- The wait ends because the startup timeout elapsed: the process is shut down at once, and
the failure carries the lines read. -/
def timedOut (o : ServerOptions) (pid : Nat) (read : List String) (m : Machine) :
    Machine × Except SupervisorError Listening :=
  (m.shutdown false pid, .error (.startupTimeout o.startupTimeout (String.join read)))

/-- How a round of the wait turns out: the wait ends, with the machine and its result, or goes
on with the lines read and the machine. -/
inductive Turn where
  | done (w : Machine × Except SupervisorError Listening)
  | next (read : List String) (m : Machine)

/-- One round `r` of the wait for the process `pid`, after the lines `read`; `rest` are the
rounds after it, whose lines an exit leaves unread. -/
def waitRound (o : ServerOptions) (b : Behaviour) (pid : Nat) (read : List String) (r : Round)
    (rest : List Round) (m : Machine) : Turn :=
  if o.startupTimeout ≤ r.clock - b.start then .done (timedOut o pid read m)
  else
    let m := if r.exits then m.exit pid b.code else m
    if r.interrupted then .done (m, .error .interrupted)
    else
      match r.line with
      | some line =>
        match detectListening line o with
        | .error e => .done (m, .error (.tooManyDigits e))
        | .ok (some l) =>
          if m.isRunning pid then .done (m, .ok l)
          else .done (exitedDuring pid (read ++ [line]) rest m)
        | .ok none => .next (read ++ [line]) m
      | none => if m.isRunning pid then .next read m else .done (exitedDuring pid read rest m)

/-- The wait for the process `pid` to announce where the server listens, over the rounds of the
program's behaviour `b`: `read` holds the lines read so far and `now` the clock's last reading.
After the last round the program has exited. -/
def awaitReady (o : ServerOptions) (b : Behaviour) (pid : Nat) :
    List String → Float → List Round → Machine → Machine × Except SupervisorError Listening
  | read, now, [], m =>
    if o.startupTimeout ≤ now - b.start then timedOut o pid read m
    else exitedDuring pid read [] (m.exit pid b.code)
  | read, _, r :: rs, m =>
    match waitRound o b pid read r rs m with
    | .done w => w
    | .next read m => awaitReady o b pid read r.clock rs m

end AgentLink
