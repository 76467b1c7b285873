import AgentLink.Cli.Args
import AgentLink.Client.Connect
import AgentLink.Client.Streaming
import AgentLink.Config.Load
import AgentLink.Terminal.Console
import AgentLink.Terminal.Table

/-!
# Running a command

A command runs on a `Cli.World`: the machine servers are launched on, the environment it reads
its settings from, and the network its requests go over. Its `Cli.Outcome` is the exit code and
what it printed on standard output and standard error.

Every command first reads its settings (`loadSettings`) from the settings file, the environment
file and the environment; a value that is refused is reported as a configuration error with
exit code 1, while a settings file that cannot be read, a number too large for the program, or
a port of too many digits, stops it with that error (`Cli.Crash`). A command given a
URL talks to that server instead of the configured one.

* `serve` launches a server with the command's host name, port and mDNS flag and the settings'
  binary, credentials, directory and startup timeout, and waits for it to exit; the exit code is
  the server's, or 1 when that is zero.
* `health`, `sessions`, `events` and `chat` connect a client (`connectClient`) and report a
  connection error with exit code 1. `health` prints whether the server is healthy and its
  version; `sessions` prints a table of the sessions; `events` prints each event until the
  stream ends; `chat` sends the prompt to the given session, or to a new one named after the
  prompt's first fifty characters, prints the reply as it streams in, and reports the first
  error.
-/

namespace AgentLink.Cli

/-- Where a command runs. -/
structure World where
  /-- The machine servers are launched on. -/
  host : Host
  /-- The HTTP library clients drive. -/
  library : Http.Library := .reference
  /-- The environment variables. -/
  environment : List (String × String) := []
  /-- The settings file as messages name it. -/
  settingsName : String := ""
  /-- The text of the settings file, if there is one. -/
  settingsFile : Option String := none
  /-- The text of the environment file in the working directory, if there is one. -/
  dotenvFile : Option String := none
  /-- How the environment-file library reads a file against the environment. -/
  readDotenv : List (String × String) → String → List (String × Option String) := Dotenv.values
  /-- The process id a launched server gets. -/
  pid : Nat := 1
  /-- Whether the console paints in colour. -/
  console : Console := {}

/-- An error that stops the program. -/
inductive Crash where
  /-- A setting cannot be read as a number. -/
  | options (e : ConfigError)
  /-- The settings file cannot be read. -/
  | settings (e : LoadError)
  /-- A port has more digits than an integer text may have. -/
  | tooManyDigits (e : Text.Integer.TooManyDigits)
  deriving Repr

/-- The message of an error that stops the program. -/
def Crash.message : Crash → String
  | .options e => e.message
  | .settings e => e.message
  | .tooManyDigits e => e.message

/-- What a command did. -/
structure Outcome where
  exitCode : Int
  stdout : String := ""
  stderr : String := ""
  /-- The error that stopped the program, when it did not end by itself. -/
  crash : Option Crash := none
  deriving Repr

/-- A failure: the message on standard error and exit code 1. -/
def Outcome.failure (stdout message : String) : Outcome :=
  { exitCode := 1, stdout, stderr := message ++ "\n" }

/-- The client options of the environment, with the URL given on the command line. -/
def loadOptions (w : World) (url : Option String) : Except Outcome ClientOptions :=
  let sources : SettingSources :=
    { fileName := w.settingsName, file := w.settingsFile, dotenv := w.dotenvFile
      environment := w.environment, readDotenv := w.readDotenv }
  match loadSettings sources with
  | .error e => .error { exitCode := 1, crash := some (.settings e) }
  | .ok raw =>
  match ClientOptions.ofRaw (raw.map fun (k, v) => (k, .str v)) with
  | .error e =>
    if e.isReported then .error (.failure "" ("Error loading configuration: " ++ e.message))
    else .error { exitCode := 1, crash := some (.options e) }
  | .ok o =>
    match url with
    | some u => if u.isEmpty then .ok o else .ok { o with baseUrl := some u }
    | none => .ok o

/-- Launches a server and waits for it to exit. -/
def runServe (w : World) (port : Int) (hostname : String) (mdns : Bool) : Outcome :=
  match loadOptions w none with
  | .error out => out
  | .ok o =>
    let so : ServerOptions :=
      { binary := o.opencodePath, hostname, port, mdns
        username := o.basicAuth.map Prod.fst, password := o.basicAuth.map Prod.snd
        workingDirectory := o.directory, startupTimeout := millisToSeconds o.startupTimeoutMs }
    match ({ options := so } : Server).start w.host { nextPid := w.pid } with
    | (_, _, .error (.tooManyDigits e)) => { exitCode := 1, crash := some (.tooManyDigits e) }
    | (_, _, .error e) => .failure "" ("Error starting server: " ++ e.message)
    | (s, m, .ok ()) =>
      let out := w.console.say .success
          ("Server listening on " ++ s.url ++ " (pid " ++ toString s.pid ++ ")") ++
        w.console.say .dim "Press Ctrl-C to stop."
      let (_, code) := s.wait m
      { exitCode := if code == 0 then 1 else code, stdout := out
        stderr := "Server exited with code " ++ toString code ++ "\n" }

/-- The version as shown, `unknown` when it is empty. -/
def shownVersion (v : String) : String :=
  if v.isEmpty then "unknown" else v

/-- Asks the server for its health. -/
def runHealth (w : World) (c : Client) : Http.Net Outcome := do
  match ← c.health.run with
  | .error e => return .failure "" ("Error: " ++ e.message)
  | .ok info =>
    let version := " (version " ++ shownVersion info.version ++ ")"
    if info.healthy then return { exitCode := 0, stdout := w.console.say .success ("healthy" ++ version) }
    else return { exitCode := 1, stdout := w.console.say .error ("unhealthy" ++ version) }

/-- Lists the sessions as a table. -/
def runSessions (c : Client) : Http.Net Outcome := do
  match ← c.listSessions.run with
  | .error e => return .failure "" ("Error: " ++ e.message)
  | .ok [] => return { exitCode := 0, stdout := "No sessions\n" }
  | .ok items =>
    let table : Table := { title := "Sessions", headers := ["ID", "Title", "Directory"]
                           rows := items.map fun s => [s.id, s.title, s.directory] }
    return { exitCode := 0, stdout := String.join (table.render.map (· ++ "\n")) }

/-- Prints the events of a stream until it ends. -/
def runEvents (w : World) (c : Client) : Http.Net Outcome := do
  let ch ← c.openEvents
  let out := String.join (ch.items.map w.console.event)
  match ch.closed, ch.error with
  | true, some err => return .failure out ("Event stream closed: " ++ err)
  | _, _ => return { exitCode := 0, stdout := out }

/-- The text a streamed part prints: the text of a delta. -/
def deltaText : Part → Option String
  | .text p => if p.isDelta then some p.text else none
  | _ => none

/-- Sends a prompt and prints the reply as it streams in. -/
def runChat (w : World) (c : Client) (prompt : String) (session provider model : Option String) :
    Http.Net Outcome := do
  let text (s : Option String) : Json.Value := (s.map Json.Value.str).getD .null
  let title : Json.Value := .str (String.ofList (prompt.toList.take 50))
  let existing := session.filter (!·.isEmpty)
  let opened ← match existing with
    | some id => (c.getSession id).run
    | none => (c.createSession title).run
  match opened with
  | .error e => return .failure "" ("Error: " ++ e.message)
  | .ok s =>
    let head := w.console.say .dim ("[session " ++ s.id ++ "]")
    let reply ← c.sendStreaming s.id (.str prompt) (text provider) (text model)
    let deltas := reply.parts.filterMap deltaText
    match reply.outcome with
    | .ok m =>
      let body := String.join deltas ++ (if deltas.isEmpty then m.text else "") ++ "\n"
      return { exitCode := 0, stdout := head ++ body }
    | .error e => return .failure (head ++ String.join deltas) ("Error: " ++ e)

/-- Connects a client and runs a command with it; the connection is closed afterwards. -/
def withClient (w : World) (url : Option String) (body : Client → Http.Net Outcome) :
    Http.Net Outcome := do
  match loadOptions w url with
  | .error out => return out
  | .ok o =>
    match ← connectClient w.host w.library w.pid o with
    | .error (.tooManyDigits e) | .error (.server (.tooManyDigits e)) =>
      return { exitCode := 1, crash := some (.tooManyDigits e) }
    | .error e => return .failure "" ("Error connecting to server: " ++ e.message)
    | .ok conn => body conn.client

/-- Runs a command. -/
def run (w : World) : Command → Http.Net Outcome
  | .serve port hostname mdns => pure (runServe w port hostname mdns)
  | .health url => withClient w url (runHealth w)
  | .sessions url => withClient w url runSessions
  | .events url => withClient w url (runEvents w)
  | .chat prompt url session provider model =>
    withClient w url fun c => runChat w c prompt session provider model

/-- The outcome of a usage error: the usage and the error on standard error, exit code 2; help
goes to standard output with exit code 0. -/
def usageOutcome (e : UsageError) : Outcome :=
  match e with
  | .help | .noCommand =>
    { exitCode := if e == .help then 0 else 2,
      stdout := "Usage: [OPTIONS] COMMAND [ARGS]...\n" }
  | e => { exitCode := 2, stderr := "Usage: [OPTIONS] COMMAND [ARGS]...\n\nError: " ++ e.message ++ "\n" }

/-- Reads a command line and runs it. -/
def main (w : World) (args : List String) : Http.Net Outcome :=
  match parse args with
  | .error e => pure (usageOutcome e)
  | .ok inv => run w inv.command

/-- What a command line does on a network that starts as `net`. -/
def outcomeOn (w : World) (net : Http.Script) (args : List String) : Outcome :=
  (Id.run ((main w args).run net)).1

end AgentLink.Cli
