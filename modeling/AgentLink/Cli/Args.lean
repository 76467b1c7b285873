import AgentLink.Text.Integer

/-!
# The command line

The program's command line (`Cli.parse`) is a group of five commands behind one flag:

* the flag `--verbose`, or `-v`, comes only before the command;
* `serve` launches a server and keeps it running; it takes `--port` or `-p` with an integer,
  `--hostname` with a text, and the flag `--mdns`;
* `health`, `sessions` and `events` ask a server; each takes `--url` or `-u` with a URL;
* `chat PROMPT` sends a prompt; it takes `--url` or `-u`, `--session` or `-s`, `--provider`,
  and `--model` or `-m`.

Options are read the usual way: `--name value`, `--name=value`, `-n value` and `-nvalue`; a
short flag may be grouped with others; arguments and options may mix after the command, and
`--` ends the options. A value is taken from the next argument even when that looks like an
option. An option given twice keeps its last value. Anything else is a usage error
(`Cli.UsageError`).
-/

namespace AgentLink.Cli

/-- A command and its options. -/
inductive Command where
  | serve (port : Int) (hostname : String) (mdns : Bool)
  | health (url : Option String)
  | sessions (url : Option String)
  | events (url : Option String)
  | chat (prompt : String) (url session provider model : Option String)
  deriving DecidableEq, Repr, Inhabited

/-- A command line as read. -/
structure Invocation where
  verbose : Bool := false
  command : Command
  deriving DecidableEq, Repr, Inhabited

/-- Why a command line is not understood. -/
inductive UsageError where
  /-- No command is given. -/
  | noCommand
  /-- Help is asked for. -/
  | help
  | noSuchCommand (name : String)
  | noSuchOption (name : String)
  | needsArgument (name : String)
  | takesNoValue (name : String)
  | missingArgument (name : String)
  | extraArguments (args : List String)
  | notAnInteger (names value : String)
  deriving DecidableEq, Repr

/-- The message of a usage error. -/
def UsageError.message : UsageError → String
  | .noCommand => "Missing command."
  | .help => ""
  | .noSuchCommand n => "No such command '" ++ n ++ "'."
  | .noSuchOption n => "No such option: " ++ n
  | .needsArgument n => "Option '" ++ n ++ "' requires an argument."
  | .takesNoValue n => "Option '" ++ n ++ "' does not take a value."
  | .missingArgument n => "Missing argument '" ++ n ++ "'."
  | .extraArguments [a] => "Got unexpected extra argument (" ++ a ++ ")"
  | .extraArguments as => "Got unexpected extra arguments (" ++ " ".intercalate as ++ ")"
  | .notAnInteger names v => "Invalid value for " ++ names ++ ": '" ++ v ++ "' is not a valid integer."

/-- An option a command takes: the setting it gives, its names, and whether it is a flag,
which takes no value. -/
structure OptionSpec where
  key : String
  names : List String
  flag : Bool := false
  deriving Repr, Inhabited

/-- The option of a name. -/
def lookupOption (specs : List OptionSpec) (name : String) : Option OptionSpec :=
  specs.find? (·.names.contains name)

/-- What reading the arguments gives: the settings in order, and the other arguments. -/
structure Reading where
  settings : List (String × String) := []
  rest : List String := []
  deriving Repr, Inhabited

/-- Adds a setting before those read after it. -/
def Reading.set (r : Reading) (key value : String) : Reading :=
  { r with settings := (key, value) :: r.settings }

/-- Adds an argument before those read after it. -/
def Reading.arg (r : Reading) (a : String) : Reading :=
  { r with rest := a :: r.rest }

/-- The flags at the start of a group of short options, the characters after its dash, and
the first option of the group that takes a value, with its name and the characters after it. -/
def shortGroup (specs : List OptionSpec) :
    List Char → Except UsageError (List String × Option (String × OptionSpec × List Char))
  | [] => .ok ([], none)
  | c :: cs =>
    let name := "-" ++ String.singleton c
    match lookupOption specs name with
    | none => .error (.noSuchOption name)
    | some spec =>
      if spec.flag then (fun (fs, v) => (spec.key :: fs, v)) <$> shortGroup specs cs
      else .ok ([], some (name, spec, cs))

/-- Reads arguments against the options `specs`. With `mixed`, arguments may come between
options; without it reading stops at the first argument. -/
def readArgs (specs : List OptionSpec) (mixed : Bool) : List String → Except UsageError Reading
  | [] => .ok {}
  | "--" :: rest => .ok { rest }
  | arg :: rest =>
    if arg.startsWith "--" then
      let (name, value?) := match arg.splitOn "=" with
        | n :: v :: vs => (n, some ("=".intercalate (v :: vs)))
        | _ => (arg, none)
      if name == "--help" then .error .help
      else match lookupOption specs name, value? with
        | none, _ => .error (.noSuchOption name)
        | some spec, some v =>
          if spec.flag then .error (.takesNoValue name)
          else (·.set spec.key v) <$> readArgs specs mixed rest
        | some spec, none =>
          if spec.flag then (·.set spec.key "true") <$> readArgs specs mixed rest
          else match rest with
            | v :: rest' => (·.set spec.key v) <$> readArgs specs mixed rest'
            | [] => .error (.needsArgument name)
    else if arg.startsWith "-" && arg.length > 1 then
      match shortGroup specs (arg.toList.drop 1) with
      | .error e => .error e
      | .ok (flags, none) =>
        (fun r => flags.foldr (fun k r => r.set k "true") r) <$> readArgs specs mixed rest
      | .ok (flags, some (name, spec, more)) =>
        let withFlags (r : Reading) := flags.foldr (fun k r => r.set k "true") r
        if !more.isEmpty then
          (fun r => withFlags (r.set spec.key (String.ofList more))) <$> readArgs specs mixed rest
        else match rest with
          | v :: rest' => (fun r => withFlags (r.set spec.key v)) <$> readArgs specs mixed rest'
          | [] => .error (.needsArgument name)
    else if mixed then (·.arg arg) <$> readArgs specs mixed rest
    else .ok { rest := arg :: rest }

/-- The last value of a setting, if it was given. -/
def Reading.get? (r : Reading) (key : String) : Option String :=
  (r.settings.reverse.find? (·.1 == key)).map Prod.snd

/-- The options of the group, before the command. -/
def groupOptions : List OptionSpec :=
  [{ key := "verbose", names := ["--verbose", "-v"], flag := true }]

/-- The option of a server URL. -/
def urlOption : OptionSpec :=
  { key := "url", names := ["--url", "-u"] }

/-- The options of each command. -/
def commandOptions : String → Option (List OptionSpec)
  | "serve" => some [{ key := "port", names := ["--port", "-p"] },
      { key := "hostname", names := ["--hostname"] },
      { key := "mdns", names := ["--mdns"], flag := true }]
  | "health" | "sessions" | "events" => some [urlOption]
  | "chat" => some [urlOption, { key := "session", names := ["--session", "-s"] },
      { key := "provider", names := ["--provider"] }, { key := "model", names := ["--model", "-m"] }]
  | _ => none

/-- The port a server listens on when none is given. -/
def defaultPort : Int := 4096

/-- The host name a server binds when none is given. -/
def defaultHostname : String := "127.0.0.1"

/-- Fails when arguments are left over. -/
def noneLeft (args : List String) : Except UsageError Unit :=
  if args.isEmpty then .ok () else .error (.extraArguments args)

/-- The command of a name and its arguments. -/
def readCommand (name : String) (args : List String) : Except UsageError Command := do
  let some specs := commandOptions name | throw (.noSuchCommand name)
  let r ← readArgs specs true args
  match name with
  | "serve" =>
    let port ← match r.get? "port" with
      | some v => match Text.Integer.read? v with
        | some p => pure p
        | none => throw (.notAnInteger "'--port' / '-p'" v)
      | none => pure defaultPort
    noneLeft r.rest
    return .serve port ((r.get? "hostname").getD defaultHostname) (r.get? "mdns").isSome
  | "chat" =>
    match r.rest with
    | [] => throw (.missingArgument "PROMPT")
    | prompt :: more =>
      noneLeft more
      return .chat prompt (r.get? "url") (r.get? "session") (r.get? "provider") (r.get? "model")
  | "health" => noneLeft r.rest; return .health (r.get? "url")
  | "sessions" => noneLeft r.rest; return .sessions (r.get? "url")
  | _ => noneLeft r.rest; return .events (r.get? "url")

/-- Reads a command line: the group's flag, then the command and its arguments. -/
def parse (args : List String) : Except UsageError Invocation := do
  if args.isEmpty then throw .noCommand
  let r ← readArgs groupOptions false args
  match r.rest with
  | [] => throw .noCommand
  | name :: more =>
    return { verbose := (r.get? "verbose").isSome, command := ← readCommand name more }

end AgentLink.Cli
