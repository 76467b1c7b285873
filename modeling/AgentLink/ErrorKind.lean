import AgentLink.Json.Literal
import AgentLink.Decimal.Integral

/-!
# The family of errors

Every error the library raises is of a kind (`ErrorKind`), and the kinds form a tree under one
root: failures of the network (`transport`), of the server process (`server`), of the protocol
(`protocol`), and answers of the server with a status other than success (`api`).
`ErrorKind.lineage` is the path from a kind up to the root.

An error is built from positional values (`ErrorKind.build`), and its message follows from
them:

* a kind with no values of its own shows nothing for no value, a single value as itself, and
  several as a parenthesised list of literals;
* an `api` error takes a message, a status and an optional body, and shows
  `message (HTTP status)`;
* a startup timeout takes the seconds waited, shown with one decimal place, and the output
  seen so far;
* an exit during startup takes the exit code and the output seen so far.

Too few or too many values, seconds that are no number, or whole seconds beyond the largest
float, are refused (`BuildError`).
-/

namespace AgentLink

/-- A kind of error the library raises. -/
inductive ErrorKind where
  | root
  | transport
  | connectionFailed
  | transportTimeout
  | server
  | serverSpawn
  | startupTimeout
  | processExited
  | protocol
  | malformedRecord
  | protocolMismatch
  | malformedResponse
  | api
  | notFound
  deriving DecidableEq, Repr, Inhabited

/-- The name of a kind. -/
def ErrorKind.name : ErrorKind → String
  | .root => "OpencodeError"
  | .transport => "TransportError"
  | .connectionFailed => "ConnectionFailed"
  | .transportTimeout => "TransportTimeout"
  | .server => "ServerError"
  | .serverSpawn => "ServerSpawnError"
  | .startupTimeout => "StartupTimeout"
  | .processExited => "ProcessExitedDuringStartup"
  | .protocol => "ProtocolError"
  | .malformedRecord => "MalformedRecord"
  | .protocolMismatch => "ProtocolMismatch"
  | .malformedResponse => "MalformedResponse"
  | .api => "APIError"
  | .notFound => "NotFound"

/-- Every kind. -/
def ErrorKind.all : List ErrorKind :=
  [.root, .transport, .connectionFailed, .transportTimeout, .server, .serverSpawn,
    .startupTimeout, .processExited, .protocol, .malformedRecord, .protocolMismatch,
    .malformedResponse, .api, .notFound]

/-- The kind of a name. -/
def ErrorKind.ofName? (s : String) : Option ErrorKind :=
  ErrorKind.all.find? (·.name == s)

/-- The kind directly above, none for the root. -/
def ErrorKind.parent : ErrorKind → Option ErrorKind
  | .root => none
  | .transport | .server | .protocol | .api => some .root
  | .connectionFailed | .transportTimeout => some .transport
  | .serverSpawn | .startupTimeout | .processExited => some .server
  | .malformedRecord | .protocolMismatch | .malformedResponse => some .protocol
  | .notFound => some .api

/-- The kind and those above it, up to the root. -/
def ErrorKind.lineage : ErrorKind → List ErrorKind
  | .root => [.root]
  | k@(.transport) | k@(.server) | k@(.protocol) | k@(.api) => [k, .root]
  | k@(.connectionFailed) | k@(.transportTimeout) => [k, .transport, .root]
  | k@(.serverSpawn) | k@(.startupTimeout) | k@(.processExited) => [k, .server, .root]
  | k@(.malformedRecord) | k@(.protocolMismatch) | k@(.malformedResponse) => [k, .protocol, .root]
  | .notFound => [.notFound, .api, .root]

theorem ErrorKind.lineage_head (k : ErrorKind) : (k.lineage.head?) = some k := by
  cases k <;> rfl

/-- Why an error cannot be built from the values given. -/
inductive BuildError where
  /-- Required values are missing: the constructor's owner and their names. -/
  | missing (owner : String) (names : List String)
  /-- Too many values: the bounds on the count, and the count, each with the error itself. -/
  | tooMany (owner : String) (least most given : Nat)
  /-- The seconds are a text, which has no decimal places. -/
  | textSeconds
  /-- The seconds are a value of a kind that has no decimal format at all. -/
  | unformattable (kind : String)
  /-- The seconds are a whole number beyond the largest float. -/
  | tooLarge
  deriving DecidableEq, Repr

/-- The names in a message: `'a'`, `'a' and 'b'`. -/
def quotedNames : List String → String
  | [] => ""
  | [a] => "'" ++ a ++ "'"
  | [a, b] => "'" ++ a ++ "' and '" ++ b ++ "'"
  | a :: rest => "'" ++ a ++ "', " ++ quotedNames rest

/-- The message of a build error. -/
def BuildError.message : BuildError → String
  | .missing owner names =>
    owner ++ ".__init__() missing " ++ toString names.length ++ " required positional argument" ++
      (if names.length == 1 then "" else "s") ++ ": " ++ quotedNames names
  | .tooMany owner least most given =>
    owner ++ ".__init__() takes from " ++ toString least ++ " to " ++ toString most ++
      " positional arguments but " ++ toString given ++ " were given"
  | .textSeconds => "Unknown format code 'f' for object of type 'str'"
  | .unformattable kind => "unsupported format string passed to " ++ kind ++ ".__format__"
  | .tooLarge => "int too large to convert to float"

/-- How a build error is classed: a value of the wrong type, a value of the right type that
cannot be shown, or a number out of range. -/
inductive BuildErrorClass where
  | type
  | value
  | range
  deriving DecidableEq, Repr

/-- The class of a build error. -/
def BuildError.errorClass : BuildError → BuildErrorClass
  | .textSeconds => .value
  | .tooLarge => .range
  | _ => .type

/-- An error built: its kind, message and the attributes it carries. -/
structure Raised where
  kind : ErrorKind
  message : String
  attrs : List (String × Json.Value)

/-- The message of values given to a kind with none of its own: nothing, the value itself,
or the parenthesised list of their literals. -/
def plainMessage : List Json.Value → String
  | [] => ""
  | [v] => v.display
  | vs => "(" ++ ", ".intercalate (vs.map Json.Value.literal) ++ ")"

/-- Seconds with one decimal place, a tie going to the even neighbour. -/
def secondsText : Json.Value → Except BuildError String
  | .float x => .ok (Decimal.fixedText x 1)
  | .int n => match Decimal.floatOfInt? n with
    | some x => .ok (Decimal.fixedText x 1)
    | none => .error .tooLarge
  | .bool b => .ok (if b then "1.0" else "0.0")
  | .str _ => .error .textSeconds
  | v => .error (.unformattable v.kindName)

/-- Checks the count of values: at least the required names, at most `most`. -/
def arity (owner : String) (required : List String) (most : Nat) (args : List Json.Value) :
    Except BuildError Unit :=
  if args.length < required.length then .error (.missing owner (required.drop args.length))
  else if most < args.length then .error (.tooMany owner (required.length + 1) (most + 1) (args.length + 1))
  else .ok ()

/-- Builds an error of a kind from positional values. -/
def ErrorKind.build (k : ErrorKind) (args : List Json.Value) : Except BuildError Raised :=
  match k with
  | .api | .notFound => do
    arity "APIError" ["message", "status"] 3 args
    let msg := args.getD 0 .null
    let status := args.getD 1 .null
    let body := args.getD 2 .null
    return { kind := k, message := msg.display ++ " (HTTP " ++ status.display ++ ")",
             attrs := [("status", status), ("body", body)] }
  | .startupTimeout => do
    arity "StartupTimeout" ["timeout"] 2 args
    let timeout := args.getD 0 .null
    let output := args.getD 1 (.str "")
    let secs ← secondsText timeout
    return { kind := k,
             message := "Server startup timeout: did not detect listening message within " ++
               secs ++ "s. Output: " ++ output.display,
             attrs := [("timeout", timeout), ("output", output)] }
  | .processExited => do
    arity "ProcessExitedDuringStartup" ["exit_code"] 2 args
    let code := args.getD 0 .null
    let output := args.getD 1 (.str "")
    return { kind := k,
             message := "Server process exited during startup with code " ++ code.display ++
               ". Output: " ++ output.display,
             attrs := [("exit_code", code), ("output", output)] }
  | k => return { kind := k, message := plainMessage args, attrs := [] }

end AgentLink
