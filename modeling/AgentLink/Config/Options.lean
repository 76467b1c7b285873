import AgentLink.Json.Literal
import AgentLink.Text.Blank
import AgentLink.Text.Real
import AgentLink.Decimal.Integral
import AgentLink.Supervisor.Options

/-!
# Client options from raw settings

Settings arrive as raw values under lower-case keys (`RawSettings`), from a configuration file,
a `.env` file or the environment. `ClientOptions.ofRaw` turns them into the options of a client:

* a text setting is the value's text, stripped of blanks; an empty text is no setting;
* a whole-number setting is read as a real number and cut toward zero; a missing or blank value
  takes the default, a text that is no number or NaN is refused (`ConfigError.invalidInteger`),
  and an infinite one overflows;
* a password gives basic authentication, with the user `opencode` when no user name is set; a
  user name without a password is refused.

`ClientOptions.serverOptions` gives the options of the private server a client launches when it
has no base URL: any free port, and the startup timeout in seconds.
-/

namespace AgentLink

/-- Raw settings under lower-case keys, in order; a later key hides an earlier one. -/
abbrev RawSettings := List (String × Json.Value)

/-- The value of a key, the last one given. -/
def RawSettings.get? (raw : RawSettings) (key : String) : Option Json.Value :=
  (raw.reverse.find? (·.1 == key)).map Prod.snd

/-- How to reach or launch a server. -/
structure ClientOptions where
  baseUrl : Option String := none
  opencodePath : String := "opencode"
  directory : Option String := none
  startupTimeoutMs : Int := 10000
  basicAuth : Option (String × String) := none
  defaultProvider : Option String := none
  defaultModel : Option String := none
  connectionTimeout : Int := 30
  readTimeout : Int := 300
  deriving Repr, Inhabited

/-- Why raw settings give no client options. -/
inductive ConfigError where
  /-- A user name is set and no password. -/
  | userWithoutPassword
  /-- A whole-number setting is no number: the key and the value as the program shows it. -/
  | invalidInteger (key shown : String)
  /-- A whole-number setting is infinite. -/
  | infiniteInteger
  /-- A whole-number setting is an integer too large for a float. -/
  | integerTooLarge
  /-- A whole-number setting is a value of a kind that is no number at all. -/
  | notANumber (kind : String)
  deriving DecidableEq, Repr

/-- The message of a configuration error. -/
def ConfigError.message : ConfigError → String
  | .userWithoutPassword => "A username was configured without a password."
  | .invalidInteger key shown => "Invalid integer for '" ++ key ++ "': " ++ shown
  | .infiniteInteger => "cannot convert float infinity to integer"
  | .integerTooLarge => "int too large to convert to float"
  | .notANumber kind => "float() argument must be a string or a real number, not '" ++ kind ++ "'"

/-- Whether a configuration error is a refused value, which the command line reports, rather
than an arithmetic failure. -/
def ConfigError.isReported : ConfigError → Bool
  | .userWithoutPassword | .invalidInteger .. => true
  | _ => false

/-- A text setting: the value's text stripped of blanks, none when empty. -/
def RawSettings.text? (raw : RawSettings) (key : String) : Option String :=
  let s := Text.strip ((raw.get? key).getD (.str "")).display
  if s.isEmpty then none else some s

/-- A number cut toward zero as a setting: NaN refused under the key with the value shown. -/
def truncateSetting (key : String) (v : Json.Value) (t : Except Decimal.TruncateError Int) :
    Except ConfigError Int :=
  match t with
  | .ok n => .ok n
  | .error .infinite => .error .infiniteInteger
  | .error .notANumber => .error (.invalidInteger key v.literal)

/-- A whole-number setting, or its default when missing or blank. -/
def RawSettings.int (raw : RawSettings) (key : String) (default : Int) : Except ConfigError Int :=
  match raw.get? key with
  | none | some .null => .ok default
  | some v =>
    if (Text.strip v.display).isEmpty then .ok default
    else match v with
      | .str s =>
        match Text.readReal? s with
        | some r => truncateSetting key v r.truncate
        | none => .error (.invalidInteger key v.literal)
      | .int n =>
        match Decimal.floatOfInt? n with
        | some x => truncateSetting key v (Decimal.truncate x)
        | none => .error .integerTooLarge
      | .float x => truncateSetting key v (Decimal.truncate x)
      | .bool b => .ok (if b then 1 else 0)
      | v => .error (.notANumber v.kindName)

/-- The client options of raw settings. -/
def ClientOptions.ofRaw (raw : RawSettings) : Except ConfigError ClientOptions := do
  let user := raw.text? "username"
  let password := raw.text? "password"
  let basicAuth ← match password, user with
    | some p, u => pure (some (u.getD "opencode", p))
    | none, some _ => throw .userWithoutPassword
    | none, none => pure none
  let startupTimeoutMs ← raw.int "startup_timeout_ms" 10000
  let connectionTimeout ← raw.int "connection_timeout" 30
  let readTimeout ← raw.int "read_timeout" 300
  return { baseUrl := raw.text? "base_url"
           opencodePath := (raw.text? "opencode_path").getD "opencode"
           directory := raw.text? "directory"
           startupTimeoutMs, basicAuth
           defaultProvider := raw.text? "default_provider"
           defaultModel := raw.text? "default_model"
           connectionTimeout, readTimeout }

/-- A number of milliseconds in seconds. -/
def millisToSeconds (ms : Int) : Float :=
  (Decimal.floatOfInt? ms).getD (1.0 / 0.0) / 1000.0

/-- The options of the private server a client launches: any free port, the client's binary,
credentials and directory, and its startup timeout in seconds. -/
def ClientOptions.serverOptions (o : ClientOptions) : ServerOptions :=
  { binary := o.opencodePath
    port := 0
    username := o.basicAuth.map Prod.fst
    password := o.basicAuth.map Prod.snd
    workingDirectory := o.directory
    startupTimeout := millisToSeconds o.startupTimeoutMs }

end AgentLink
