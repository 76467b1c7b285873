import AgentLink.Config.Ini
import AgentLink.Config.Dotenv

/-!
# Raw settings from their sources

Raw settings (`loadSettings`) come from three sources, each overriding the one before:

1. the environment file, as the environment-file library reads it (`SettingSources.readDotenv`,
   by default `Dotenv.values`), where a key that is one of the override variables up to case
   stands for that variable's setting and any other key is lower-cased; keys without a value
   are skipped;
2. the settings file: its defaults, then its `AUTH` section, with references expanded;
3. the override variables of the environment (`envOverrides`), those whose value is not blank.
-/

namespace AgentLink

/-- The environment variables that override a setting, with the setting's key, in the order
they are applied. -/
def envOverrides : List (String × String) :=
  [("OPENCODE_BASE_URL", "base_url"), ("OPENCODE_BINARY", "opencode_path"),
   ("OPENCODE_DIRECTORY", "directory"), ("OPENCODE_STARTUP_TIMEOUT_MS", "startup_timeout_ms"),
   ("OPENCODE_SERVER_USERNAME", "username"), ("OPENCODE_SERVER_PASSWORD", "password")]

/-- The section of the settings file that holds credentials. -/
def authSection : String := "AUTH"

/-- What raw settings are read from. -/
structure SettingSources where
  /-- The settings file as messages name it. -/
  fileName : String
  /-- The text of the settings file, if there is one. -/
  file : Option String := none
  /-- The text of the environment file, if one is read. -/
  dotenv : Option String := none
  /-- The environment. -/
  environment : List (String × String) := []
  /-- The entries the environment-file library reads from a file's text against the
  environment, in order, each key once, with its value if it has one. -/
  readDotenv : List (String × String) → String → List (String × Option String) := Dotenv.values
  deriving Inhabited

/-- Why raw settings cannot be read. -/
inductive LoadError where
  | read (e : Ini.ReadError)
  | lookup (e : Ini.LookupError)
  deriving DecidableEq, Repr

/-- The message of a loading error. -/
def LoadError.message : LoadError → String
  | .read e => e.message
  | .lookup e => e.message

/-- The setting an environment-file key stands for: the override variable's setting when the
key is that variable up to case, else the key in lower case. -/
def dotenvKey (key : String) : String :=
  match envOverrides.find? (fun (v, _) => Text.upperAsciiText? key == some v) with
  | some (_, raw) => raw
  | none => Text.lower key

/-- Sets every pair of a list into a table, in order. -/
def setAll (t : List (String × String)) (ps : List (String × String)) : List (String × String) :=
  ps.foldl (fun t (k, v) => Dotenv.setKey t k v) t

/-- The settings of the entries of the environment file. -/
def dotenvSettings (entries : List (String × Option String)) : List (String × String) :=
  entries.foldl (fun t (k, v) =>
    match v with
    | some v => Dotenv.setKey t (dotenvKey k) v
    | none => t) []

/-- The settings of the settings file: its defaults, then its `AUTH` section. -/
def fileSettings (name text : String) : Except LoadError (List (String × String)) := do
  let s ← (Ini.read name text).mapError .read
  let defaults ← (s.items Ini.defaultSection).mapError .lookup
  let auth ← if s.hasSection authSection then (s.items authSection).mapError .lookup else pure []
  return setAll (defaults.map fun (k, v) => (Text.lower k, v)) (auth.map fun (k, v) => (Text.lower k, v))

/-- The settings the override variables give: those whose value is not blank. -/
def environmentSettings (env : List (String × String)) : List (String × String) :=
  envOverrides.filterMap fun (var, raw) =>
    match env.find? (·.1 == var) with
    | some (_, v) => if (Text.strip v).isEmpty then none else some (raw, v)
    | none => none

/-- The raw settings of the sources, each overriding the one before. -/
def loadSettings (src : SettingSources) : Except LoadError (List (String × String)) := do
  let fromDotenv := (src.dotenv.map fun text =>
    dotenvSettings (src.readDotenv src.environment text)).getD []
  let fromFile ← match src.file with
    | some text => fileSettings src.fileName text
    | none => pure []
  return setAll (setAll fromDotenv fromFile) (environmentSettings src.environment)

end AgentLink
