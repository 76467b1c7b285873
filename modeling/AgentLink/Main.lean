import AgentLink.Cli.Run

/-!
# The program

The command line runs the commands of `AgentLink.Cli` on this machine as the program can see
it: it reads the settings file in the user's configuration directory, the environment file in
the working directory and the override variables of the environment. It launches no other
program, so every binary counts as missing, and it opens no connection, so no server answers.
-/

namespace AgentLink

/-- The machine as the program sees it: no binary can be launched, and every directory is
taken to exist. -/
def offlineHost : Host :=
  { launch := fun _ => .missing, isDirectory := fun _ => true }

/-- A network on which no server answers. -/
def offlineNetwork : Http.Script :=
  { fallback := .fail { fault := .connect, message := "[Errno 101] Network is unreachable" } }

/-- The exit status of an exit code, modulo 256. -/
def exitStatus (code : Int) : UInt32 :=
  (code % 256).toNat.toUInt32

end AgentLink

/-- The text of a file, if it can be read. -/
def readIfThere (path : String) : IO (Option String) := do
  try
    return some (← IO.FS.readFile path)
  catch _ =>
    return none

/-- Runs the command line and prints what it prints; an error that stops the program is
printed on standard error. -/
def main (args : List String) : IO UInt32 := do
  let mut environment : List (String × String) := []
  for (var, _) in AgentLink.envOverrides do
    if let some v ← IO.getEnv var then environment := environment ++ [(var, v)]
  let home := (← IO.getEnv "HOME").getD ""
  let settingsPath := home ++ "/.config/opencodepy/config.cfg"
  let world : AgentLink.Cli.World :=
    { host := AgentLink.offlineHost, environment
      settingsName := "PosixPath('" ++ settingsPath ++ "')"
      settingsFile := ← readIfThere settingsPath
      dotenvFile := ← readIfThere ".env" }
  let out := AgentLink.Cli.outcomeOn world AgentLink.offlineNetwork args
  IO.print out.stdout
  IO.eprint out.stderr
  if let some c := out.crash then IO.eprintln c.message
  return AgentLink.exitStatus out.exitCode
