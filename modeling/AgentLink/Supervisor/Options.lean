/-!
# Options of a server process

How to launch a server (`ServerOptions`): the binary, the host name and port to listen on, and
whether to announce itself by mDNS go on its command line (`ServerOptions.command`); a
configuration in JSON and the credentials go into its environment
(`ServerOptions.environment`), so that no secret appears among the arguments.
-/

namespace AgentLink

/-- How to launch a server. -/
structure ServerOptions where
  binary : String := "opencode"
  hostname : String := "127.0.0.1"
  port : Int := 4096
  mdns : Bool := false
  configJson : Option String := none
  username : Option String := none
  password : Option String := none
  workingDirectory : Option String := none
  /-- Seconds to wait for the server to announce that it listens. -/
  startupTimeout : Float := 30.0
  deriving Repr, Inhabited

/-- The arguments after the binary. -/
def ServerOptions.command (o : ServerOptions) : List String :=
  ["serve", "--hostname", o.hostname, "--port", toString o.port] ++
    (if o.mdns then ["--mdns"] else [])

/-- The variables set in the server's environment, in order. -/
def ServerOptions.environment (o : ServerOptions) : List (String × String) :=
  (o.configJson.map fun c => ("OPENCODE_CONFIG_CONTENT", c)).toList ++
  (o.password.map fun p => ("OPENCODE_SERVER_PASSWORD", p)).toList ++
  (o.username.map fun u => ("OPENCODE_SERVER_USERNAME", u)).toList

end AgentLink
