import AgentLink.Resource.Decode

/-!
# Server health

The answer of the server's health check: whether it is healthy, and its version.
-/

namespace AgentLink

/-- The server's health. -/
structure HealthInfo where
  healthy : Bool := false
  version : String := ""
  deriving DecidableEq, Repr

/-- Reads a health answer; the server is healthy only when `healthy` is exactly `true`. -/
def HealthInfo.decode (v : Json.Value) : Except DecodeError HealthInfo := do
  let _ ← v.requireObject "health"
  let healthy := match v.get? "healthy" with
    | some (.bool true) => true
    | _ => false
  pure { healthy, version := v.textOr "version" }

end AgentLink
