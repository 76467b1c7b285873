import AgentLink.Resource.Decode

/-!
# Timestamps

The times the server records on a resource, in milliseconds: when it was created and last
updated, and, where they apply, when it started compacting, was archived or completed.
-/

namespace AgentLink

/-- The times of a resource; the optional ones are `none` when the server sent none. -/
structure Timestamps where
  created : Int := 0
  updated : Int := 0
  compacting : Option Int := none
  archived : Option Int := none
  completed : Option Int := none
  deriving DecidableEq, Repr

/-- Reads timestamps; anything but an object gives the default times. -/
def Timestamps.decode (v : Json.Value) : Except DecodeError Timestamps :=
  match v with
  | .obj _ => do
    let created ← v.intOr "created"
    let updated ← v.intOr "updated"
    let compacting ← v.optInt "compacting"
    let archived ← v.optInt "archived"
    let completed ← v.optInt "completed"
    pure { created, updated, compacting, archived, completed }
  | _ => pure {}

/-- Reads the timestamps under the key `time`. -/
def Timestamps.decodeField (v : Json.Value) : Except DecodeError Timestamps :=
  Timestamps.decode ((v.get? "time").getD .null)

end AgentLink
