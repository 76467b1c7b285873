import AgentLink.Resource.Time

/-!
# Projects

A project is a working tree the server knows: its id and path, its version control system, a
display name, its times and the sandboxes made from it.
-/

namespace AgentLink

/-- A project as the server describes it. -/
structure Project where
  id : String
  worktree : String := ""
  vcs : Option String := none
  name : Option String := none
  time : Timestamps := {}
  sandboxes : List String := []
  deriving DecidableEq, Repr

/-- Reads a project; the sandboxes are the texts of the `sandboxes` list. -/
def Project.decode (v : Json.Value) : Except DecodeError Project := do
  let _ ← v.requireObject "project"
  let time ← Timestamps.decodeField v
  pure {
    id := v.textOr "id"
    worktree := v.textOr "worktree"
    vcs := v.optText "vcs"
    name := v.optText "name"
    time
    sandboxes := v.texts "sandboxes" }

end AgentLink
