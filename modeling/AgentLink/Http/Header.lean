import AgentLink.Text.Ascii

/-!
# Header lists

Headers are a list of name and value pairs in the order they were given (`Http.Headers`).
Names compare without regard to ASCII case; the same name may occur twice. The operations are
those a request is built with: `Http.Headers.update` lets one list override another name by
name, `Http.Headers.set` puts one value in place of all of a name's values, and
`Http.Headers.setDefault` adds a header only when its name is missing.

On the wire, names and values are ASCII (`Http.Headers.checkAscii`). The server sees each name
in lower case once, with the values of a name joined by a comma and a space in their order
(`Http.Headers.merged`).
-/

namespace AgentLink.Http

/-- Header names and values, in order. -/
abbrev Headers := List (String × String)

/-- A text in ASCII lower case. -/
def lowerAscii (s : String) : String :=
  String.ofList (s.toList.map Char.toLower)

/-- Whether two header names are the same name. -/
def sameName (a b : String) : Bool :=
  lowerAscii a == lowerAscii b

namespace Headers

/-- Whether a header of the name is present. -/
def has (hs : Headers) (name : String) : Bool :=
  hs.any fun h => sameName h.1 name

/-- The list without the headers of the name. -/
def erase (hs : Headers) (name : String) : Headers :=
  hs.filter fun h => !sameName h.1 name

/-- The headers of `hs` whose names `newer` does not have, followed by all of `newer`. -/
def update (hs newer : Headers) : Headers :=
  hs.filter (fun h => !Headers.has newer h.1) ++ newer

/-- One value for a name: it takes the place of the name's first header and the others go; a
name not present is added at the end. -/
def set (hs : Headers) (name value : String) : Headers :=
  if hs.has name then
    let (before, after) := hs.span fun h => !sameName h.1 name
    before ++ (name, value) :: erase (after.drop 1) name
  else hs ++ [(name, value)]

/-- Adds a header when its name is missing. -/
def setDefault (hs : Headers) (name value : String) : Headers :=
  if hs.has name then hs else hs ++ [(name, value)]

/-- Checks that every name and value is ASCII, each name before its value, in order. -/
def checkAscii : Headers → Except Text.AsciiError Unit
  | [] => .ok ()
  | (n, v) :: hs => do
    Text.checkAscii n
    Text.checkAscii v
    checkAscii hs

/-- The values of a name, in order. -/
def valuesOf (hs : Headers) (name : String) : List String :=
  (hs.filter fun h => sameName h.1 name).map Prod.snd

/-- The names in lower case, each once, in the order of their first header. -/
def names (hs : Headers) : List String :=
  hs.foldl (fun acc h => let n := lowerAscii h.1; if acc.contains n then acc else acc ++ [n]) []

/-- Each name once, in lower case, with its values joined by a comma and a space. -/
def merged (hs : Headers) : Headers :=
  hs.names.map fun n => (n, ", ".intercalate (hs.valuesOf n))

/-- The merged headers sorted by name. -/
def sorted (hs : Headers) : Headers :=
  hs.merged.mergeSort fun a b => !decide (b.1 < a.1)

end Headers

end AgentLink.Http
