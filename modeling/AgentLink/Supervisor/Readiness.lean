import AgentLink.Supervisor.Options
import AgentLink.Text.Blank
import AgentLink.Text.Digit
import AgentLink.Text.Find
import AgentLink.Http.Address

/-!
# Telling that a server listens

A server announces on its output that it listens, in a line such as
`opencode server listening on http://127.0.0.1:4096`. `detectListening` reads one line:

* An announcement is one of the words `listening`, `running`, `started` or `bound`, blanks,
  `on` or `at`, blanks, and a URL: `http://` or `https://` and the characters up to the next
  blank. Words and scheme are matched without regard to case, where the dotless and the dotted
  capital i count as `i` and the long s as `s` (`Readiness.foldsTo`). The URL loses trailing
  periods, commas, semicolons and closing parentheses. Its port is the first run of decimal
  digits after a colon, or the configured port, and a run of more than
  `Text.Integer.maxDigits` digits is refused; its host is what follows a lower-case scheme
  up to a colon, slash or blank, or the configured host name.
* Failing that, a line that holds `:` and the configured port, and one of the words `listen`,
  `bound` or `server` in any case, announces the configured address. Port 0 leaves the choice
  to the system, so there is nothing to look for.

Blanks and digits are those of Unicode.
-/

namespace AgentLink

namespace Readiness

/-- Whether a character matches a lower-case ASCII letter when case is ignored. -/
def foldsTo (p c : Char) : Bool :=
  c == p || c.toLower == p ||
    (p == 'i' && (c.toNat == 0x130 || c.toNat == 0x131)) ||
    (p == 's' && c.toNat == 0x17F) ||
    (p == 'k' && c.toNat == 0x212A)

/-- The rest of the text after a word matched without regard to case. -/
def word : List Char → List Char → Option (List Char)
  | [], cs => some cs
  | _ :: _, [] => none
  | p :: ps, c :: cs => if foldsTo p c then word ps cs else none

/-- The rest of the text after a word of a list. -/
def oneOf (ws : List String) (cs : List Char) : Option (List Char) :=
  ws.findSome? fun w => word w.toList cs

/-- The rest of the text after one blank or more. -/
def blanks (cs : List Char) : Option (List Char) :=
  match cs with
  | c :: _ => if Text.isBlank c then some (cs.dropWhile Text.isBlank) else none
  | [] => none

/-- The URL at the front of the text: `http://` or `https://`, in any case, and the characters up
to the next blank, of which there is at least one. -/
def urlAt (cs : List Char) : Option (List Char) := do
  let afterHttp ← word "http".toList cs
  let rest ← word "://".toList ((word "s".toList afterHttp).getD afterHttp)
  let tail := rest.takeWhile fun c => !Text.isBlank c
  if tail.isEmpty then none
  else some (cs.take (cs.length - rest.length + tail.length))

/-- The URL of an announcement that starts at the front of the text. -/
def announcementHere (cs : List Char) : Option (List Char) := do
  let cs ← oneOf ["listening", "running", "started", "bound"] cs
  let cs ← blanks cs
  let cs ← oneOf ["on", "at"] cs
  let cs ← blanks cs
  urlAt cs

/-- The URL of the first announcement in the text. -/
def announcement : List Char → Option (List Char)
  | [] => none
  | c :: cs => (announcementHere (c :: cs)).or (announcement cs)

/-- The URL without trailing periods, commas, semicolons and closing parentheses. -/
def trimUrl (url : List Char) : List Char :=
  (url.reverse.dropWhile fun c => c == '.' || c == ',' || c == ';' || c == ')').reverse

/-- The first run of digits after a colon. -/
def firstPort : List Char → Option (List Char)
  | [] => none
  | ':' :: cs =>
    let ds := cs.takeWhile Text.isDigit
    if ds.isEmpty then firstPort cs else some ds
  | _ :: cs => firstPort cs

/-- The host after a lower-case scheme, up to a colon, slash or blank. -/
def hostOf (url : String) : Option String :=
  let rest? := if url.startsWith "http://" then some (url.toList.drop 7)
    else if url.startsWith "https://" then some (url.toList.drop 8) else none
  rest?.bind fun rest =>
    let h := rest.takeWhile fun c => c != ':' && c != '/' && !Text.isBlank c
    if h.isEmpty then none else some (String.ofList h)

end Readiness

/-- Where a server listens, by its own announcement. -/
structure Listening where
  url : String
  hostname : String
  port : Int
  deriving DecidableEq, Repr

/-- Where a line of output says the server listens, if it says so; a port of more digits than
an integer text may have is refused. -/
def detectListening (line : String) (o : ServerOptions) :
    Except Text.Integer.TooManyDigits (Option Listening) :=
  match Readiness.announcement line.toList with
  | some u => do
    let url := Readiness.trimUrl u
    let port : Int ← match Readiness.firstPort url with
      | some ds => (Text.Integer.valueOfDigits ds).map (fun p => (p : Int))
      | none => pure o.port
    let url := String.ofList url
    return some { url, hostname := (Readiness.hostOf url).getD o.hostname, port }
  | none =>
    let lowered := String.ofList (line.toList.map Char.toLower)
    if o.port != 0 && Text.occursIn (":" ++ toString o.port) line &&
        ["listen", "bound", "server"].any (Text.occursIn · lowered) then
      .ok (some { url := "http://" ++ o.hostname ++ ":" ++ toString o.port,
                  hostname := o.hostname, port := o.port })
    else .ok none

end AgentLink
