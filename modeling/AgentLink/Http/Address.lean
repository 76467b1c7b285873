import AgentLink.Text.Digit
import AgentLink.Text.Integer

/-!
# Host and port of a base URL

A client given a base URL such as `http://127.0.0.1:4096` connects to the host and port it
names (`Http.hostAndPort`). The URL must start with `http://` or `https://`, in lower case, and
the host runs from there to the first colon or slash. A port is a run of decimal digits, of any
script, after a colon; without one the port is that of the scheme, 443 for `https` and 80
otherwise; a port of more than `Text.Integer.maxDigits` digits is refused. A URL of any other
shape gives the local default, `127.0.0.1` and 4096.
-/

namespace AgentLink.Http

/-- The host and port a client connects to when it has no base URL it can read. -/
def fallbackAddress : String × Int := ("127.0.0.1", 4096)

/-- The host and port a base URL names; a port of more digits than an integer text may have
is refused. -/
def hostAndPort (url : String) : Except Text.Integer.TooManyDigits (String × Int) :=
  let cs := url.toList
  let rest? := if url.startsWith "http://" then some (cs.drop 7)
    else if url.startsWith "https://" then some (cs.drop 8) else none
  match rest? with
  | none => .ok fallbackAddress
  | some rest =>
    let host := rest.takeWhile fun c => c != ':' && c != '/'
    if host.isEmpty then .ok fallbackAddress
    else
      let schemePort : Int := if url.startsWith "https://" then 443 else 80
      match rest.drop host.length with
      | ':' :: more =>
        let ds := more.takeWhile Text.isDigit
        if ds.isEmpty then .ok (String.ofList host, schemePort)
        else (Text.Integer.valueOfDigits ds).map fun p => (String.ofList host, (p : Int))
      | _ => .ok (String.ofList host, schemePort)

end AgentLink.Http
