import AgentLink.Http.Exchange
import AgentLink.Text.Base64

/-!
# The HTTP library

A transport drives an HTTP client library and takes from it what none of the transport's own
code decides (`Http.Library`): the base URL of a client made for `http://host:port` with the
credentials of basic authentication; the URL a target names against that base; the request a
client builds for a method, a target, headers and a body, or the error that stops it; the text
and the headers of a response; the message of a request on a closed client. Every transport
carries the library it drives, and the theorems about transports hold for any library.

What they need of the library is what its documentation says, stated as laws:

* `Http.Library.Refusals`: header names and values are encoded as ASCII, the parts of a target
  are percent-encoded from their UTF-8 bytes, and a host name in ASCII Punycode is decoded for
  the `Host` header when a request gives none. So a request is refused for a header beyond
  ASCII, a target with a lone surrogate, or a host with no Unicode form, and for nothing else
  but a target that is no URL;
* `Http.Library.TakesHostNames`: a client is made for `http://host:port` with a host name, a
  port the integer reader takes, and credentials that UTF-8 encodes.

The library the transport was tested with behaves as `Http.Library.reference`: it reads and
resolves URLs as `Http.Url.parse` and `Http.Url.join` do, decodes host names with
`Idna.toUnicode`, handles header lists as `Http.Headers` does, and decodes every body as UTF-8,
as it does for a response that names no other charset.
-/

namespace AgentLink.Http

/-- Why a request cannot be built. -/
inductive BuildError where
  /-- The target is no URL. -/
  | url (e : UrlError)
  /-- A part of the target holds lone surrogates, which UTF-8 cannot encode. -/
  | unencodable (e : Utf8.EncodeError)
  /-- A header is not ASCII. -/
  | ascii (e : Text.AsciiError)
  /-- The host name is in ASCII and has no Unicode form. -/
  | idna (e : Idna.DecodeError)
  deriving DecidableEq, Repr

/-- The message of a build error. -/
def BuildError.message : BuildError → String
  | .url e => e.message
  | .unencodable e => e.message
  | .ascii e => e.message
  | .idna e => e.message

/-- Why a client cannot be made: credentials that UTF-8 cannot encode, or a base that is no
URL. -/
inductive SetupError where
  | credentials (e : Utf8.EncodeError)
  | url (e : UrlError)
  deriving DecidableEq, Repr

/-- The message of a client that cannot be made. -/
def SetupError.message : SetupError → String
  | .credentials e => e.message
  | .url e => e.message

/-- What a transport takes from the HTTP client library it drives. -/
structure Library where
  /-- The base URL of a client made for a base URL's text and the credentials of basic
  authentication, in canonical form with its path ending in a slash; or why no client is
  made. -/
  client : String → Option (String × String) → Except SetupError Url
  /-- The URL a request's target names against a client's base URL, or why it names none. -/
  resolve : Url → String → Except UrlError Url
  /-- The Unicode form of a host name in ASCII, or why it has none. -/
  toUnicode : String → Except Idna.DecodeError String
  /-- The request a client of a base URL and credentials builds for a method, a target, headers
  and a body, or why it builds none. -/
  prepare : Url → Option (String × String) → Method → String → Headers → Option String →
    Except BuildError Request
  /-- The text of a response's body, from the response's headers and the body's bytes. -/
  bodyText : Headers → List UInt8 → String
  /-- The headers of a response as the library lists them. -/
  responseHeaders : Headers → Headers
  /-- The message of the error a closed client raises for a request. -/
  closedText : String

/-! ## What the library documents -/

/-- A character of a host name: an ASCII letter or digit, a hyphen or a dot. -/
def isHostChar (c : Char) : Bool :=
  c.isAlphanum || c == '-' || c == '.'

/-- A host as a base URL names it: a DNS name of letters, digits, hyphens and dots, at most 253
characters long, or an IPv4 address. Four numbers between dots must make an IPv4 address. -/
structure IsHostName (h : String) : Prop where
  nonempty : h ≠ ""
  short : h.length ≤ 253
  chars : ∀ c ∈ h.toList, isHostChar c = true
  dotted : ipv4Shaped h = true → isIPv4 h = true

/-- The requests the library refuses to build, and why, for a client it made. Header names and
values are encoded as ASCII; the parts of a target are percent-encoded from their UTF-8 bytes;
and when a request gives no `Host`, the library writes one from the host of the URL, decoding a
host in ASCII Punycode (`xn--`) to its Unicode form. -/
structure Library.Refusals (lib : Library) : Prop where
  /-- Encoding the headers fails only on a name or a value beyond ASCII. -/
  ascii : ∀ {text credentials base m target hs content e},
    lib.client text credentials = .ok base →
    lib.prepare base credentials m target hs content = .error (.ascii e) →
    ∃ h ∈ hs, Text.isAscii h.1 = false ∨ Text.isAscii h.2 = false
  /-- Percent-encoding fails only on a target with a lone surrogate: the parts of the client's
  own base URL are encoded already. -/
  unencodable : ∀ {text credentials base m target hs content e},
    lib.client text credentials = .ok base →
    lib.prepare base credentials m target hs content = .error (.unencodable e) →
    ∃ e', Utf8.encode target = .error e'
  /-- A host name stops a request only when the request gives no `Host` and the host of the URL
  the target names is in ASCII Punycode with no Unicode form. -/
  idna : ∀ {text credentials base m target hs content e},
    lib.client text credentials = .ok base →
    lib.prepare base credentials m target hs content = .error (.idna e) →
    hs.has "host" = false ∧ ∃ url, lib.resolve base target = .ok url ∧
      url.host.startsWith "xn--" = true ∧ lib.toUnicode url.host = .error e

/-- The clients the library makes: one for `http://host:port` with a host name and a port that
the integer reader takes (fewer than 4301 digits), whatever credentials it has, as long as they
UTF-8 encode. -/
structure Library.TakesHostNames (lib : Library) : Prop where
  client_origin : ∀ {h : String} {p : Nat} {credentials : Option (String × String)},
    IsHostName h → p < Nat.pow 10 Text.Integer.maxDigits →
    (∀ a ∈ credentials, (Utf8.encode a.1).isOk = true ∧ (Utf8.encode a.2).isOk = true) →
    ∃ base, lib.client ("http://" ++ h ++ ":" ++ toString p) credentials = .ok base

/-! ## The reference library -/

namespace Library

/-- The value of `Authorization` for basic authentication: the UTF-8 bytes of `user:password`
in base 64. -/
def basicAuthorization (user password : String) : String :=
  "Basic " ++ Text.base64 (Utf8.bytesOf (user ++ ":" ++ password))

/-- The headers every request starts from before its own. -/
def defaultHeaders : Headers :=
  [("accept", "*/*"), ("connection", "keep-alive")]

/-- The build error of a target that is no URL: a part that UTF-8 cannot encode is an error of
its own. -/
def buildErrorOfUrl : UrlError → BuildError
  | .unencodable e => .unencodable e
  | e => .url e

/-- A client: the credentials must UTF-8 encode, the user's before the password's, and the
base URL is read with a slash at the end of its path. -/
def referenceClient (text : String) (credentials : Option (String × String)) :
    Except SetupError Url := do
  if let some (u, p) := credentials then
    discard ((Utf8.encode u).mapError .credentials)
    discard ((Utf8.encode p).mapError .credentials)
  (Url.parse text >>= Url.asBase).mapError .url

/-- A target read as a URL and resolved against the base. -/
def referenceResolve (base : Url) (target : String) : Except UrlError Url :=
  Url.parse target >>= base.join

/-- A request: the target resolved against the base, the headers checked to be ASCII and
overriding the default ones by name, `Content-Length` for a body, `Host` and, for a method that
states a length, `Content-Length: 0` when they are missing, and the credentials in
`Authorization`: the client's own, or else those the URL names. A host in ASCII Punycode must
have a Unicode form when the request names no `Host` of its own. -/
def referencePrepare (base : Url) (credentials : Option (String × String)) (m : Method)
    (target : String) (headers : Headers) (content : Option String) :
    Except BuildError Request := do
  let url ← (referenceResolve base target).mapError buildErrorOfUrl
  (Headers.checkAscii headers).mapError .ascii
  let hs := Headers.update defaultHeaders headers
  let hs := match content with
    | some c => Headers.setDefault hs "Content-Length" (toString (Utf8.bytesOf c).length)
    | none => hs
  if !Headers.has hs "host" && url.host.startsWith "xn--" then
    discard ((Idna.toUnicode url.host).mapError .idna)
  let host := if Headers.has hs "host" || url.host.isEmpty then [] else [("Host", url.netloc)]
  let length :=
    if m.statesLength && !(Headers.has hs "content-length" || Headers.has hs "transfer-encoding")
    then [("Content-Length", "0")] else []
  let hs := host ++ length ++ hs
  let hs := match credentials with
    | some (u, p) => Headers.set hs "Authorization" (basicAuthorization u p)
    | none =>
      if url.username.isEmpty && url.password.isEmpty then hs
      else Headers.set hs "Authorization" (basicAuthorization url.username url.password)
  return { method := m, url, headers := hs, body := content.getD "" }

/-- The library the transport was tested with. -/
def reference : Library where
  client := referenceClient
  resolve := referenceResolve
  toUnicode := Idna.toUnicode
  prepare := referencePrepare
  bodyText _ bytes := Utf8.decodeAll bytes
  responseHeaders := Headers.merged
  closedText := "Cannot send a request, as the client has been closed."

instance : Inhabited Library := ⟨reference⟩

end Library

end AgentLink.Http
