import AgentLink.Text.Integer
import AgentLink.Text.Quote
import AgentLink.Text.Case
import AgentLink.Idna.Host
import AgentLink.Text.Utf8

/-!
# URLs of requests

A request names its target by a text that is either a whole URL (`http://host:port/path`) or
a reference relative to the client's base URL (`/session`, `session?limit=2`). `Http.Url.parse`
splits a text into scheme, authority, path, query and fragment, and brings each part to its
canonical form:

* the scheme is lower case; an ASCII host is lower case and percent-encoded, a host beyond
  ASCII is lower case in its IDNA form (`Idna.toAscii`), an address in the form of four dotted
  numbers must be a valid IPv4 address, and one in brackets a valid IPv6 address;
* a port equal to the scheme's default is dropped;
* in a URL with a scheme or an authority, the segments `.` and `..` of the path are resolved
  (`Http.normalizePath`);
* path, query and fragment are percent-encoded, each with its own set of characters that may
  stand for themselves (`Http.pathSafe`, `Http.querySafe`, `Http.fragmentSafe`); a `%` with two
  hexadecimal digits is an escape already and stays as it is.

`Http.Url.join` resolves a reference against a base: a URL with a scheme and a host stands
for itself, and anything else is appended to the base's path, leading slashes dropped. What
reaches the server is the joined URL's raw path (`Http.Url.rawPath`) and its network location
(`Http.Url.netloc`).

A text with an ASCII control character, a port that is no number, an invalid address, or a path
that cannot follow the parts before it (`Http.checkPath`) is no URL (`Http.UrlError`).
-/

namespace AgentLink.Http

/-- Why a text is not a URL. -/
inductive UrlError where
  /-- The text is longer than any URL may be. -/
  | tooLong
  /-- The text holds an ASCII control character at a position. -/
  | control (c : Char) (pos : Nat)
  /-- The port is not a number. -/
  | badPort (port : String)
  /-- The host looks like an IPv4 address and is none. -/
  | badIPv4 (host : String)
  /-- The host is in brackets and no IPv6 address. -/
  | badIPv6 (host : String)
  /-- The host has characters beyond ASCII. -/
  | badIdna (host : String)
  /-- A URL with an authority has a path that neither is empty nor starts with a slash. -/
  | pathWithoutSlash
  /-- A reference without scheme and authority has a path that starts with two slashes. -/
  | pathWithTwoSlashes
  /-- A reference without scheme and authority has a path that starts with a colon. -/
  | pathWithColon
  /-- A part to percent-encode holds a lone surrogate, which has no UTF-8 bytes. -/
  | unencodable (e : Utf8.EncodeError)
  deriving DecidableEq, Repr

/-- The message of a URL error. -/
def UrlError.message : UrlError → String
  | .tooLong => "URL too long"
  | .control c pos => "Invalid non-printable ASCII character in URL, " ++
      Text.quote (String.singleton c) ++ " at position " ++ toString pos ++ "."
  | .badPort p => "Invalid port: " ++ Text.quote p
  | .badIPv4 h => "Invalid IPv4 address: " ++ Text.quote h
  | .badIPv6 h => "Invalid IPv6 address: " ++ Text.quote h
  | .badIdna h => "Invalid IDNA hostname: " ++ Text.quote h
  | .pathWithoutSlash => "For absolute URLs, path must be empty or begin with '/'"
  | .pathWithTwoSlashes => "Relative URLs cannot have a path starting with '//'"
  | .pathWithColon => "Relative URLs cannot have a path starting with ':'"
  | .unencodable e => e.message

/-- The longest URL accepted. -/
def maxUrlLength : Nat := 65536

/-! ## Percent-encoding -/

/-- Characters that never need an escape: ASCII letters and digits, `-`, `.`, `_` and `~`. -/
def isUnreserved (c : Char) : Bool :=
  c.isAlphanum || c == '-' || c == '.' || c == '_' || c == '~'

/-- The delimiters that may stand inside a component. -/
def isSubDelim (c : Char) : Bool :=
  "!$&'()*+,;=".toList.contains c

/-- Printable ASCII, space excluded. -/
def isVisibleAscii (c : Char) : Bool :=
  0x20 < c.toNat && c.toNat < 0x7F

/-- Characters that stand for themselves in a query: visible ASCII but `"`, `#`, `<` and `>`. -/
def querySafe (c : Char) : Bool :=
  isVisibleAscii c && !"\"#<>".toList.contains c

/-- Characters that stand for themselves in a path: those of a query but `?`, the backquote,
and the braces. -/
def pathSafe (c : Char) : Bool :=
  querySafe c && !"?`\x7b\x7d".toList.contains c

/-- Characters that stand for themselves in a fragment: visible ASCII but `"`, `<`, `>` and
the backquote. -/
def fragmentSafe (c : Char) : Bool :=
  isVisibleAscii c && !"\"<>`".toList.contains c

/-- Characters that stand for themselves in the user part of an authority. -/
def userinfoSafe (c : Char) : Bool :=
  isUnreserved c || isSubDelim c || c == ':'

/-- Characters that stand for themselves in a host name. -/
def hostSafe (c : Char) : Bool :=
  isUnreserved c || isSubDelim c || "\"`\x7b\x7d%|\\".toList.contains c

/-- An upper-case hexadecimal digit. -/
def hexDigitUpper (n : Nat) : Char :=
  if n < 10 then Char.ofNat (48 + n) else Char.ofNat (55 + n)

/-- A byte as an escape, `%` and two upper-case hexadecimal digits. -/
def percentByte (b : UInt8) : String :=
  String.ofList ['%', hexDigitUpper (b.toNat / 16), hexDigitUpper (b.toNat % 16)]

/-- A code point as the escapes of its UTF-8 bytes. A lone surrogate has none, and is refused
on its own, as the only code point of the text being encoded. -/
def percentPoint (n : Nat) : Except Utf8.EncodeError String :=
  if Text.isSurrogate n then .error { first := n, start := 0, stop := 1 }
  else .ok (String.join ((Utf8.pointBytes n).map percentByte))

/-- Whether a character is an ASCII hexadecimal digit. -/
def isHexDigit (c : Char) : Bool :=
  c.isDigit || ('a' ≤ c && c ≤ 'f') || ('A' ≤ c && c ≤ 'F')

/-- Whether a code point is an ASCII hexadecimal digit. -/
def isHexCode (n : Nat) : Bool :=
  n < 0x80 && isHexDigit (Char.ofNat n)

/-- Whether a code point is ASCII and stands for itself: unreserved, or allowed by `safe`. -/
def keeps (safe : Char → Bool) (n : Nat) : Bool :=
  n < 0x80 && (isUnreserved (Char.ofNat n) || safe (Char.ofNat n))

/-- The escape of a `%` that starts no escape. -/
def percentSign (safe : Char → Bool) : String :=
  if safe '%' then "%" else percentByte 0x25

/-- Percent-encodes the code points that `safe` does not allow, keeping every escape already
there. -/
def encodeKeeping (safe : Char → Bool) : List Nat → Except Utf8.EncodeError String
  | [] => .ok ""
  | 37 :: a :: b :: more =>
    if isHexCode a && isHexCode b then
      (String.ofList ['%', Char.ofNat a, Char.ofNat b] ++ ·) <$> encodeKeeping safe more
    else (percentSign safe ++ ·) <$> encodeKeeping safe (a :: b :: more)
  | n :: rest => do
    let head ← if keeps safe n then pure (String.singleton (Char.ofNat n)) else percentPoint n
    let tail ← encodeKeeping safe rest
    pure (head ++ tail)

/-- Percent-encodes a written text (`Text.codePoints`). -/
def encodeText (safe : Char → Bool) (s : String) : Except UrlError String :=
  (encodeKeeping safe (Text.codePoints s.toList)).mapError .unencodable

/-- A text as one segment of a path: its UTF-8 bytes, every one escaped but those of the
unreserved characters, `/` and `%` included. A text with lone surrogates has no UTF-8 bytes. -/
def encodeSegment (s : String) : Except Utf8.EncodeError String := do
  let bytes ← Utf8.encode s
  pure (String.join (bytes.map fun b =>
    if b < 0x80 && isUnreserved (Char.ofNat b.toNat) then String.singleton (Char.ofNat b.toNat)
    else percentByte b))

/-- The value of an ASCII hexadecimal digit. -/
def hexDigitValue? (c : Char) : Option Nat :=
  if c.isDigit then some (c.toNat - 48)
  else if 'a' ≤ c && c ≤ 'f' then some (c.toNat - 87)
  else if 'A' ≤ c && c ≤ 'F' then some (c.toNat - 55)
  else none

/-- The bytes a percent-encoded ASCII text stands for: an escape its byte, every other character
its own byte. -/
def unescapeBytes : List Char → List UInt8
  | [] => []
  | '%' :: a :: b :: rest =>
    match hexDigitValue? a, hexDigitValue? b with
    | some x, some y => (x * 16 + y).toUInt8 :: unescapeBytes rest
    | _, _ => 0x25 :: unescapeBytes (a :: b :: rest)
  | c :: rest => c.toNat.toUInt8 :: unescapeBytes rest

/-- A percent-encoded text with its escapes undone, the bytes read as UTF-8. -/
def unescape (s : String) : String :=
  Utf8.decodeAll (unescapeBytes s.toList)

/-! ## Paths -/

/-- The pieces of a text between the occurrences of a character, the empty ones included. -/
def splitAtChar (s : String) (c : Char) : List String :=
  (s.toList.splitOn c).map String.ofList

/-- The path with its segments `.` removed and each `..` removing the segment before it, as
long as there is one. -/
def normalizePath (path : String) : String :=
  if !path.toList.contains '.' then path
  else
    let segments := splitAtChar path '/'
    if !(segments.contains "." || segments.contains "..") then path
    else
      let step (out : List String) (seg : String) : List String :=
        if seg == "." then out
        else if seg == ".." then (if out.isEmpty || out == [""] then out else out.dropLast)
        else out ++ [seg]
      "/".intercalate (segments.foldl step [])

/-! ## Hosts -/

/-- Whether a host has the shape of an IPv4 address: four runs of ASCII digits between
dots. -/
def ipv4Shaped (host : String) : Bool :=
  let parts := splitAtChar host '.'
  parts.length == 4 && parts.all fun p => !p.isEmpty && p.toList.all Char.isDigit

/-- Whether a text is one number of an IPv4 address: one to three ASCII digits, no leading
zero, at most 255. -/
def isOctet (s : String) : Bool :=
  let cs := s.toList
  !cs.isEmpty && cs.length ≤ 3 && cs.all Char.isDigit &&
    (cs == ['0'] || cs.head? != some '0') &&
    cs.foldl (fun n c => n * 10 + (c.toNat - 48)) 0 ≤ 255

/-- Whether a text is an IPv4 address: four numbers between dots. -/
def isIPv4 (s : String) : Bool :=
  let parts := splitAtChar s '.'
  parts.length == 4 && parts.all isOctet

/-- Whether a text is one group of an IPv6 address: one to four hexadecimal digits. -/
def isHextet (s : String) : Bool :=
  !s.isEmpty && s.length ≤ 4 && s.toList.all isHexDigit

/-- The groups of an IPv6 address with an IPv4 address at its end spelled as two groups;
`none` when the end looks like an IPv4 address and is none. -/
def expandIPv4Tail (parts : List String) : Option (List String) :=
  match parts.getLast? with
  | some last =>
    if !last.toList.contains '.' then some parts
    else if isIPv4 last then some (parts.dropLast ++ ["0", "0"])
    else none
  | none => some parts

/-- Whether the groups of an IPv6 address, split at colons, make one: eight groups, or fewer
with one empty group between two colons standing for the rest, and an IPv4 address allowed
for the last two. -/
def ipv6Groups (parts : List String) : Bool :=
  if parts.length < 3 then false
  else
    match expandIPv4Tail parts with
    | none => false
    | some parts =>
      let n := parts.length
      let empty (i : Nat) : Bool := (parts.getD i "").isEmpty
      let skips := ((List.range n).drop 1).take (n - 2) |>.filter empty
      if n > 9 then false
      else match skips with
        | [] => n == 8 && parts.all isHextet
        | [skip] =>
          let hi := if empty 0 then skip - 1 else skip
          let lo := if empty (n - 1) then n - skip - 2 else n - skip - 1
          (!empty 0 || hi == 0) && (!empty (n - 1) || lo == 0) && hi + lo < 8 &&
            (parts.take hi).all isHextet && (parts.drop (n - lo)).all isHextet
        | _ => false

/-- Whether a text is an IPv6 address, with an optional zone after `%`. -/
def isIPv6 (s : String) : Bool :=
  if s.toList.contains '/' then false
  else
    match splitAtChar s '%' with
    | [addr] => ipv6Groups (splitAtChar addr ':')
    | [addr, zone] => !zone.isEmpty && ipv6Groups (splitAtChar addr ':')
    | _ => false

/-- The canonical form of a host: empty stays empty, an IPv4 address or a bracketed IPv6
address is checked and kept, and a name is lower case with its other characters escaped. -/
def encodeHost (host : String) : Except UrlError String :=
  if host.isEmpty then .ok ""
  else if ipv4Shaped host then
    if isIPv4 host then .ok host else .error (.badIPv4 host)
  else if host.startsWith "[" && host.endsWith "]" && 2 ≤ host.length then
    let inner := String.ofList ((host.toList.drop 1).dropLast)
    if isIPv6 inner then .ok inner else .error (.badIPv6 host)
  else if host.toList.all (·.toNat < 0x80) then
    encodeText hostSafe (String.ofList (host.toList.map Char.toLower))
  else match Idna.toAscii (Text.lower host) with
    | some ascii => .ok ascii
    | none => .error (.badIdna host)

/-- The port a scheme assumes when none is given. -/
def defaultPort : String → Option Int
  | "http" | "ws" => some 80
  | "https" | "wss" => some 443
  | "ftp" => some 21
  | _ => none

/-- The port of an authority as a number, none when it is empty or the scheme's default. -/
def normalizePort (port : Option String) (scheme : String) : Except UrlError (Option Int) :=
  match port with
  | none => .ok none
  | some "" => .ok none
  | some p =>
    match Text.Integer.read? p with
    | none => .error (.badPort p)
    | some n => .ok (if defaultPort scheme == some n then none else some n)

/-! ## Whole URLs -/

/-- A URL in canonical form. -/
structure Url where
  scheme : String := ""
  userinfo : String := ""
  host : String := ""
  port : Option Int := none
  path : String := ""
  query : Option String := none
  fragment : Option String := none
  deriving DecidableEq, Repr, Inhabited

/-- The host and port as a request names them: a host with colons in brackets, and the port
after a colon when there is one. -/
def Url.netloc (u : Url) : String :=
  (if u.host.toList.contains ':' then "[" ++ u.host ++ "]" else u.host) ++
    (match u.port with
      | some p => ":" ++ toString p
      | none => "")

/-- The user named in the user part, its escapes undone: the part before the first colon. -/
def Url.username (u : Url) : String :=
  unescape (String.ofList (u.userinfo.toList.takeWhile (· != ':')))

/-- The password named in the user part, its escapes undone: the part after the first colon. -/
def Url.password (u : Url) : String :=
  unescape (String.ofList ((u.userinfo.toList.dropWhile (· != ':')).drop 1))

/-- The authority: user part, host and port. -/
def Url.authority (u : Url) : String :=
  (if u.userinfo.isEmpty then "" else u.userinfo ++ "@") ++ u.netloc

/-- The path, `/` when empty, followed by the query when there is one. -/
def Url.rawPath (u : Url) : String :=
  (if u.path.isEmpty then "/" else u.path) ++
    (match u.query with
      | some q => "?" ++ q
      | none => "")

/-- Whether the URL needs a base: it lacks a scheme or a host. -/
def Url.isRelative (u : Url) : Bool :=
  u.scheme.isEmpty || u.host.isEmpty

/-- The parts of a URL as they are written, before their canonical form. -/
structure Parts where
  scheme : String := ""
  authority : String := ""
  path : String := ""
  query : Option String := none
  fragment : Option String := none

/-- Whether a character may be part of a scheme after its first letter. -/
def isSchemeChar (c : Char) : Bool :=
  c.isAlphanum || c == '+' || c == '.' || c == '-'

/-- Splits a text into its written parts: a scheme ending in `:` (possibly empty), an authority
after `//`, the path up to `?` or `#`, the query after `?` and the fragment after `#`. -/
def Parts.split (cs : List Char) : Parts :=
  let (scheme, cs) :=
    match cs with
    | ':' :: rest => ("", rest)
    | c :: rest =>
      if c.isAlpha then
        let tail := rest.takeWhile isSchemeChar
        match rest.drop tail.length with
        | ':' :: after => (String.ofList (c :: tail), after)
        | _ => ("", cs)
      else ("", cs)
    | [] => ("", [])
  let (authority, cs) :=
    match cs with
    | '/' :: '/' :: rest =>
      let a := rest.takeWhile fun c => c != '/' && c != '?' && c != '#'
      (String.ofList a, rest.drop a.length)
    | _ => ("", cs)
  let path := cs.takeWhile fun c => c != '?' && c != '#'
  let cs := cs.drop path.length
  let (query, cs) :=
    match cs with
    | '?' :: rest =>
      let q := rest.takeWhile (· != '#')
      (some (String.ofList q), rest.drop q.length)
    | _ => (none, cs)
  let fragment := match cs with
    | '#' :: rest => some (String.ofList rest)
    | _ => none
  { scheme, authority, path := String.ofList path, query, fragment }

/-- Splits an authority into user part (up to the last `@`), host (a bracketed address, or up
to the first colon) and port (after the colon). -/
def splitAuthority (a : String) : String × String × Option String :=
  let cs := a.toList
  let (user, rest) :=
    match cs.reverse.findIdx? (· == '@') with
    | some i => (String.ofList (cs.take (cs.length - 1 - i)), cs.drop (cs.length - i))
    | none => ("", cs)
  let (host, after) :=
    match rest with
    | '[' :: _ =>
      match rest.reverse.findIdx? (· == ']') with
      | some i => (rest.take (rest.length - i), rest.drop (rest.length - i))
      | none =>
        let h := rest.takeWhile (· != ':')
        (h, rest.drop h.length)
    | _ =>
      let h := rest.takeWhile (· != ':')
      (h, rest.drop h.length)
  let port := match after with
    | ':' :: p => String.ofList p
    | p => String.ofList p
  (user, String.ofList host, some port)

/-- Checks the path of a URL against its other parts: after an authority it is empty or starts
with a slash, and in a reference with neither scheme nor authority it starts with neither two
slashes nor a colon, which would read as an authority or a scheme. -/
def checkPath (path : String) (hasScheme hasAuthority : Bool) : Except UrlError Unit :=
  if hasAuthority && !path.isEmpty && !path.startsWith "/" then .error .pathWithoutSlash
  else if !hasScheme && !hasAuthority && path.startsWith "//" then .error .pathWithTwoSlashes
  else if !hasScheme && !hasAuthority && path.startsWith ":" then .error .pathWithColon
  else .ok ()

/-- The canonical URL of written parts. -/
def Parts.build (p : Parts) : Except UrlError Url := do
  let (user, host, port) := splitAuthority p.authority
  let scheme := String.ofList (p.scheme.toList.map Char.toLower)
  let userinfo ← encodeText userinfoSafe user
  let host ← encodeHost host
  let port ← normalizePort port p.scheme
  let hasAuthority := !userinfo.isEmpty || !host.isEmpty || port.isSome
  checkPath p.path (!scheme.isEmpty) hasAuthority
  let path := if !scheme.isEmpty || hasAuthority then normalizePath p.path else p.path
  let path ← encodeText pathSafe path
  let query ← match p.query with
    | some q => some <$> encodeText querySafe q
    | none => pure none
  let fragment ← match p.fragment with
    | some f => some <$> encodeText fragmentSafe f
    | none => pure none
  return { scheme, userinfo, host, port, path, query, fragment }

/-- The first ASCII control character among code points, and its position. -/
def firstControl : List Nat → Nat → Option (Char × Nat)
  | [], _ => none
  | n :: ns, i => if n < 0x20 || n == 0x7F then some (Char.ofNat n, i) else firstControl ns (i + 1)

/-- Reads a URL or a relative reference. -/
def Url.parse (s : String) : Except UrlError Url :=
  if Text.size s > maxUrlLength then .error .tooLong
  else match firstControl (Text.codePoints s.toList) 0 with
    | some (c, i) => .error (.control c i)
    | none => (Parts.split s.toList).build

/-- A raw path split at its first `?` into path and query. -/
def splitRawPath (raw : String) : String × Option String :=
  let cs := raw.toList
  let path := cs.takeWhile (· != '?')
  match cs.drop path.length with
  | '?' :: q => (String.ofList path, some (String.ofList q))
  | _ => (String.ofList path, none)

/-- The URL with another raw path: the part before the first `?` is the path, the rest the
query. -/
def Url.withRawPath (u : Url) (raw : String) : Except UrlError Url :=
  let (path, query) := splitRawPath raw
  Parts.build { scheme := u.scheme, authority := u.authority, path, query, fragment := u.fragment }

/-- The base URL with a path that ends in a slash, so that references extend it. -/
def Url.asBase (u : Url) : Except UrlError Url :=
  if u.rawPath.endsWith "/" then .ok u else u.withRawPath (u.rawPath ++ "/")

/-- Resolves a reference against a base whose path ends in a slash. -/
def Url.join (base ref : Url) : Except UrlError Url :=
  if ref.isRelative then
    base.withRawPath (base.rawPath ++ String.ofList (ref.rawPath.toList.dropWhile (· == '/')))
  else .ok ref

end AgentLink.Http
