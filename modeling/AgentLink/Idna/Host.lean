import AgentLink.Idna.Label
import AgentLink.Text.Punycode

/-!
# Internationalized host names

A host name with characters beyond ASCII reaches the network in its ASCII form
(`Idna.toAscii`), as IDNA 2008 defines it without any mapping: the name is split into labels
at the full stops (the ASCII one and its ideographic, full-width and half-width forms), one
empty label at the end standing for a trailing dot, and each label must pass the checks of the
protocol (`Idna.checkLabel`). A label of ASCII characters stays as it is, but must have a
Unicode form (`Idna.labelToUnicode`): one that starts with `xn--` must hold, after it, the
Punycode of a label that passes the checks and encodes back to the same Punycode; any other
must pass the checks itself. Any other label becomes `xn--` and its Punycode. No label may
exceed 63 characters, and the whole name 253, or 254 with its trailing dot. A name that fails
any of this has no ASCII form.

The Unicode form of a name in ASCII (`Idna.toUnicode`) decodes its labels the same way, and
says why when it cannot (`Idna.DecodeError`).
-/

namespace AgentLink.Idna

/-- The parts of a list between the items that satisfy `p`; `current` is the part read so far,
reversed. -/
def splitWhere {α : Type} (p : α → Bool) (current : List α) : List α → List (List α)
  | [] => [current.reverse]
  | c :: rest =>
    if p c then current.reverse :: splitWhere p [] rest
    else splitWhere p (c :: current) rest

/-- The prefix of a label in Punycode. -/
def acePrefix : List Nat := [0x78, 0x6E, 0x2D, 0x2D]

/-- Why a host name in ASCII has no Unicode form. -/
inductive DecodeError where
  /-- The name is empty. -/
  | emptyDomain
  /-- A label is the prefix `xn--` alone. -/
  | noPunycode
  /-- A label after the prefix `xn--` ends with a hyphen. -/
  | endsWithHyphen
  /-- A label after the prefix `xn--` is no Punycode. -/
  | notPunycode
  /-- A label after the prefix `xn--` is Punycode, but not the one its text encodes to. -/
  | notCanonical
  /-- A label, as it is or as its Punycode stands for, fails a check. -/
  | label (e : LabelError)
  deriving DecidableEq, Repr

/-- The message of a host name that has no Unicode form. -/
def DecodeError.message : DecodeError → String
  | .emptyDomain => "Empty domain"
  | .noPunycode => "Malformed A-label, no Punycode eligible content found"
  | .endsWithHyphen => "A-label must not end with a hyphen"
  | .notPunycode => "Invalid A-label"
  | .notCanonical => "A-label is not the canonical Punycode encoding of its U-label"
  | .label e => e.message

/-- The kind of error of a host name that has no Unicode form. -/
def DecodeError.kind : DecodeError → ErrorKind
  | .label e => e.kind
  | _ => .general

/-- The lower-case form of an ASCII code point. -/
def lowerAscii (n : Nat) : Nat :=
  if 0x41 ≤ n && n ≤ 0x5A then n + 32 else n

/-- The Unicode form of a label of ASCII code points: a label with the prefix `xn--` is the text
its Punycode stands for, which must pass the checks and encode back to the same Punycode; any
other label is itself, and must pass the checks. -/
def labelToUnicode (label : List Nat) : Except DecodeError (List Nat) :=
  let label := label.map lowerAscii
  if acePrefix.isPrefixOf label then
    let rest := label.drop 4
    if rest.isEmpty then .error .noPunycode
    else if rest.getLast? == some 0x2D then .error .endsWithHyphen
    else match Punycode.decode (String.ofList (rest.map Char.ofNat)) with
      | none => .error .notPunycode
      | some text => do
        (checkLabel text).mapError .label
        if (Punycode.encode (text.map Char.ofNat)).toList.map Char.toNat != rest then
          throw .notCanonical
        return text
  else do
    (checkLabel label).mapError .label
    return label

/-- The ASCII form of a label, if it has one: a label of ASCII code points must have a Unicode
form and keeps its own; any other label must pass the checks and becomes `xn--` and its
Punycode. No label may exceed 63 characters. -/
def labelToAscii (label : List Nat) : Option (List Nat) :=
  let ascii :=
    if label.all (· < 0x80) then
      match labelToUnicode label with
      | .ok _ => some label
      | .error _ => none
    else if labelAllowed label then
      some (acePrefix ++ (Punycode.encode (label.map Char.ofNat)).toList.map Char.toNat)
    else none
  ascii.filter (·.length ≤ 63)

/-- Whether a code point separates labels. -/
def isDotCode (n : Nat) : Bool :=
  n == 0x2E || n == 0x3002 || n == 0xFF0E || n == 0xFF61

/-- The labels of a host name and whether it ends with a dot; `none` for the empty name. -/
def labelsOf (host : String) : Option (List (List Nat) × Bool) :=
  let labels := splitWhere isDotCode [] (Text.codePoints host.toList)
  if labels == [[]] then none
  else if labels.getLast? == some [] then some (labels.dropLast, true)
  else some (labels, false)

/-- The ASCII form of a host name, if it has one. -/
def toAscii (host : String) : Option String := do
  let (labels, trailing) ← labelsOf host
  let encoded ← labels.mapM labelToAscii
  let name := String.intercalate "." (encoded.map fun l => String.ofList (l.map Char.ofNat)) ++
    (if trailing then "." else "")
  if name.length ≤ (if trailing then 254 else 253) then some name else none

/-- The Unicode form of a host name in ASCII, or why it has none. -/
def toUnicode (host : String) : Except DecodeError String := do
  let some (labels, trailing) := labelsOf host | throw .emptyDomain
  let decoded ← labels.mapM labelToUnicode
  return String.intercalate "." (decoded.map fun l => String.ofList (Text.writeCodePoints l)) ++
    (if trailing then "." else "")

end AgentLink.Idna
