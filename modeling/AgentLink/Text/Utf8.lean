import AgentLink.Text.Ascii

/-!
# Decoding UTF-8 a chunk at a time

Bytes arrive in chunks that may cut a character anywhere, so the decoder is a state machine
(`Utf8.Decoder`) that reads one byte at a time (`Utf8.Decoder.step`). Between chunks it holds
the start of a character that is not complete yet. A byte that cannot continue what came
before ends it: the incomplete start becomes one replacement character `U+FFFD`, and the byte
is read again as the start of something new. So each maximal ill-formed part of the input
becomes exactly one replacement character, and the decoder never waits for bytes that could
not complete a character.

Reading a list of bytes (`Utf8.Decoder.feed`) folds the step over it; the text it gives for
two chunks in turn is the text it gives for the two together (`Utf8.Decoder.feed_append`). Each
code point read is written as `Text.writeCodePoint` writes it.

Encoding (`Utf8.encode`) writes every code point of a text in one to four bytes, and fails on
the first run of lone surrogates, which UTF-8 cannot hold (`Utf8.EncodeError`).
-/

namespace AgentLink.Utf8

/-- The character that stands for ill-formed input. -/
def replacement : Char := '�'

/-- What the decoder holds between two bytes. -/
inductive Decoder where
  /-- Nothing: the next byte starts a character. -/
  | idle
  /-- The start of a character: the bits read so far, how many continuation bytes are still
  needed, and the range `lo` to `hi` that the next one must lie in. -/
  | pending (bits : Nat) (needed : Nat) (lo hi : UInt8)
  deriving DecidableEq, Repr

/-- Reads a byte that starts a character: an ASCII byte is a character, a lead byte opens a
character, and any other byte is ill-formed on its own. -/
def start (b : UInt8) : List Char × Decoder :=
  if b < 0x80 then (Text.writeCodePoint b.toNat, .idle)
  else if b < 0xC2 then ([replacement], .idle)
  else if b < 0xE0 then ([], .pending (b.toNat - 0xC0) 1 0x80 0xBF)
  else if b == 0xE0 then ([], .pending 0 2 0xA0 0xBF)
  else if b == 0xED then ([], .pending 0xD 2 0x80 0x9F)
  else if b < 0xF0 then ([], .pending (b.toNat - 0xE0) 2 0x80 0xBF)
  else if b == 0xF0 then ([], .pending 0 3 0x90 0xBF)
  else if b < 0xF4 then ([], .pending (b.toNat - 0xF0) 3 0x80 0xBF)
  else if b == 0xF4 then ([], .pending 4 3 0x80 0x8F)
  else ([replacement], .idle)

/-- Reads one byte: the characters it completes, and the state after it. -/
def Decoder.step : Decoder → UInt8 → List Char × Decoder
  | .idle, b => start b
  | .pending bits needed lo hi, b =>
    if lo ≤ b && b ≤ hi then
      let bits := bits * 64 + (b.toNat - 0x80)
      if needed ≤ 1 then (Text.writeCodePoint bits, .idle)
      else ([], .pending bits (needed - 1) 0x80 0xBF)
    else
      let (cs, d) := start b
      (replacement :: cs, d)

/-- Reads a chunk of bytes: the characters it completes, and the state after it. -/
def Decoder.feed : Decoder → List UInt8 → List Char × Decoder
  | d, [] => ([], d)
  | d, b :: bs =>
    let (cs, d₁) := d.step b
    let (rest, d₂) := d₁.feed bs
    (cs ++ rest, d₂)

/-- Reading two chunks in turn gives the text and state of reading them as one. -/
theorem Decoder.feed_append (d : Decoder) (xs ys : List UInt8) :
    d.feed (xs ++ ys) =
      ((d.feed xs).1 ++ ((d.feed xs).2.feed ys).1, ((d.feed xs).2.feed ys).2) := by
  induction xs generalizing d with
  | nil => simp [feed]
  | cons b bs ih => simp [feed, ih]

/-- The text of a whole byte string, read by a fresh decoder and never finished: a character
still incomplete at the end gives nothing yet. -/
def decode (bs : List UInt8) : List Char :=
  (Decoder.idle.feed bs).1

/-- What ends the input: a character still incomplete is ill-formed, one replacement
character. -/
def Decoder.finish : Decoder → List Char
  | .idle => []
  | .pending .. => [replacement]

/-- The text of a complete byte string: read, then finished, so that nothing is held back. -/
def decodeAll (bs : List UInt8) : String :=
  let (cs, d) := Decoder.idle.feed bs
  String.ofList (cs ++ d.finish)

/-! ## Encoding -/

/-- The UTF-8 bytes of a code point, a surrogate among them, in one to four bytes. -/
def pointBytes (n : Nat) : List UInt8 :=
  if n < 0x80 then [n.toUInt8]
  else if n < 0x800 then [(0xC0 + n / 64).toUInt8, (0x80 + n % 64).toUInt8]
  else if n < 0x10000 then
    [(0xE0 + n / 4096).toUInt8, (0x80 + n / 64 % 64).toUInt8, (0x80 + n % 64).toUInt8]
  else
    [(0xF0 + n / 262144).toUInt8, (0x80 + n / 4096 % 64).toUInt8, (0x80 + n / 64 % 64).toUInt8,
      (0x80 + n % 64).toUInt8]

/-- A run of lone surrogates that UTF-8 cannot encode: its first surrogate, and its positions
from `start` up to, not including, `stop`, counted in code points. -/
structure EncodeError where
  first : Nat
  start : Nat
  stop : Nat
  deriving DecidableEq, Repr

/-- The message of a text that UTF-8 cannot encode. -/
def EncodeError.message (e : EncodeError) : String :=
  Text.encodeFailure "utf-8" e.first e.start e.stop "surrogates not allowed"

/-- The first run of lone surrogates among code points, the first of them at `pos`. -/
def firstSurrogates : List Nat → Nat → Option EncodeError
  | [], _ => none
  | n :: ns, pos =>
    if Text.isSurrogate n then
      some { first := n, start := pos, stop := pos + 1 + (ns.takeWhile Text.isSurrogate).length }
    else firstSurrogates ns (pos + 1)

/-- The UTF-8 bytes of a text, or the first run of lone surrogates that keeps it from having
any. -/
def encode (s : String) : Except EncodeError (List UInt8) :=
  let ns := Text.codePoints s.toList
  match firstSurrogates ns 0 with
  | some e => .error e
  | none => .ok (ns.flatMap pointBytes)

/-- The UTF-8 bytes of a text that holds no lone surrogate; a lone surrogate gets the three
bytes of its number all the same. -/
def bytesOf (s : String) : List UInt8 :=
  (Text.codePoints s.toList).flatMap pointBytes

end AgentLink.Utf8
