/-!
# Punycode

Punycode, the Bootstring encoding of RFC 3492 with the parameters chosen for host names, writes
a text of any characters with ASCII letters, digits and the hyphen. The encoding
(`Punycode.encode`) is the text's ASCII characters, a hyphen when there are any, and then the
other characters, in increasing order of code point, each as a variable-length number in base
36 that says how far to move on before inserting it. Each digit of such a number is below a
threshold only when it is the last one; the thresholds follow a bias that adapts to the sizes
of the numbers before (`Punycode.adapt`).

The decoding (`Punycode.decode`) splits the text at its last hyphen, reads the numbers after it
with letters of either case, and inserts the characters they name into the ASCII part before
it. A number cut short, a character that is no digit, or a code point beyond Unicode makes the
text no Punycode; a surrogate it names is a code point like any other.

Every loop ends: the bias adaptation divides its number by 35, the digits of a number divide
it by at least 25, the insertions go through the distinct code points once, and each number
read consumes at least one character.
-/

namespace AgentLink.Punycode

/-- The character of a digit: `a` to `z` for 0 to 25, `0` to `9` for 26 to 35. -/
def digitChar (d : Nat) : Char :=
  if d < 26 then Char.ofNat (0x61 + d) else Char.ofNat (0x30 + d - 26)

/-- The value of a digit, a letter of either case or a decimal digit. -/
def digitValue? (c : Char) : Option Nat :=
  let n := c.toNat
  if 0x41 ≤ n && n ≤ 0x5A then some (n - 0x41)
  else if 0x61 ≤ n && n ≤ 0x7A then some (n - 0x61)
  else if 0x30 ≤ n && n ≤ 0x39 then some (n - 0x30 + 26)
  else none

/-- The threshold of the digit at weight position `k`: 1 at most, 26 at least, and `k - bias`
between. -/
def threshold (k bias : Nat) : Nat :=
  if k ≤ bias then 1 else if bias + 26 ≤ k then 26 else k - bias

theorem threshold_pos (k bias : Nat) : 1 ≤ threshold k bias := by
  unfold threshold
  split
  · omega
  · split <;> omega

theorem threshold_le (k bias : Nat) : threshold k bias ≤ 26 := by
  unfold threshold
  split
  · omega
  · split <;> omega

/-- Divides `delta` by 35 until it is at most 455, counting 36 for each division in `k`. -/
def scaleDown (delta k : Nat) : Nat × Nat :=
  if 455 < delta then scaleDown (delta / 35) (k + 36) else (delta, k)
termination_by delta
decreasing_by omega

/-- The bias after a number `delta`, with `points` characters now in the text; the first
number is damped by 700, the others halved. -/
def adapt (delta points : Nat) (first : Bool) : Nat :=
  let d := if first then delta / 700 else delta / 2
  let d := d + d / points
  let (d, k) := scaleDown d 0
  k + 36 * d / (d + 38)

/-- The digits of the number `q`, from weight position `k` on. -/
def encodeNumber (bias k q : Nat) : List Char :=
  let t := threshold k bias
  if q < t then [digitChar q]
  else digitChar (t + (q - t) % (36 - t)) :: encodeNumber bias (k + 36) ((q - t) / (36 - t))
termination_by q
decreasing_by
  have h1 := threshold_pos k bias
  have h2 := threshold_le k bias
  have : (q - threshold k bias) / (36 - threshold k bias) ≤ q - threshold k bias :=
    Nat.div_le_self _ _
  omega

/-- Where an encoding stands: the digits written, the count since the last insertion, the
bias, and how many characters are placed. -/
structure Encoding where
  out : List Char
  delta : Nat
  bias : Nat
  placed : Nat

/-- Passes one character of the text while inserting the code point `m`; `basic` is the count
of ASCII characters. -/
def pass (basic m : Nat) (e : Encoding) (c : Char) : Encoding :=
  if c.toNat < m then { e with delta := e.delta + 1 }
  else if c.toNat == m then
    { out := e.out ++ encodeNumber e.bias 36 e.delta, delta := 0,
      bias := adapt e.delta (e.placed + 1) (e.placed == basic), placed := e.placed + 1 }
  else e

/-- Inserts the code points `ms`, in increasing order, the last one inserted being below
`n`. -/
def insertAll (text : List Char) (basic : Nat) : List Nat → Nat → Encoding → Encoding
  | [], _, e => e
  | m :: ms, n, e =>
    let e := { e with delta := e.delta + (m - n) * (e.placed + 1) }
    let e := text.foldl (pass basic m) e
    insertAll text basic ms (m + 1) { e with delta := e.delta + 1 }

/-- A list of numbers in increasing order with the number `x` put in, once. -/
def insertOrdered (x : Nat) : List Nat → List Nat
  | [] => [x]
  | y :: ys => if x < y then x :: y :: ys else if x == y then y :: ys else y :: insertOrdered x ys

/-- The distinct numbers of a list, in increasing order. -/
def ordered : List Nat → List Nat
  | [] => []
  | x :: xs => insertOrdered x (ordered xs)

/-- The Punycode of a text. -/
def encode (text : List Char) : String :=
  let ascii := text.filter (·.toNat < 0x80)
  let others := ordered ((text.filter (0x80 ≤ ·.toNat)).map Char.toNat)
  let e := insertAll text ascii.length others 0x80
    { out := [], delta := 0, bias := 72, placed := ascii.length }
  String.ofList (ascii ++ (if ascii.isEmpty then [] else ['-']) ++ e.out)

/-- Reads one number from weight position `k` with weight `w`, added to `i`: the sum and the
text after the number. -/
def decodeNumber (bias : Nat) : List Char → Nat → Nat → Nat → Option (Nat × List Char)
  | [], _, _, _ => none
  | c :: rest, k, w, i =>
    match digitValue? c with
    | none => none
    | some d =>
      if d < threshold k bias then some (i + d * w, rest)
      else decodeNumber bias rest (k + 36) (w * (36 - threshold k bias)) (i + d * w)

theorem decodeNumber_shorter (bias : Nat) :
    ∀ (cs : List Char) (k w i : Nat) (r : Nat × List Char),
      decodeNumber bias cs k w i = some r → r.2.length < cs.length
  | [], _, _, _, _, h => by simp [decodeNumber] at h
  | c :: rest, k, w, i, r, h => by
    rw [decodeNumber] at h
    split at h
    · simp at h
    · split at h
      · rw [← Option.some.inj h]
        simp
      · have := decodeNumber_shorter bias rest (k + 36) _ _ r h
        simp only [List.length_cons]
        omega

/-- Inserts the code points the numbers of `digits` name into `out`, the last one inserted
being `n` at position `i - 1`. -/
def decodeFrom (bias n i : Nat) (out : List Nat) (digits : List Char) : Option (List Nat) :=
  match digits with
  | [] => some out
  | c :: rest =>
    match h : decodeNumber bias (c :: rest) 36 1 i with
    | none => none
    | some (i', more) =>
      let points := out.length + 1
      let n' := n + i' / points
      let pos := i' % points
      if n' < 0x110000 then
        decodeFrom (adapt (i' - i) points (i == 0)) n' (pos + 1) (out.insertIdx pos n') more
      else none
termination_by digits.length
decreasing_by
  have := decodeNumber_shorter bias (c :: rest) 36 1 i (i', more) h
  simpa using this

/-- The code points a Punycode text stands for, if it is one: the part before the last hyphen
must be ASCII. -/
def decode (s : String) : Option (List Nat) :=
  let cs := s.toList
  let (basic, digits) := match cs.reverse.span (· != '-') with
    | (tail, []) => ([], tail.reverse)
    | (tail, _ :: head) => (head.reverse, tail.reverse)
  if basic.any (0x80 ≤ ·.toNat) then none
  else decodeFrom 72 0x80 0 (basic.map Char.toNat) digits

end AgentLink.Punycode
