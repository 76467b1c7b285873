import AgentLink.Decimal.Shortest

/-!
# Laying out a float as text

A float's text is its shortest decimal (`Decimal.Binary.shortest`) laid out by a `Decimal.Style`:
positionally when the exponent of the leading digit lies in a range, with `.0` after a whole
number, and otherwise in scientific form with a signed exponent of at least two digits. The
sign comes first, also for negative zero; the texts of NaN and infinity are the style's.
`Decimal.fixedText` writes a float with a fixed number of places instead.
-/

namespace AgentLink.Decimal

/-- How a float is written as text. -/
structure Style where
  /-- Leading-digit exponents `e` with `plainFrom ≤ e < plainBelow` are written positionally. -/
  plainFrom : Int
  /-- See `plainFrom`. -/
  plainBelow : Int
  /-- The text of NaN, written without a sign. -/
  nan : String
  /-- The text of infinity, after its sign. -/
  infinity : String

/-- A text of `n` zeros. -/
def zeros (n : Nat) : String :=
  String.ofList (List.replicate n '0')

/-- Lays out the decimal `digits · 10^exp` of a non-negative value. -/
def Style.layout (st : Style) (d : Dec) : String :=
  let s := Nat.toDigits 10 d.digits
  let lead := d.exp + s.length - 1
  if st.plainFrom ≤ lead ∧ lead < st.plainBelow then
    if 0 ≤ d.exp then String.ofList s ++ zeros d.exp.toNat ++ ".0"
    else if 0 ≤ lead then
      let cut := (lead + 1).toNat
      String.ofList (s.take cut) ++ "." ++ String.ofList (s.drop cut)
    else "0." ++ zeros (-lead - 1).toNat ++ String.ofList s
  else
    let mantissa := match s with
      | [c] => String.singleton c
      | c :: rest => String.singleton c ++ "." ++ String.ofList rest
      | [] => "0"
    let e := lead.natAbs
    mantissa ++ "e" ++ (if lead < 0 then "-" else "+") ++ (if e < 10 then "0" else "") ++
      String.ofList (Nat.toDigits 10 e)

/-- Whether the sign bit of a float is set. -/
def signBit (x : Float) : Bool :=
  x.toBits >>> 63 == 1

/-- The text of a float in the given style. -/
def Style.render (st : Style) (x : Float) : String :=
  if x.isNaN then st.nan
  else
    let sign := if signBit x then "-" else ""
    if x.isInf then sign ++ st.infinity
    else
      let b := Binary.ofBits x.toBits
      if b.mantissa == 0 then sign ++ "0.0" else sign ++ st.layout b.shortest

/-- The text of a float rounded to `places` decimal places, a tie going to the even neighbour;
NaN and infinity are `nan` and `inf`. -/
def fixedText (x : Float) (places : Nat) : String :=
  let sign := if signBit x then "-" else ""
  if x.isNaN then "nan"
  else if x.isInf then sign ++ "inf"
  else
    let n := (Binary.ofBits x.toBits).fixed places
    let s := Nat.toDigits 10 n
    let s := List.replicate (places + 1 - s.length) '0' ++ s
    let cut := s.length - places
    let whole := String.ofList (s.take cut)
    if places = 0 then sign ++ whole else sign ++ whole ++ "." ++ String.ofList (s.drop cut)

end AgentLink.Decimal
