import AgentLink.Decimal.Layout

/-!
# Between floats and integers

`Decimal.truncate` cuts the fraction off a float, toward zero, exactly; NaN and the infinities
have no integer part and give a `Decimal.TruncateError`. `Decimal.floatOfInt?` rounds an
integer to the nearest float, a tie going to the even mantissa, and gives `none` when the
integer lies beyond the largest float.
-/

namespace AgentLink.Decimal

/-- Why a float has no integer part. -/
inductive TruncateError where
  | infinite
  | notANumber
  deriving DecidableEq, Repr

/-- The integer part of a float, toward zero. -/
def truncate (x : Float) : Except TruncateError Int :=
  if x.isNaN then .error .notANumber
  else if x.isInf then .error .infinite
  else
    let b := Binary.ofBits x.toBits
    let magnitude : Nat :=
      if 0 ≤ b.exp then b.mantissa * Nat.pow 2 b.exp.toNat else b.mantissa / Nat.pow 2 (-b.exp).toNat
    .ok (if signBit x then -(magnitude : Int) else magnitude)

/-- The float nearest to `m · 10^e`, a tie going to the even mantissa; infinity when it is too
large for a float, zero when it is too small. -/
def ofDecimal (m : Nat) (e : Int) : Float :=
  let size := (Nat.toDigits 10 m).length
  if m == 0 then 0
  else if 310 < e + size then Float.ofScientific 1 false 400
  else if e + size < -330 then 0
  else Float.ofScientific m (e < 0) e.natAbs

/-- The float nearest to an integer, or `none` when it is too large for a float. -/
def floatOfInt? (n : Int) : Option Float :=
  let x := Float.ofScientific n.natAbs false 0
  if x.isInf then none else some (if n < 0 then -x else x)

end AgentLink.Decimal
