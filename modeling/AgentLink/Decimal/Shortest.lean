/-!
# The shortest decimal that reads back

A finite binary64 value is `m · 2^q` (`Decimal.Binary`). The reals that round to it form an
interval: from halfway to the value below to halfway to the value above, both ends included
exactly when `m` is even; below a power of two the value below is nearer by half
(`Binary.narrowBelow`). A decimal `d · 10^e` (`Decimal.Dec`) reads back to the value when it
lies in that interval (`Binary.readsBack`), which is decided by comparing natural numbers.

`Binary.shortest` chooses the decimal that a reader of the value should see: for one, two, up
to seventeen significant digits it looks at the value's two neighbours on the grid of that many
digits, and the first grid on which a neighbour reads back wins; of two that do, the nearer is
taken, and an exact tie goes to the even digits. Trailing zeros of the digits move into the
exponent. `Binary.fixed` rounds the value itself to a fixed number of places instead, a tie
again going to the even neighbour.
-/

namespace AgentLink.Decimal

/-- A finite non-negative binary64 value `mantissa · 2^exp`. -/
structure Binary where
  mantissa : Nat
  exp : Int
  /-- Whether the value below is half as far away as the value above (a power of two). -/
  narrowBelow : Bool
  deriving DecidableEq, Repr

/-- The value that the bits of a finite float stand for, its sign left out. -/
def Binary.ofBits (b : UInt64) : Binary :=
  let e := ((b >>> 52) &&& 0x7FF).toNat
  let f := (b &&& 0xFFFFFFFFFFFFF).toNat
  if e == 0 then ⟨f, -1074, false⟩ else ⟨Nat.pow 2 52 + f, (e : Int) - 1075, f == 0 && e > 1⟩

/-- The decimal `digits · 10^exp`. -/
structure Dec where
  digits : Nat
  exp : Int
  deriving DecidableEq, Repr

/-- Compares `a · 10^i` with `n · 2^j` exactly. -/
def cmpScaled (a : Nat) (i : Int) (n : Nat) (j : Int) : Ordering :=
  compare (a * Nat.pow 10 i.toNat * Nat.pow 2 (-j).toNat)
    (n * Nat.pow 2 j.toNat * Nat.pow 10 (-i).toNat)

/-- Whether the decimal lies among the reals that round to the value, to nearest with ties to
the even mantissa. -/
def Binary.readsBack (x : Binary) (d : Dec) : Bool :=
  let lo := if x.narrowBelow then 4 * x.mantissa - 1 else 4 * x.mantissa - 2
  let hi := 4 * x.mantissa + 2
  let incl := x.mantissa % 2 == 0
  let cl := cmpScaled d.digits d.exp lo (x.exp - 2)
  let ch := cmpScaled d.digits d.exp hi (x.exp - 2)
  (cl == .gt || (incl && cl == .eq)) && (ch == .lt || (incl && ch == .eq))

/-- The value times `10^g`, as a numerator and a denominator of natural numbers. -/
def Binary.scaled (x : Binary) (g : Int) : Nat × Nat :=
  (x.mantissa * Nat.pow 2 x.exp.toNat * Nat.pow 10 g.toNat,
    Nat.pow 2 (-x.exp).toNat * Nat.pow 10 (-g).toNat)

/-- How many decimal digits a natural number has; zero has none. -/
def digitCount (n : Nat) : Nat :=
  if n = 0 then 0 else (Nat.toDigits 10 n).length

/-- The least `k` with the value below `10^k`, for a value of at least `10^-400`. -/
def Binary.scale (x : Binary) : Int :=
  let (num, den) := x.scaled 400
  (digitCount (num / den) : Int) - 400

/-- The value's two neighbours on the grid `10^g`, if either reads back: the nearer of them,
an exact tie going to the even digits. -/
def Binary.onGrid (x : Binary) (g : Int) : Option Dec :=
  let (num, den) := x.scaled (-g)
  let a := num / den
  let below : Dec := ⟨a, g⟩
  let above : Dec := ⟨a + 1, g⟩
  match x.readsBack below, x.readsBack above with
  | true, true =>
    match compare (2 * num) ((2 * a + 1) * den) with
    | .lt => some below
    | .gt => some above
    | .eq => some (if a % 2 == 0 then below else above)
  | true, false => some below
  | false, true => some above
  | false, false => none

/-- The exact decimal value of `mantissa · 2^exp`. -/
def Binary.exact (x : Binary) : Dec :=
  if 0 ≤ x.exp then ⟨x.mantissa * Nat.pow 2 x.exp.toNat, 0⟩
  else ⟨x.mantissa * Nat.pow 5 (-x.exp).toNat, x.exp⟩

/-- Moves the trailing zeros of the digits into the exponent. -/
def Dec.stripZeros (d : Dec) : Dec :=
  if h : d.digits ≠ 0 ∧ d.digits % 10 = 0 then
    Dec.stripZeros ⟨d.digits / 10, d.exp + 1⟩
  else d
termination_by d.digits
decreasing_by exact Nat.div_lt_self (Nat.pos_of_ne_zero h.1) (by decide)

/-- The shortest decimal that reads back to a non-zero value: the first of the grids of one to
seventeen significant digits on which a neighbour of the value reads back. -/
def Binary.shortest (x : Binary) : Dec :=
  let k := x.scale
  let found := (List.range 17).findSome? fun n => x.onGrid (k - (n + 1 : Nat))
  (found.getD x.exact).stripZeros

/-- Rounds the number `num / den` to the nearest integer, a tie going to the even one. -/
def roundHalfEven (num den : Nat) : Nat :=
  let q := num / den
  match compare (2 * (num % den)) den with
  | .lt => q
  | .gt => q + 1
  | .eq => if q % 2 == 0 then q else q + 1

/-- The value rounded to `places` decimal places, as the integer `value · 10^places`. -/
def Binary.fixed (x : Binary) (places : Nat) : Nat :=
  let (num, den) := x.scaled places
  roundHalfEven num den

end AgentLink.Decimal
