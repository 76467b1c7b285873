/-!
# Sets of code points as ranges

Character properties of the Unicode database are kept as arrays of ascending, disjoint ranges
of code points, both ends included, each range with a value when the property has one.
`Text.memRanges` and `Text.rangeValue?` look a code point up by halving the part of the array
that can still hold it, so a lookup takes a number of steps logarithmic in the number of
ranges.
-/

namespace AgentLink.Text

/-- Whether the code point `n` lies in one of the ranges from index `lo` below `hi`, found by
halving. -/
def inRanges (rs : Array (Nat × Nat)) (n : Nat) (lo hi : Nat) : Bool :=
  if lo < hi then
    let mid := (lo + hi) / 2
    let (a, b) := rs.getD mid (0, 0)
    if n < a then inRanges rs n lo mid
    else if b < n then inRanges rs n (mid + 1) hi
    else true
  else false
termination_by hi - lo

/-- Whether the code point `n` lies in one of the ranges. -/
def memRanges (rs : Array (Nat × Nat)) (n : Nat) : Bool :=
  inRanges rs n 0 rs.size

/-- The value of the range that holds the code point `n`, among the ranges from index `lo`
below `hi`, found by halving. -/
def findRange? {α : Type} (rs : Array (Nat × Nat × α)) (n : Nat) (lo hi : Nat) : Option α :=
  if lo < hi then
    let mid := (lo + hi) / 2
    match rs[mid]? with
    | some (a, b, v) =>
      if n < a then findRange? rs n lo mid
      else if b < n then findRange? rs n (mid + 1) hi
      else some v
    | none => none
  else none
termination_by hi - lo

/-- The value of the range that holds the code point `n`, if one does. -/
def rangeValue? {α : Type} (rs : Array (Nat × Nat × α)) (n : Nat) : Option α :=
  findRange? rs n 0 rs.size

end AgentLink.Text
