import Worksheet.Formula.Basic

/-!
# Aggregates

The functions a formula can apply to the numbers of a range.

The numbers are taken in the order of the range, which matters for sums in
double precision, and for the two zeros, of which the last one decides an
extremum. Without numbers every function gives zero.

## Main definitions

* `Aggregate.total`: The sum, from left to right.
* `Aggregate.apply`: The value of a function.
-/

namespace Worksheet

namespace Aggregate

/-- The sum of some numbers, added to zero from left to right. -/
def total (xs : List Number) : Number :=
  xs.foldl (· + ·) (Number.zero false)

/-- The value of a function of some numbers. -/
def apply (f : Aggregate) (xs : List Number) : Number :=
  if xs.isEmpty then
    Number.zero false
  else
    match f with
    | sum => total xs
    | avg => total xs / Number.ofNat xs.length
    | min => xs.foldl Number.smaller (.infinity false)
    | max => xs.foldl Number.larger (.infinity true)

end Aggregate

end Worksheet
