/-!
# Estimates

How many rows there are, and what it costs to read them, is estimated as ten times the binary
logarithm of a number. A product of numbers is then the sum of their estimates; the estimate of a
sum is `Estimate.sum`, which is a little above the greater of the two.
-/

namespace TableGateway.Engine

/-- Ten times the binary logarithm of a number, which stands for the number. -/
abbrev Estimate := Int

namespace Estimate

/-- The tenths that the second to fourth bits of a number add. -/
def fractions : List Int := [0, 2, 3, 5, 6, 7, 8, 9]

/-- The estimate of a number; that of nothing is the one of one. -/
def ofNat (n : Nat) : Estimate :=
  if n < 2 then 0
  else
    let e := Nat.log2 n
    10 * (e : Int) + fractions.getD (8 * n / twoToThe e - 8) 0
where
  /-- A power of two. -/
  twoToThe (e : Nat) : Nat := 1 <<< e

/-- What a lesser number adds to a greater one, by the gap between their estimates. -/
def additions : List Int :=
  [10, 10, 9, 9, 8, 8, 7, 7, 7, 6, 6, 6, 5, 5, 5, 4, 4, 4, 4, 3, 3, 3, 3, 3, 3, 2, 2, 2, 2, 2, 2, 2]

/-- The gap from which on a lesser number adds nothing. -/
def largeGap : Nat := 50

/-- The estimate of the sum of two numbers. -/
def sum (a b : Estimate) : Estimate :=
  let gap := (a - b).natAbs
  if largeGap ≤ gap then max a b else max a b + additions.getD gap 1

/-- The estimate of how many steps a search among so many rows takes. -/
def steps (rows : Estimate) : Estimate := if rows ≤ 10 then 0 else ofNat rows.toNat - 33

end Estimate

end TableGateway.Engine
