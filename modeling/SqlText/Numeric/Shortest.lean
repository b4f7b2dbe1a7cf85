import SqlText.Numeric.Binary

/-!
# The fewest decimal digits that read back

A binary number stands for every real that rounds to it.  Among the decimals in
that interval the ones with the fewest digits are looked for grid by grid, from
coarse to fine: on the grid of the multiples of a power of ten, only the two
neighbours of the number can be the nearest ones, and the first grid that has a
neighbour in the interval decides.

Everything is exact.  The number and the ends of its interval are written as
natural numbers over one common power of ten, which is possible because a power
of two is a decimal of finitely many digits.

The text of a number has these digits and no others.  It is written without an
exponent, whatever the size of the number.
-/

namespace SqlText.Numeric

/-- The decimal `coefficient · 10^exponent`. -/
structure Decimal where
  coefficient : Nat
  exponent : Int
deriving DecidableEq

/-- The reals that round to a number, all counted in units of `10^exponent`.
The ends belong to it only if `closed`. -/
structure RoundingInterval where
  low : Nat
  value : Nat
  high : Nat
  closed : Bool
  exponent : Int
deriving DecidableEq

namespace RoundingInterval

/-- Whether a multiple of the unit lies in the interval. -/
def contains (interval : RoundingInterval) (n : Nat) : Bool :=
  if interval.closed then interval.low ≤ n && n ≤ interval.high
  else interval.low < n && n < interval.high

/-- The point nearest to the value among its two neighbours on the grid of the
multiples of `step`, if one of them lies in the interval.  It is given as a
count of steps.  A value halfway between two such points goes to the upper. -/
def nearestStep? (interval : RoundingInterval) (step : Nat) : Option Nat :=
  let below := interval.value / step
  let above := below + 1
  match interval.contains (below * step), interval.contains (above * step) with
  | false, false => none
  | true, false => some below
  | false, true => some above
  | true, true =>
      if interval.value - below * step < above * step - interval.value then some below
      else some above

/-- The first decimal found on the grids `10^places`, `10^(places-1)`, …, `1`.
The last grid holds the value itself. -/
def shortestFrom (interval : RoundingInterval) : Nat → Decimal
  | 0 => ⟨interval.value, interval.exponent⟩
  | places + 1 =>
      match interval.nearestStep? (Nat.pow 10 (places + 1)) with
      | some coefficient => ⟨coefficient, interval.exponent + (places + 1 : Nat)⟩
      | none => shortestFrom interval places

/-- The nearest of the decimals with the fewest digits in the interval. -/
def shortest (interval : RoundingInterval) : Decimal :=
  interval.shortestFrom (Nat.toDigits 10 interval.value).length

end RoundingInterval

namespace Finite

/-- The interval of the reals that round to a number: up to half a unit in the
last place on both sides, or a quarter below a number that is the least of its
binade.  A real halfway between two numbers rounds to the one with the even
significand.

The unit is a quarter of the last place, `2^(exponent - 2)`.  It is a natural
number, or else `5^k · 10^(-k)`. -/
def roundingInterval (x : Finite) : RoundingInterval :=
  let quarter := x.exponent - 2
  let unit := if 0 ≤ quarter then Nat.pow 2 quarter.toNat else Nat.pow 5 (-quarter).toNat
  { low := (4 * x.significand - if x.leastOfBinade then 1 else 2) * unit
    value := 4 * x.significand * unit
    high := (4 * x.significand + 2) * unit
    closed := x.significand % 2 == 0
    exponent := if 0 ≤ quarter then 0 else quarter }

/-- The decimal with the fewest digits that rounds to a number, and of those the
nearest. -/
def shortest (x : Finite) : Decimal :=
  x.roundingInterval.shortest

end Finite

/-! ## Positional text -/

/-- A text of `count` zeros. -/
def zeros (count : Nat) : String :=
  String.ofList (List.replicate count '0')

/-- A decimal in positional notation: zeros are appended for a positive exponent,
and a point is set for a negative one, with a zero before it if no digit is
left there. -/
def Decimal.text (x : Decimal) : String :=
  let digits := Nat.toDigits 10 x.coefficient
  let places := (-x.exponent).toNat
  if places = 0 then String.ofList digits ++ zeros x.exponent.toNat
  else if places < digits.length then
    String.ofList (digits.take (digits.length - places)) ++ "." ++
      String.ofList (digits.drop (digits.length - places))
  else "0." ++ zeros (places - digits.length) ++ String.ofList digits

/-- The text of a binary number.  The sign is kept on zero and dropped on what is
not a number. -/
def Binary.text {format : BinaryFormat} (x : Binary format) : String :=
  let sign := if x.isNegative then "-" else ""
  match x.magnitude with
  | .nan => "NaN"
  | .infinite => sign ++ "inf"
  | .zero => sign ++ "0"
  | .finite value => sign ++ value.shortest.text

end SqlText.Numeric
