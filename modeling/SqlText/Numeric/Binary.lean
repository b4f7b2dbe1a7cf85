/-!
# Binary floating-point numbers

A binary number is kept as its bit pattern: a sign, a biased exponent and a
fraction.  This file reads a pattern as `± m · 2^q` with a natural number `m`, or
as an infinity, or as not a number, and compares patterns as numbers.

A decimal number `c · 10^e` that is rounded to a binary format becomes infinite
when it reaches the middle between the greatest finite number of the format and
the power of two after it.  Most numbers are far from that point, and the count of
their digits decides; only numbers of the same order are compared with it exactly,
so that no power of ten is larger than needed.
-/

namespace SqlText.Numeric

/-- The sizes of the two magnitude fields of an interchange format. -/
structure BinaryFormat where
  fractionBits : Nat
  exponentBits : Nat

namespace BinaryFormat

/-- The format of 32 bits. -/
def single : BinaryFormat := ⟨23, 8⟩

/-- The format of 64 bits. -/
def double : BinaryFormat := ⟨52, 11⟩

/-- The bits of a number: sign, exponent and fraction. -/
@[reducible] def width (format : BinaryFormat) : Nat :=
  1 + format.exponentBits + format.fractionBits

/-- What is added to an exponent before it is stored. -/
def bias (format : BinaryFormat) : Nat :=
  Nat.pow 2 (format.exponentBits - 1) - 1

end BinaryFormat

/-- A number of a binary format, as its bit pattern. -/
structure Binary (format : BinaryFormat) where
  bits : BitVec format.width
deriving DecidableEq

/-- The numbers of 32 bits. -/
abbrev Binary32 := Binary .single

/-- The numbers of 64 bits. -/
abbrev Binary64 := Binary .double

/-- A positive finite number `significand · 2^exponent` together with where it
lies in its binade: `leastOfBinade` says that the numbers just below it are
twice as dense as those just above. -/
structure Finite where
  significand : Nat
  exponent : Int
  leastOfBinade : Bool
deriving DecidableEq

/-- What the magnitude bits of a pattern stand for. -/
inductive Magnitude
  | nan
  | infinite
  | zero
  | finite (value : Finite)
deriving DecidableEq

namespace Binary

variable {format : BinaryFormat}

/-- Whether the sign bit is set. -/
def isNegative (x : Binary format) : Bool :=
  Nat.pow 2 (format.exponentBits + format.fractionBits) ≤ x.bits.toNat

/-- The stored fraction. -/
def fraction (x : Binary format) : Nat :=
  x.bits.toNat % Nat.pow 2 format.fractionBits

/-- The stored exponent, with the bias still in it. -/
def biasedExponent (x : Binary format) : Nat :=
  x.bits.toNat / Nat.pow 2 format.fractionBits % Nat.pow 2 format.exponentBits

/-- Reads the magnitude.  The greatest exponent is kept for infinity and for what
is not a number; the least one, zero, for numbers without the implied leading
bit. -/
def magnitude (x : Binary format) : Magnitude :=
  if x.biasedExponent = Nat.pow 2 format.exponentBits - 1 then
    if x.fraction = 0 then .infinite else .nan
  else if x.biasedExponent = 0 then
    if x.fraction = 0 then .zero
    else .finite ⟨x.fraction, 1 - (format.bias + format.fractionBits : Int), false⟩
  else
    .finite ⟨Nat.pow 2 format.fractionBits + x.fraction,
      x.biasedExponent - (format.bias + format.fractionBits : Int),
      x.fraction = 0 && 1 < x.biasedExponent⟩

/-- Equality of numbers: the two zeros are equal, and what is not a number equals
nothing, itself included. -/
def same (x y : Binary format) : Bool :=
  match x.magnitude, y.magnitude with
  | .nan, _ => false
  | _, .nan => false
  | .zero, .zero => true
  | _, _ => x == y

end Binary

/-! ## Decimal numbers beyond the range -/

namespace BinaryFormat

/-- The least number that is rounded to infinity: half a unit in the last place
above the greatest finite number.  It is a tie, and its even neighbour is the power
of two. -/
def infinityThreshold (format : BinaryFormat) : Nat :=
  (Nat.pow 2 (format.fractionBits + 2) - 1) * Nat.pow 2 (format.bias - format.fractionBits - 1)

end BinaryFormat

/-- How many decimal digits a number has. -/
def decimalLength (number : Nat) : Nat :=
  (Nat.toDigits 10 number).length

/-- Whether `coefficient · 10^exponent` is at least `bound`. -/
def reaches (bound coefficient : Nat) : (exponent : Int) → Bool
  | .ofNat e => bound ≤ coefficient * Nat.pow 10 e
  | .negSucc e => bound * Nat.pow 10 (e + 1) ≤ coefficient

/-- Whether `coefficient · 10^exponent` is rounded to infinity. -/
def BinaryFormat.overflows (format : BinaryFormat) (coefficient : Nat) (exponent : Int) : Bool :=
  let bound := format.infinityThreshold
  let order := decimalLength coefficient + exponent
  if coefficient = 0 ∨ order < decimalLength bound then false
  else if decimalLength bound < order then true
  else reaches bound coefficient exponent

end SqlText.Numeric
