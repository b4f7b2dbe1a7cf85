/-!
# Values and digits of TOML

The values that a TOML document can hold, and the digits of which its numbers and
the escapes of its strings are made.  Numbers with a fraction and moments of time are
kept as they are written, since nothing here computes with them.
-/

namespace SqlText.Toml

/-- A value of a TOML document. -/
inductive Value
  | string (text : String)
  | integer (number : Int)
  | float (text : String)
  | boolean (truth : Bool)
  | moment (text : String)
  | array (items : List Value)
  | table (entries : List (String × Value))

/-- How deep arrays and inline tables may nest in each other, and how many keys
dots may join.  Documents that go deeper are refused. -/
def maxDepth : Nat := 80

/-- The entries of a table, in the order in which their keys appeared. -/
abbrev Table := List (String × Value)

/-! ## Digits -/

/-- The value of a hexadecimal digit, in either case. -/
def digitValue? (c : Char) : Option Nat :=
  if '0' ≤ c ∧ c ≤ '9' then some (c.toNat - '0'.toNat)
  else if 'a' ≤ c ∧ c ≤ 'f' then some (c.toNat - 'a'.toNat + 10)
  else if 'A' ≤ c ∧ c ≤ 'F' then some (c.toNat - 'A'.toNat + 10)
  else none

/-- Whether a character is a digit of a base. -/
def isDigitOf (base : Nat) (c : Char) : Bool :=
  (digitValue? c).any (· < base)

/-- The number that digits stand for in a base.  Characters that are no digits are
left out. -/
def numberOf (base : Nat) (digits : List Char) : Nat :=
  (digits.filterMap digitValue?).foldl (fun total digit => base * total + digit) 0

end SqlText.Toml
