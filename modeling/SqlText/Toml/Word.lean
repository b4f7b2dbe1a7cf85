import SqlText.Calendar.DateTime
import SqlText.Numeric.Binary
import SqlText.Toml.Value

/-!
# Words of TOML

Truth values, numbers and moments of time are written as single words.  This
file says which words are which.  A number that is too large to be kept is no word:
whole numbers have up to 128 bits, and numbers with a fraction or an exponent must
not be rounded to infinity.
-/

namespace SqlText.Toml

/-- Whether a text consists of digits in groups joined by single underscores. -/
def isGrouped (isDigit : Char → Bool) : List Char → Bool
  | [] => false
  | [c] => isDigit c
  | c :: '_' :: rest => isDigit c && isGrouped isDigit rest
  | c :: rest => isDigit c && isGrouped isDigit rest

/-- A word without its sign, and that sign. -/
def splitSign : List Char → Option Char × List Char
  | '-' :: rest => (some '-', rest)
  | '+' :: rest => (some '+', rest)
  | word => (none, word)

/-- The number that digits stand for after a sign. -/
def signed (sign : Option Char) (digits : List Char) : Int :=
  if sign = some '-' then -(numberOf 10 digits : Int) else numberOf 10 digits

/-- Decimal digits in groups, without a zero in front of other digits. -/
def isDecimal (digits : List Char) : Bool :=
  isGrouped Char.isDigit digits && (digits.length == 1 || digits.head? != some '0')

/-- The whole number that a word stands for. -/
def integer? (word : List Char) : Option Int :=
  match word with
  | '0' :: 'x' :: digits =>
      if isGrouped (isDigitOf 16) digits then some (numberOf 16 digits) else none
  | '0' :: 'o' :: digits =>
      if isGrouped (isDigitOf 8) digits then some (numberOf 8 digits) else none
  | '0' :: 'b' :: digits =>
      if isGrouped (isDigitOf 2) digits then some (numberOf 2 digits) else none
  | _ =>
      let (sign, digits) := splitSign word
      if isDecimal digits then some (signed sign digits) else none

/-- Whether a whole number is in range: it fits into 128 bits, with or without a
sign. -/
def isInRange (number : Int) : Bool :=
  -(Nat.pow 2 127 : Int) ≤ number && number < (Nat.pow 2 128 : Int)

/-- A number without its sign, cut at its point and at its exponent. -/
structure Decimal where
  whole : List Char
  fraction : Option (List Char)
  exponent : List Char

namespace Decimal

/-- Cuts a number at its point and at its exponent. -/
def of (body : List Char) : Decimal :=
  let isPart := fun c : Char => c.isDigit || c == '_'
  match body.dropWhile isPart with
  | '.' :: rest => ⟨body.takeWhile isPart, some (rest.takeWhile isPart), rest.dropWhile isPart⟩
  | rest => ⟨body.takeWhile isPart, none, rest⟩

/-- Whether a text is an exponent: a letter, perhaps a sign, and digits. -/
def isExponent : List Char → Bool
  | c :: rest => (c == 'e' || c == 'E') && isGrouped Char.isDigit (splitSign rest).2
  | [] => false

/-- Whether a number is written as it should be.  It needs a fraction or an
exponent. -/
def isWellFormed (number : Decimal) : Bool :=
  isDecimal number.whole && number.fraction.all (isGrouped Char.isDigit) &&
    if number.exponent.isEmpty then number.fraction.isSome else isExponent number.exponent

/-- All digits before the exponent, as one whole number. -/
def coefficient (number : Decimal) : Nat :=
  numberOf 10 (number.whole ++ number.fraction.getD [])

/-- The power of ten that belongs to the coefficient. -/
def power (number : Decimal) : Int :=
  let (sign, digits) := splitSign (number.exponent.drop 1)
  signed sign digits - (((number.fraction.getD []).filter Char.isDigit).length : Int)

end Decimal

/-- Whether a word is a number with a fraction or an exponent, infinite, or not a
number.  A number that would be rounded to infinity is none. -/
def isFloat (word : List Char) : Bool :=
  let body := (splitSign word).2
  let number := Decimal.of body
  body == "inf".toList || body == "nan".toList ||
    number.isWellFormed &&
      !Numeric.BinaryFormat.double.overflows number.coefficient number.power

/-- The two-digit number at the front of a text, with the rest. -/
def twoDigits? : List Char → Option (Nat × List Char)
  | a :: b :: rest =>
      if a.isDigit && b.isDigit then some (numberOf 10 [a, b], rest) else none
  | _ => none

/-- What follows a date at the front of a text. -/
def afterDate? : List Char → Option (List Char)
  | a :: b :: c :: d :: '-' :: rest => do
      if [a, b, c, d].all Char.isDigit then
        let (month, rest) ← twoDigits? rest
        let '-' :: rest := rest | none
        let (day, rest) ← twoDigits? rest
        let _ ← Calendar.Date.of? (numberOf 10 [a, b, c, d]) month day
        return rest
      else none
  | _ => none

/-- What follows a fraction of a second at the front of a text, if there is one. -/
def afterFraction? : List Char → Option (List Char)
  | '.' :: fraction =>
      if (fraction.takeWhile Char.isDigit).isEmpty then none
      else some (fraction.dropWhile Char.isDigit)
  | text => some text

/-- What follows the seconds of a time of day at the front of a text, if there are
any.  Second `60` is allowed. -/
def afterSeconds? : List Char → Option (List Char)
  | ':' :: text => do
      let (second, text) ← twoDigits? text
      if second ≤ 60 then afterFraction? text else none
  | text => some text

/-- What follows a time of day at the front of a text. -/
def afterTime? (text : List Char) : Option (List Char) := do
  let (hour, text) ← twoDigits? text
  let ':' :: text := text | none
  let (minute, text) ← twoDigits? text
  if hour < 24 ∧ minute < 60 then afterSeconds? text else none

/-- Whether a text is an offset from universal time. -/
def isOffset : List Char → Bool
  | ['Z'] => true
  | ['z'] => true
  | [sign, a, b, ':', c, d] =>
      (sign == '+' || sign == '-') && [a, b, c, d].all Char.isDigit &&
        numberOf 10 [a, b] < 24 && numberOf 10 [c, d] < 60
  | _ => false

/-- Whether a word is a date, a time, or both, perhaps with an offset. -/
def isMoment (word : List Char) : Bool :=
  match afterDate? word with
  | some [] => true
  | some (c :: rest) =>
      (c == 'T' || c == 't' || c == ' ') &&
        match afterTime? rest with
        | some [] => true
        | some offset => isOffset offset
        | none => false
  | none => afterTime? word == some []

/-- A character of a word. -/
def isWordCharacter (c : Char) : Bool :=
  c.isAlphanum || c == '+' || c == '-' || c == '_' || c == '.' || c == ':'

/-- The value of a word. -/
def wordValue? (word : List Char) : Option Value :=
  if word = "true".toList then some (.boolean true)
  else if word = "false".toList then some (.boolean false)
  else match integer? word with
    | some number => if isInRange number then some (.integer number) else none
    | none =>
        if isFloat word then some (.float (String.ofList word))
        else if isMoment word then some (.moment (String.ofList word))
        else none

/-- Splits a text after the word at its front.  A date and a time may be joined by
one space. -/
def splitWord (text : List Char) : List Char × List Char :=
  let word := text.takeWhile isWordCharacter
  match afterDate? word, text.dropWhile isWordCharacter with
  | some [], ' ' :: c :: rest =>
      if c.isDigit then
        (word ++ ' ' :: (c :: rest).takeWhile isWordCharacter,
          (c :: rest).dropWhile isWordCharacter)
      else (word, ' ' :: c :: rest)
  | _, rest => (word, rest)

end SqlText.Toml
