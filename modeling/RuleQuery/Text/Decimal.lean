/-!
**Decimal numbers as text.**

`decimal` writes an integer with a minus sign where it is negative and no zeros in front.
-/

namespace RuleQuery.Text

/-- The decimal digits of an integer, after a minus sign where it is negative. -/
def decimal (value : Int) : List Char :=
  if value < 0 then '-' :: Nat.toDigits 10 value.natAbs else Nat.toDigits 10 value.natAbs

/-- The decimal digits of a natural number. -/
def ofNat (value : Nat) : String :=
  String.ofList (Nat.toDigits 10 value)

/-- The value of a run of decimal digits, after a minus sign or not. -/
def decimalValue : List Char → Int
  | '-' :: digits => -(Nat.ofDigitChars 10 digits 0 : Int)
  | digits => (Nat.ofDigitChars 10 digits 0 : Int)

end RuleQuery.Text
