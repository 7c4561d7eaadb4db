/-!
**The magnitude of numbers.**

A number that is no integer of 64 bits stands for a number in double precision, and has to be in its
range. Of its digits only so many count as 64 bits can hold: `significand` and `exponent` write the
number as an integer times a power of ten. Both factors are rounded to 53 bits, a half to the even
neighbour, and the number is out of range if their product rounds to more than the greatest double.
-/

namespace RuleQuery.Json

/-- The number that digits write after those with a value, as far as 64 bits hold it, and the digits
that are left. -/
def takeDigits (value : Nat) : List Char → Nat × List Char
  | [] => (value, [])
  | d :: rest =>
    let longer := value * 10 + (d.toNat - 48)
    if longer < UInt64.size then takeDigits longer rest else (value, d :: rest)

/-- A number rounded to 53 bits, a half to the even neighbour. -/
def roundDouble (n : Nat) : Nat :=
  let unit := 1 <<< (n.log2 - 52)
  let below := n / unit
  let rest := n % unit
  if 2 * rest < unit ∨ (2 * rest = unit ∧ below % 2 = 0) then below * unit else (below + 1) * unit

/-- The first number that rounds to more than the greatest double. -/
def doubleLimit : Nat :=
  1 <<< 1024 - 1 <<< 970

/-- An integer times a power of ten is in the range of doubles. -/
def isFinite (significand : Nat) (exponent : Int) : Bool :=
  significand = 0 ∨ exponent < 0 ∨
    (exponent ≤ 308 ∧ roundDouble significand * roundDouble (Nat.pow 10 exponent.toNat) < doubleLimit)

/-- The power of ten that an exponent writes. -/
def exponentValue : List Char → Int
  | [] => 0
  | _ :: '-' :: ds => -(Nat.ofDigitChars 10 ds 0 : Int)
  | _ :: '+' :: ds => Nat.ofDigitChars 10 ds 0
  | _ :: ds => Nat.ofDigitChars 10 ds 0

/-- **A number without its sign is in the range of doubles**, by its whole part and what follows it,
a fraction or an exponent. -/
def inRange (whole tail : List Char) : Bool :=
  let digits := if tail.head? = some '.' then (tail.drop 1).takeWhile Char.isDigit else []
  let (start, passed) := takeDigits 0 whole
  let (significand, unused) := takeDigits start digits
  let written := exponentValue (tail.dropWhile fun c => c = '.' ∨ c.isDigit)
  isFinite significand (passed.length + unused.length - digits.length + written)

end RuleQuery.Json
