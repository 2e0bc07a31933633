import TopicAccess.Decimal.Notation

/-!
# Rounded decimals

A number is written with a given number of digits behind the point, or with a given number of digits
in all. The value of a double is a fraction, which is rounded exactly: to the nearest multiple of a
power of ten, and to the even one of two that are equally near.
-/
namespace TopicAccess.Decimal

/-- The quotient rounded to the nearest number, and to the even one of two. -/
def roundDiv (size unit : Nat) : Nat :=
  let lower := size / unit
  let twice := 2 * (size % unit)
  if twice < unit || (twice == unit && lower % 2 == 0) then lower else lower + 1

/-- The nearest multiple of `10 ^ place`, as the number of times that it holds the power. -/
def Binary.multiple (value : Binary) (place : Int) : Nat :=
  let (size, unit) := scaled value.mantissa value.power place
  roundDiv size unit

def Binary.whole (value : Binary) : Nat :=
  let (size, unit) := scaled value.mantissa value.power 0
  size / unit

/-- The place of the first digit of a value: the last one from `place` down at which the value is
not below the power of ten. -/
def Binary.firstDigit (value : Binary) : Nat → Int → Int
  | 0, place => place
  | steps + 1, place =>
    let (size, unit) := scaled value.mantissa value.power place
    if unit ≤ size then place else value.firstDigit steps (place - 1)

/-- A positive value rounded to so many digits, the first of which is not zero, and the place of the
first digit. -/
def Binary.digits (value : Binary) (count : Nat) : Nat × Int :=
  let first := value.firstDigit gridCount value.firstPlace
  let digits := value.multiple (first - count + 1)
  if digits = Nat.pow 10 count then (digits / 10, first + 1) else (digits, first)

namespace Rounded

/-- How much of the fraction of a number is written. -/
structure Form where
  precision : Nat
  keepsPoint : Bool
deriving DecidableEq, Repr

/-- A whole part with a fraction. Without a fraction the point is kept only on demand. -/
def join (keepsPoint : Bool) (whole fraction : List Char) : List Char :=
  if fraction = [] && !keepsPoint then whole else whole ++ '.' :: fraction

/-- The digits of a number, with zeros in front up to a length. -/
def padded (length : Nat) (number : Nat) : List Char :=
  let digits := Nat.toDigits 10 number
  List.replicate (length - digits.length) '0' ++ digits

/-- A number with so many digits behind the point. -/
def fixed (form : Form) (value : Binary) : List Char :=
  let digits := padded (form.precision + 1) (value.multiple (-form.precision))
  let whole := digits.length - form.precision
  join form.keepsPoint (digits.take whole) (digits.drop whole)

/-- The digits of a number, so many in all, and the place of the first. -/
def leading (count : Nat) (value : Binary) : List Char × Int :=
  if value.mantissa = 0 then (List.replicate count '0', 0)
  else
    let (digits, first) := value.digits count
    (Nat.toDigits 10 digits, first)

/-- Digits with a point behind the first, and the place of the first as an exponent. -/
def withExponent (keepsPoint : Bool) (digits : List Char) (first : Int) : List Char :=
  join keepsPoint (digits.take 1) (digits.drop 1) ++ 'e' :: Notation.exponent first

/-- A number with so many digits behind the point, of which one stands before it, and an
exponent. -/
def scientific (form : Form) (value : Binary) : List Char :=
  let (digits, first) := leading (form.precision + 1) value
  withExponent form.keepsPoint digits first

/-- A fraction without the zeros at its end, unless the point is kept. -/
def trimmed (keepsPoint : Bool) (fraction : List Char) : List Char :=
  if keepsPoint then fraction else (fraction.reverse.dropWhile (· == '0')).reverse

/-- The least place of a first digit at which a number is written without an exponent. -/
def leastPlace : Int := -4

/-- A number with at most so many digits in all, with an exponent where it is very small or has more
digits before the point. -/
def general (form : Form) (value : Binary) : List Char :=
  let count := max form.precision 1
  let (digits, first) := leading count value
  if first < leastPlace || (count : Int) ≤ first then
    withExponent form.keepsPoint (digits.take 1 ++ trimmed form.keepsPoint (digits.drop 1)) first
  else if first < 0 then
    join form.keepsPoint ['0']
      (trimmed form.keepsPoint (List.replicate (-first - 1).toNat '0' ++ digits))
  else
    let whole := first.toNat + 1
    join form.keepsPoint (digits.take whole) (trimmed form.keepsPoint (digits.drop whole))

end Rounded

end TopicAccess.Decimal
