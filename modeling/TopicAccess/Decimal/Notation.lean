import TopicAccess.Decimal.Shortest

/-!
# Notation of numbers

A number is written with the fewest digits that identify it, with at least one digit on either side
of the point. An exponent is used below one ten-thousandth and, as a rule, from ten to the sixteenth
on.
-/
namespace TopicAccess.Decimal.Notation

/-- The most digits before the point that are written out at all. -/
def maxPositional : Int := 16

/-- The most zeros between the point and the first digit. -/
def maxLeadingZeros : Int := 3

/-- A first digit, and the others behind a point. -/
def mantissa : List Char → List Char
  | [] => []
  | [digit] => [digit]
  | digit :: rest => digit :: '.' :: rest

/-- Digits with a point among them, in front of them or behind them. -/
def positional (digits : List Char) (point : Int) : List Char :=
  if point ≤ 0 then '0' :: '.' :: List.replicate (-point).toNat '0' ++ digits
  else
    let whole := point.toNat
    if digits.length ≤ whole then
      digits ++ List.replicate (whole - digits.length) '0' ++ ['.', '0']
    else digits.take whole ++ '.' :: digits.drop whole

/-- An exponent of at least two digits. -/
def exponent (value : Int) : List Char :=
  let digits := Nat.toDigits 10 value.natAbs
  (if value < 0 then '-' else '+') :: List.replicate (2 - digits.length) '0' ++ digits

/-- The text of a magnitude that has at most so many digits before the point when no exponent is
written. -/
def magnitude (whole : Int) (number : Digits) : List Char :=
  let digits := Nat.toDigits 10 number.digits
  if number.point < -maxLeadingZeros || whole < number.point then
    mantissa digits ++ 'e' :: exponent (number.point - 1)
  else positional digits number.point

def isNegative (value : Float) : Bool :=
  value.toBits.toNat / Nat.pow 2 63 = 1

def digitsOf (value : Float) : Digits :=
  let binary := Binary.ofBits value.toBits
  if binary.mantissa = 0 then ⟨0, 1⟩ else binary.shortest

def text (value : Float) : String :=
  String.ofList ((if isNegative value then ['-'] else []) ++
    magnitude maxPositional (digitsOf value))

end TopicAccess.Decimal.Notation
