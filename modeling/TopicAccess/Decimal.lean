/-!
# Decimals

A decimal is a sign, a coefficient and a power of ten. One value has many such forms; no operation
here depends on which is taken. The sign tells minus zero from zero.
-/
namespace TopicAccess

/-- The decimal `coefficient * 10 ^ exponent` with a sign. -/
structure Decimal where
  negative : Bool
  coefficient : Nat
  exponent : Int
deriving DecidableEq, Repr

namespace Decimal

def size (decimal : Decimal) : Nat :=
  (Nat.toDigits 10 decimal.coefficient).length

/-- Decimals from this power of ten on exceed every finite double. -/
def overflowPower : Int := 310

/-- Decimals below this power of ten are nearer to zero than to every other double. -/
def underflowPower : Int := -400

/-- Whether a decimal exceeds every finite double by its size alone. -/
def isHuge (decimal : Decimal) : Bool :=
  decimal.coefficient != 0 && overflowPower < decimal.size + decimal.exponent

/-- The natural number that the magnitude of a decimal is, if it has no fraction and is not huge. -/
def natural? (decimal : Decimal) : Option Nat :=
  let places := decimal.exponent.natAbs
  if decimal.coefficient = 0 then some 0
  else if decimal.isHuge then none
  else if 0 ≤ decimal.exponent then some (decimal.coefficient * Nat.pow 10 places)
  else if decimal.size < places then none
  else if decimal.coefficient % Nat.pow 10 places = 0 then
    some (decimal.coefficient / Nat.pow 10 places)
  else none

/-- The integer that a decimal is, if it has no fraction and is not huge. -/
def integer? (decimal : Decimal) : Option Int :=
  decimal.natural?.map fun n => if decimal.negative then -(n : Int) else n

def toFloat (decimal : Decimal) : Float :=
  let magnitude :=
    if decimal.coefficient = 0 || decimal.size + decimal.exponent < underflowPower then 0.0
    else if decimal.isHuge then 1.0 / 0.0
    else Float.ofScientific decimal.coefficient (decimal.exponent < 0) decimal.exponent.natAbs
  if decimal.negative then -magnitude else magnitude

def isFinite (decimal : Decimal) : Bool :=
  !decimal.toFloat.isInf

def text (decimal : Decimal) : String :=
  (if decimal.negative then "-" else "") ++ toString decimal.coefficient ++ "e" ++
    toString decimal.exponent

end Decimal

end TopicAccess
