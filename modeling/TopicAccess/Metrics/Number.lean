import TopicAccess.Decimal.Notation

/-!
# Numbers in the text form of metrics

A positive number with more than six digits before the point is written with an exponent. Any other
number is written as numbers usually are.
-/
namespace TopicAccess.Metrics.Number

open Decimal.Notation (digitsOf isNegative magnitude maxPositional)

/-- The most digits that a positive number has before the point when no exponent is written. -/
def maxWhole : Int := 6

def text (value : Float) : String :=
  if value.isNaN then "NaN"
  else if value.isInf then if isNegative value then "-Inf" else "+Inf"
  else
    let whole := if isNegative value then maxPositional else maxWhole
    String.ofList ((if isNegative value then ['-'] else []) ++ magnitude whole (digitsOf value))

end TopicAccess.Metrics.Number
