import TopicAccess.Decimal.Notation
import TopicAccess.Json
import TopicAccess.Text.Quoted

/-!
# Values as literals

Inside a message a value is shown as a literal: texts between quotes, `None`, `True` and `False` for
the values with a name, and a blank behind every comma and colon. A text that is a message of its
own is shown as it is.
-/
namespace TopicAccess.Json

def nonFiniteLiteral : NonFinite → String
  | .nan => "nan"
  | .infinity => "inf"
  | .minusInfinity => "-inf"

def decimalLiteral (value : Decimal) : String :=
  if value.isFinite then Decimal.Notation.text value.toFloat
  else nonFiniteLiteral (if value.negative then .minusInfinity else .infinity)

/-- A string that is no text as a literal: halves of surrogate pairs are written by their code. -/
def codesLiteral (codes : List Nat) : String :=
  let parts := codes.map fun code =>
    if Text.isHalf code then '\\' :: 'u' :: Text.hexDigits 4 code
    else Text.quoteChar '\'' (Char.ofNat code)
  "'" ++ String.ofList parts.flatten ++ "'"

mutual

def literal : Json → String
  | .null => "None"
  | .bool true => "True"
  | .bool false => "False"
  | .int value => toString value
  | .decimal value => decimalLiteral value
  | .nonFinite value => nonFiniteLiteral value
  | .str text => Text.quoted text
  | .brokenStr codes => codesLiteral codes
  | .arr items => "[" ++ ", ".intercalate (itemLiterals items) ++ "]"
  | .obj members => "\x7b" ++ ", ".intercalate (memberLiterals members) ++ "\x7d"
  | .brokenObj names values =>
    let members := (names.zip (itemLiterals values)).map fun (name, value) =>
      codesLiteral name ++ ": " ++ value
    "\x7b" ++ ", ".intercalate members ++ "\x7d"

def itemLiterals : List Json → List String
  | [] => []
  | item :: rest => literal item :: itemLiterals rest

def memberLiterals : List (String × Json) → List String
  | [] => []
  | (name, value) :: rest => (Text.quoted name ++ ": " ++ literal value) :: memberLiterals rest

end

def display : Json → String
  | .str text => text
  | value => value.literal

end TopicAccess.Json
