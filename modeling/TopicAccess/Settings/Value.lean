import TopicAccess.Text.Blank
import TopicAccess.Text.Digits
import TopicAccess.Validation

/-!
# Values of settings

A setting comes as a value of its type, or as a text or a number that stands for one. Truth values
have twelve spellings without regard to case. Integers may have a sign, leading zeros, single
underscores between digits, white space around them and a fraction of zeros.
-/
namespace TopicAccess.Settings

def trueWords : List String := ["1", "on", "t", "true", "y", "yes"]

def falseWords : List String := ["0", "off", "f", "false", "n", "no"]

def readText : Json → Except Complaint String
  | .str text => .ok text
  | _ => .error .notString

def readOptionalText : Json → Except Complaint (Option String)
  | .null => .ok none
  | value => (readText value).map some

def isWordSized (value : Int) : Bool :=
  -(Nat.pow 2 63 : Nat) ≤ value && value < (Nat.pow 2 63 : Nat)

def boolOfInt (value : Int) : Except Complaint Bool :=
  if value = 0 then .ok false
  else if value = 1 then .ok true
  else if isWordSized value then .error .unreadableBool
  else .error .notBool

def readBool : Json → Except Complaint Bool
  | .bool value => .ok value
  | .int value => boolOfInt value
  | .decimal value =>
    match value.integer? with
    | some value => boolOfInt value
    | none => .error .notBool
  | .str text =>
    let small := String.ofList (text.toList.map Char.toLower)
    if trueWords.contains small then .ok true
    else if falseWords.contains small then .ok false
    else .error .unreadableBool
  | _ => .error .notBool

/-- A number from the first digit that counts on. The zeros in front of it, and the underscores
among them, say nothing; one zero is kept where nothing or a point comes next. The character read
last is given. -/
def afterZeros (last : Char) : List Char → Option (List Char)
  | [] => some [last]
  | c :: rest =>
    if c = '0' || c = '_' then afterZeros c rest
    else if c = '.' then some (last :: c :: rest)
    else if c.isDigit || c = '-' then some (c :: rest)
    else none

/-- A number without sign from the first digit that counts on. It must begin with a digit. -/
def significant? : List Char → Option (List Char)
  | [] => none
  | c :: rest =>
    if c = '0' then afterZeros c rest else if c.isDigit then some (c :: rest) else none

/-- A number without its fraction, if that has at least one digit and all are zeros. -/
def withoutFraction (text : List Char) : List Char :=
  match text.dropWhile (· != '.') with
  | _ :: fraction =>
    if !fraction.isEmpty && fraction.all (· == '0') then text.takeWhile (· != '.') else text
  | [] => text

def hasDoubleUnderscore : List Char → Bool
  | '_' :: '_' :: _ => true
  | _ :: rest => hasDoubleUnderscore rest
  | [] => false

def withoutUnderscores (text : List Char) : List Char :=
  if text.head? = some '_' || text.getLast? = some '_' || hasDoubleUnderscore text then text
  else text.filter (· != '_')

def maxDigits : Nat := 4300

/-- The natural number that digits stand for. The first of several digits is not zero. -/
def readDigits (text : List Char) : Except Complaint Nat :=
  let digits := text.takeWhile Char.isDigit
  if digits.isEmpty || (digits.head? = some '0' && 1 < digits.length) then .error .unreadableInt
  else if maxDigits < digits.length then .error .oversizedInt
  else if digits.length < text.length then .error .unreadableInt
  else .ok (Text.digitsValue digits)

/-- The integer that digits behind an optional minus sign stand for. -/
def readSigned : List Char → Except Complaint Int
  | '-' :: digits => (readDigits digits).map fun n => -(n : Int)
  | digits => (readDigits digits).map fun n => (n : Int)

/-- The digits of a number without sign, with all that says nothing left out. A minus sign may be
among what is left, where it follows zeros. -/
def plainNumber? (text : List Char) : Option (List Char) :=
  (significant? text).map fun text => withoutUnderscores (withoutFraction text)

def readIntText (text : List Char) : Except Complaint Int :=
  let plain := match Text.dropEnds Text.isWhiteSpace text with
    | '-' :: rest => (plainNumber? rest).map ('-' :: ·)
    | '+' :: rest => plainNumber? rest
    | rest => plainNumber? rest
  match plain with
  | some text => readSigned text
  | none => .error .unreadableInt

def readInt : Json → Except Complaint Int
  | .int value => .ok value
  | .bool value => .ok (if value then 1 else 0)
  | .decimal value =>
    if value.isHuge then .error .infiniteInt
    else match value.integer? with
      | some value => if isWordSized value then .ok value else .error .oversizedInt
      | none => .error .fractionalInt
  | .nonFinite _ => .error .infiniteInt
  | .str text => readIntText text.toList
  | _ => .error .notInt

end TopicAccess.Settings
