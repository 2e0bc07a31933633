import TopicAccess.Decimal.Rounded
import TopicAccess.Json.Kind
import TopicAccess.Json.Literal

/-!
# Values in places

A value is written into a place as a message, as a literal, as an integer, as a number or as a
character. A style says how: with at least so many characters, on the left or on the right, with
zeros or blanks to fill the place up, and with a sign or a blank in front of what is not negative.
Zeros stand behind the sign and behind the mark of the base.
-/
namespace TopicAccess.Log.Layout

/-- How a value is written. -/
structure Style where
  leftmost : Bool := false
  plus : Bool := false
  blank : Bool := false
  alternate : Bool := false
  zeros : Bool := false
  width : Option Nat := none
  precision : Option Nat := none
deriving DecidableEq, Repr

/-- What a value is written as. A number is written with fixed places, with an exponent or with
whichever is shorter. -/
inductive Conversion where
  | message
  | literal
  | ascii
  | integer (letter : Char)
  | octal
  | hex (capitals : Bool)
  | fixed (capitals : Bool)
  | scientific (capitals : Bool)
  | general (capitals : Bool)
  | character
deriving DecidableEq, Repr

def Conversion.ofChar? : Char → Option Conversion
  | 's' => some .message
  | 'r' => some .literal
  | 'a' => some .ascii
  | 'd' => some (.integer 'd')
  | 'i' => some (.integer 'i')
  | 'u' => some (.integer 'u')
  | 'o' => some .octal
  | 'x' => some (.hex false)
  | 'X' => some (.hex true)
  | 'f' => some (.fixed false)
  | 'F' => some (.fixed true)
  | 'e' => some (.scientific false)
  | 'E' => some (.scientific true)
  | 'g' => some (.general false)
  | 'G' => some (.general true)
  | 'c' => some .character
  | _ => none

inductive Fault where
  | notReal (letter : Char) (kind : String)
  | notInteger (letter : Char) (kind : String)
  | notNumber (kind : String)
  | notCharacter
  | characterOutOfRange
  | infiniteInteger
  | nanInteger
  | tooLarge
  | precisionTooLarge
  | noRoom
deriving DecidableEq, Repr

def Fault.message : Fault → String
  | notReal letter kind =>
    "%" ++ String.singleton letter ++ " format: a real number is required, not " ++ kind
  | notInteger letter kind =>
    "%" ++ String.singleton letter ++ " format: an integer is required, not " ++ kind
  | notNumber kind => "must be real number, not " ++ kind
  | notCharacter => "%c requires int or char"
  | characterOutOfRange => "%c arg not in range(0x110000)"
  | infiniteInteger => "cannot convert float infinity to integer"
  | nanInteger => "cannot convert float NaN to integer"
  | tooLarge => "int too large to convert to float"
  | precisionTooLarge => "precision too large"
  | noRoom => ""

/-- A text before it is laid out: its sign, the mark of its base and what follows these. Only a
number can have a sign. -/
structure Parts where
  isNumber : Bool
  negative : Bool
  mark : List Char
  body : List Char
deriving DecidableEq, Repr

def Parts.ofText (text : List Char) : Parts :=
  ⟨false, false, [], text⟩

def Parts.sign (parts : Parts) (style : Style) : List Char :=
  if !parts.isNumber then []
  else if parts.negative then ['-']
  else if style.plus then ['+']
  else if style.blank then [' ']
  else []

def Parts.lay (parts : Parts) (style : Style) : List Char :=
  let front := parts.sign style ++ parts.mark
  let room := (style.width.getD 0) - (front.length + parts.body.length)
  if style.leftmost then front ++ parts.body ++ List.replicate room ' '
  else if style.zeros && parts.isNumber then
    front ++ List.replicate room '0' ++ parts.body
  else List.replicate room ' ' ++ front ++ parts.body

def widest : Nat := Nat.pow 2 33

def cut (style : Style) (text : String) : Parts :=
  match style.precision with
  | some precision => .ofText (text.toList.take precision)
  | none => .ofText text.toList

def asciiLiteral (value : Json) : String :=
  String.ofList (value.literal.toList.flatMap fun c =>
    if c.toNat < 0x80 then [c] else Text.codeEscape c)

def maxDigits : Nat := Nat.pow 2 31 - 4

/-- The parts of an integer in a base, with zeros in front up to the precision. -/
def ofInteger (style : Style) (base : Nat) (mark : List Char) (value : Int) :
    Except Fault Parts :=
  let precision := style.precision.getD 0
  if maxDigits < precision then .error .precisionTooLarge
  else
    let digits := Nat.toDigits base value.natAbs
    .ok ⟨true, value < 0, if style.alternate then mark else [],
      List.replicate (precision - digits.length) '0' ++ digits⟩

def wholeOf (value : Float) : Except Fault Int :=
  if value.isNaN then .error .nanInteger
  else if value.isInf then .error .infiniteInteger
  else
    let whole := (Decimal.Binary.ofBits value.toBits).whole
    .ok (if Decimal.Notation.isNegative value then -(whole : Int) else whole)

/-- The double that is a number without a finite decimal. -/
def floatOf : NonFinite → Float
  | .nan => 0.0 / 0.0
  | .infinity => 1.0 / 0.0
  | .minusInfinity => -1.0 / 0.0

/-- The integer of a value for which any number will do. -/
def anyInteger (letter : Char) : Json → Except Fault Int
  | .int value => .ok value
  | .bool value => .ok (if value then 1 else 0)
  | .decimal value => wholeOf value.toFloat
  | .nonFinite value => wholeOf (floatOf value)
  | value => .error (.notReal letter value.kind)

def exactInteger (letter : Char) : Json → Except Fault Int
  | .int value => .ok value
  | .bool value => .ok (if value then 1 else 0)
  | value => .error (.notInteger letter value.kind)

def anyFloat : Json → Except Fault Float
  | .int value =>
    let nearest := Decimal.toFloat ⟨value < 0, value.natAbs, 0⟩
    if nearest.isInf then .error .tooLarge else .ok nearest
  | .bool value => .ok (if value then 1.0 else 0.0)
  | .decimal value => .ok value.toFloat
  | .nonFinite value => .ok (floatOf value)
  | value => .error (.notNumber value.kind)

/-- The number of digits behind the point unless a precision is given. -/
def usualPrecision : Nat := 6

def inCase (capitals : Bool) (text : List Char) : List Char :=
  if capitals then text.map Char.toUpper else text

def ofFloat (style : Style) (capitals : Bool)
    (write : Decimal.Rounded.Form → Decimal.Binary → List Char) (value : Float) : Parts :=
  let text :=
    if value.isNaN then "nan".toList
    else if value.isInf then "inf".toList
    else
      write ⟨style.precision.getD usualPrecision, style.alternate⟩
        (Decimal.Binary.ofBits value.toBits)
  ⟨true, !value.isNaN && Decimal.Notation.isNegative value, [], inCase capitals text⟩

/-- The character of a value: a text of one character, or a code. -/
def anyCharacter : Json → Except Fault Char
  | .str text =>
    match text.toList with
    | [c] => .ok c
    | _ => .error .notCharacter
  | .int code =>
    if 0 ≤ code && code < 0x110000 then .ok (Char.ofNat code.toNat)
    else .error .characterOutOfRange
  | .bool value => .ok (if value then '\x01' else '\x00')
  | _ => .error .notCharacter

def partsOf (style : Style) (value : Json) : Conversion → Except Fault Parts
  | .message => .ok (cut style value.display)
  | .literal => .ok (cut style value.literal)
  | .ascii => .ok (cut style (asciiLiteral value))
  | .integer letter => (anyInteger letter value).bind (ofInteger style 10 [])
  | .octal => (exactInteger 'o' value).bind (ofInteger style 8 ['0', 'o'])
  | .hex false => (exactInteger 'x' value).bind (ofInteger style 16 ['0', 'x'])
  | .hex true => (exactInteger 'X' value).bind fun value =>
    (ofInteger style 16 ['0', 'X'] value).map fun parts =>
      { parts with body := parts.body.map Char.toUpper }
  | .fixed capitals => (anyFloat value).map (ofFloat style capitals Decimal.Rounded.fixed)
  | .scientific capitals =>
    (anyFloat value).map (ofFloat style capitals Decimal.Rounded.scientific)
  | .general capitals => (anyFloat value).map (ofFloat style capitals Decimal.Rounded.general)
  | .character => (anyCharacter value).map fun c => .ofText [c]

def format (style : Style) (conversion : Conversion) (value : Json) : Except Fault (List Char) :=
  match partsOf style value conversion with
  | .error fault => .error fault
  | .ok parts =>
    if widest < style.width.getD 0 then .error .noRoom else .ok (parts.lay style)

end TopicAccess.Log.Layout
