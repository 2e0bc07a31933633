import TopicAccess.Json.Kind
import TopicAccess.Json.Literal
import TopicAccess.Log.Layout
import TopicAccess.Text.Digits

/-!
# Places in the name of an event

The name of an event may have places that are filled with what comes along with the event. A place
begins with a percent sign; two percent signs stand for one. It may go on with a name in
parentheses, flags, a width and a precision, and it ends in a letter that says how the value is
written. A star in place of a width or a precision takes the value for it.

There is one value, which fills one place only. If it is an object, a place with a name is filled
with the member of that name. Only a text must have a place to go to.
-/
namespace TopicAccess.Log.Placeholder

inductive Fault where
  | noLength (kind : String)
  | noFirst
  | noMember (name : String)
  | notByName
  | notMapping
  | tooFew
  | tooMany
  | starNotInt
  | starTooLarge (type : String)
  | widthTooBig
  | precisionTooBig
  | incompleteKey
  | incomplete
  | unknownSign (c : Char) (position : Nat)
  | value (fault : Layout.Fault)
deriving DecidableEq, Repr

def shownSign (c : Char) : Char :=
  if 31 ≤ c.toNat && c.toNat ≤ 126 then c else '?'

def Fault.message : Fault → String
  | noLength kind => "object of type '" ++ kind ++ "' has no len()"
  | noFirst => "0"
  | noMember name => Text.quoted name
  | notByName => "list indices must be integers or slices, not str"
  | notMapping => "format requires a mapping"
  | tooFew => "not enough arguments for format string"
  | tooMany => "not all arguments converted during string formatting"
  | starNotInt => "* wants int"
  | starTooLarge type => "Python int too large to convert to C " ++ type
  | widthTooBig => "width too big"
  | precisionTooBig => "precision too big"
  | incompleteKey => "incomplete format key"
  | incomplete => "incomplete format"
  | unknownSign c position => "unsupported format character '" ++
      String.singleton (shownSign c) ++ "' (0x" ++ String.ofList (Nat.toDigits 16 c.toNat) ++
      ") at index " ++ toString position
  | value fault => fault.message

/-- What fills places: the members by name, and the value for the next place, unless it has been
used. -/
structure Filling where
  whole : Json
  next : Option Json

/-- The value of a filling. A value without a length fills nothing, and of an array with an object
only the object is taken. -/
def valueOf : Json → Except Fault Json
  | .bool _ => .error (.noLength "bool")
  | .int _ => .error (.noLength "int")
  | .decimal _ => .error (.noLength "float")
  | .nonFinite _ => .error (.noLength "float")
  | .obj [_] => .error .noFirst
  | .arr [.obj (member :: members)] => .ok (.obj (member :: members))
  | value => .ok value

/-- Whether places can be filled by name, or at least be tried to. -/
def hasNames : Json → Bool
  | .obj _ | .arr _ => true
  | _ => false

def Filling.take (filling : Filling) : Except Fault (Json × Filling) :=
  match filling.next with
  | some value => .ok (value, { filling with next := none })
  | none => .error .tooFew

def Filling.turnTo (filling : Filling) (name : List Char) : Except Fault Filling :=
  match filling.whole with
  | .obj members =>
    match members.lookup (String.ofList name) with
    | some value => .ok { filling with next := some value }
    | none => .error (.noMember (String.ofList name))
  | .arr _ => .error .notByName
  | _ => .error .notMapping

/-- A name up to the parenthesis that closes it, and the text behind that. The parentheses in a name
are in pairs. -/
def splitAtClose? (depth : Nat) : List Char → Option (List Char × List Char)
  | [] => none
  | ')' :: rest =>
    match depth with
    | 0 => some ([], rest)
    | depth + 1 => (splitAtClose? depth rest).map fun (name, after) => (')' :: name, after)
  | c :: rest =>
    (splitAtClose? (if c = '(' then depth + 1 else depth) rest).map fun (name, after) =>
      (c :: name, after)

def readName (filling : Filling) : List Char → Except Fault (Filling × List Char)
  | '(' :: rest =>
    if hasNames filling.whole then
      match splitAtClose? 0 rest with
      | some (name, after) => (filling.turnTo name).map fun filling => (filling, after)
      | none => .error .incompleteKey
    else .error .notMapping
  | text => .ok (filling, text)

def readFlags (style : Layout.Style) : List Char → Layout.Style × List Char
  | '-' :: rest => readFlags { style with leftmost := true } rest
  | '+' :: rest => readFlags { style with plus := true } rest
  | ' ' :: rest => readFlags { style with blank := true } rest
  | '#' :: rest => readFlags { style with alternate := true } rest
  | '0' :: rest => readFlags { style with zeros := true } rest
  | text => (style, text)

def maxWidth : Nat := Nat.pow 2 63 - 1

def maxPrecision : Nat := Nat.pow 2 31 - 1

/-- A number that is taken from a filling and lies in a range of so many values to either side. -/
def takeNumber (filling : Filling) (limit : Nat) (type : String) :
    Except Fault (Int × Filling) := do
  let (value, filling) ← filling.take
  let number ← match value with
    | .int number => Except.ok number
    | .bool flag => .ok (if flag then 1 else 0)
    | _ => .error .starNotInt
  if number ≤ (limit : Int) && -(limit : Int) - 1 ≤ number then return (number, filling)
  else Except.error (.starTooLarge type)

/-- Read a width. One below zero stands for its magnitude, and for a value on the left. -/
def readWidth (filling : Filling) (style : Layout.Style) :
    List Char → Except Fault (Layout.Style × Filling × List Char)
  | '*' :: rest =>
    (takeNumber filling maxWidth "ssize_t").map fun (number, filling) =>
      let style := if number < 0 then { style with leftmost := true } else style
      ({ style with width := some number.natAbs }, filling, rest)
  | text =>
    match text.takeWhile Char.isDigit with
    | [] => .ok (style, filling, text)
    | digits =>
      let width := Text.digitsValue digits
      if maxWidth < width then .error .widthTooBig
      else .ok ({ style with width := some width }, filling, text.drop digits.length)

/-- Read a precision behind a point. Without digits it is zero, and so it is below zero. -/
def readPrecision (filling : Filling) (style : Layout.Style) :
    List Char → Except Fault (Layout.Style × Filling × List Char)
  | '.' :: '*' :: rest =>
    (takeNumber filling maxPrecision "int").map fun (number, filling) =>
      ({ style with precision := some number.toNat }, filling, rest)
  | '.' :: rest =>
    let digits := rest.takeWhile Char.isDigit
    let precision := Text.digitsValue digits
    if maxPrecision < precision then .error .precisionTooBig
    else .ok ({ style with precision := some precision }, filling, rest.drop digits.length)
  | text => .ok (style, filling, text)

/-- Text without a letter for the size of a number, which says nothing. -/
def skipSize : List Char → List Char
  | c :: rest => if c = 'h' || c = 'l' || c = 'L' then rest else c :: rest
  | [] => []

/-- Fill the place that begins behind a percent sign: its text, the filling after it and the text
behind it. So many characters follow the place's sign in the text as a whole. -/
def fillPlace (length : Nat) (filling : Filling) (text : List Char) :
    Except Fault (List Char × Filling × List Char) := do
  let (filling, text) ← readName filling text
  let (style, text) := readFlags {} text
  let (style, filling, text) ← readWidth filling style text
  let (style, filling, text) ← readPrecision filling style text
  match skipSize text with
  | [] => Except.error .incomplete
  | c :: rest =>
    let (value, filling) ← filling.take
    match Layout.Conversion.ofChar? c with
    | none => Except.error (.unknownSign c (length - rest.length - 1))
    | some conversion =>
      let text ← (Layout.format style conversion value).mapError .value
      return (text, filling, rest)

def fillFrom (length fuel : Nat) (filling : Filling) : List Char → Except Fault (List Char)
  | [] =>
    if filling.next.isSome && !hasNames filling.whole then .error .tooMany else .ok []
  | '%' :: '%' :: rest =>
    match fuel with
    | 0 => .ok []
    | fuel + 1 => (fillFrom length fuel filling rest).map ('%' :: ·)
  | '%' :: rest =>
    match fuel with
    | 0 => .ok []
    | fuel + 1 => do
      let (text, filling, rest) ← fillPlace length filling rest
      let after ← fillFrom length fuel filling rest
      return text ++ after
  | c :: rest =>
    match fuel with
    | 0 => .ok []
    | fuel + 1 => (fillFrom length fuel filling rest).map (c :: ·)

def fill (name : String) (value : Json) : Except Fault String :=
  if value.isVoid then .ok name
  else match valueOf value with
    | .error fault => .error fault
    | .ok value =>
      let text := name.toList
      (fillFrom text.length text.length ⟨value, some value⟩ text).map String.ofList

end TopicAccess.Log.Placeholder
