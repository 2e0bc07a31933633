import TopicAccess.Json
import TopicAccess.Text.Digits

/-!
# Reading JSON

The reader takes a whole text or nothing. Only space, tab, line feed and carriage return may stand
between tokens, numbers have no leading zeros, and a string holds no control characters. The names
`NaN`, `Infinity` and `-Infinity` are read as numbers. Of two members of one name the later counts.

How deep values may be nested and how many digits an integer may have are limited. A text that goes
beyond a limit before it stops being JSON is told apart from one that is not JSON.

A value or the rest of a list is begun at most twice at one character, so twice the length of the
text bounds the depth of the recursion.
-/
namespace TopicAccess.Json

open Text (digitsValue hexValue?)

inductive ReadFault where
  | malformed
  | beyondLimits
deriving DecidableEq, Repr

/-- Something that has been read, and the text after it. -/
abbrev Reading (Value : Type) := Except ReadFault (Value × List Char)

def isSpace (c : Char) : Bool :=
  c == ' ' || c == '\t' || c == '\n' || c == '\r'

def skipSpace (text : List Char) : List Char :=
  text.dropWhile isSpace

def hexUnit? : List Char → Option (Nat × List Char)
  | a :: b :: c :: d :: rest => do
    let a ← hexValue? a
    let b ← hexValue? b
    let c ← hexValue? c
    let d ← hexValue? d
    some (((a * 16 + b) * 16 + c) * 16 + d, rest)
  | _ => none

/-- The code point of an escape of four digits, together with the second half of a surrogate pair.
A half without its other half stands for itself. -/
def unicodeEscape? (text : List Char) : Option (Nat × List Char) :=
  match hexUnit? text with
  | none => none
  | some (high, rest) =>
    if 0xD800 ≤ high && high ≤ 0xDBFF then
      match rest with
      | '\\' :: 'u' :: more =>
        match hexUnit? more with
        | some (low, rest') =>
          if 0xDC00 ≤ low && low ≤ 0xDFFF then
            some (0x10000 + (high - 0xD800) * 0x400 + (low - 0xDC00), rest')
          else some (high, rest)
        | none => some (high, rest)
      | _ => some (high, rest)
    else some (high, rest)

/-- The character that a letter after a backslash stands for. -/
def shortEscape? : Char → Option Char
  | '"' => some '"'
  | '\\' => some '\\'
  | '/' => some '/'
  | 'b' => some '\x08'
  | 'f' => some '\x0c'
  | 'n' => some '\n'
  | 'r' => some '\r'
  | 't' => some '\t'
  | _ => none

/-- The rest of a string after its opening quote, as code points. Those read so far are in
reverse. -/
def readString (fuel : Nat) (read : List Nat) (text : List Char) : Reading (List Nat) :=
  match fuel, text with
  | 0, _ => .error .malformed
  | _, [] => .error .malformed
  | fuel + 1, c :: rest =>
    if c = '"' then .ok (read.reverse, rest)
    else if c = '\\' then
      match rest with
      | 'u' :: more =>
        match unicodeEscape? more with
        | some (code, rest) => readString fuel (code :: read) rest
        | none => .error .malformed
      | letter :: more =>
        match shortEscape? letter with
        | some c => readString fuel (c.toNat :: read) more
        | none => .error .malformed
      | [] => .error .malformed
    else if c.toNat < 0x20 then .error .malformed
    else readString fuel (c.toNat :: read) rest

/-- The fraction after a point, if at least one digit follows the point. -/
def readFraction (text : List Char) : Option (List Char) × List Char :=
  match text with
  | '.' :: rest =>
    match rest.takeWhile Char.isDigit with
    | [] => (none, text)
    | digits => (some digits, rest.dropWhile Char.isDigit)
  | _ => (none, text)

/-- The exponent after its letter, if there is one with at least one digit. -/
def readExponent (text : List Char) : Option Int × List Char :=
  match text with
  | c :: rest =>
    if c = 'e' || c = 'E' then
      let (negative, digits) := match rest with
        | '-' :: more => (true, more)
        | '+' :: more => (false, more)
        | _ => (false, rest)
      match digits.takeWhile Char.isDigit with
      | [] => (none, text)
      | run =>
        let size : Int := digitsValue run
        (some (if negative then -size else size), digits.dropWhile Char.isDigit)
    else (none, text)
  | [] => (none, text)

def readMagnitude (limits : Limits) (negative : Bool) (text : List Char) : Reading Json :=
  let digits := match text with
    | '0' :: _ => ['0']
    | _ => text.takeWhile Char.isDigit
  if digits.isEmpty then .error .malformed
  else
    let (fraction, rest) := readFraction (text.drop digits.length)
    let (exponent, rest) := readExponent rest
    let places := fraction.getD []
    let coefficient := digitsValue (digits ++ places)
    match fraction, exponent with
    | none, none =>
      if limits.digits < digits.length then .error .beyondLimits
      else .ok (.int (if negative then -(coefficient : Int) else coefficient), rest)
    | _, _ => .ok (.decimal ⟨negative, coefficient, exponent.getD 0 - places.length⟩, rest)

def readNumber (limits : Limits) : List Char → Reading Json
  | '-' :: rest => readMagnitude limits true rest
  | text => readMagnitude limits false text

def afterWord? : List Char → List Char → Option (List Char)
  | [], text => some text
  | _ :: _, [] => none
  | c :: word, d :: text => if c = d then afterWord? word text else none

def names : List (List Char × Json) := [
  ("null".toList, .null),
  ("true".toList, .bool true),
  ("false".toList, .bool false),
  ("NaN".toList, .nonFinite .nan),
  ("Infinity".toList, .nonFinite .infinity),
  ("-Infinity".toList, .nonFinite .minusInfinity)]

def readName (text : List Char) : Option (Json × List Char) :=
  names.findSome? fun entry => (afterWord? entry.1 text).map fun rest => (entry.2, rest)

/-- The text of code points, unless half of a surrogate pair is among them. -/
def textOf? (codes : List Nat) : Option String :=
  if codes.any Text.isHalf then none
  else some (String.ofList (codes.map Char.ofNat))

def ofCodes (codes : List Nat) : Json :=
  match textOf? codes with
  | some text => .str text
  | none => .brokenStr codes

/-- The object with members whose names are given by their code points. -/
def ofMembers (members : List (List Nat × Json)) : Json :=
  match members.mapM fun member => (textOf? member.1).map fun name => (name, member.2) with
  | some members => .obj (distinctMembers members)
  | none =>
    let members := distinctMembers members
    .brokenObj (members.map (·.1)) (members.map (·.2))

mutual

/-- A value and the text after it. The depth counts the values that may still be opened inside one
another. -/
def readValue (limits : Limits) (fuel depth : Nat) (text : List Char) : Reading Json :=
  match fuel with
  | 0 => .error .malformed
  | fuel + 1 =>
    match text with
    | '"' :: rest =>
      (readString text.length [] rest).map fun (codes, rest) => (ofCodes codes, rest)
    | '[' :: rest =>
      match depth with
      | 0 => .error .beyondLimits
      | depth + 1 =>
        match skipSpace rest with
        | ']' :: rest => .ok (.arr [], rest)
        | rest => readItems limits fuel depth [] rest
    | '\x7b' :: rest =>
      match depth with
      | 0 => .error .beyondLimits
      | depth + 1 =>
        match skipSpace rest with
        | '\x7d' :: rest => .ok (.obj [], rest)
        | rest => readMembers limits fuel depth [] rest
    | text =>
      match readName text with
      | some named => .ok named
      | none => readNumber limits text

/-- The items of an array from an item on, those before it in reverse. -/
def readItems (limits : Limits) (fuel depth : Nat) (items : List Json) (text : List Char) :
    Reading Json :=
  match fuel with
  | 0 => .error .malformed
  | fuel + 1 =>
    match readValue limits fuel depth text with
    | .error fault => .error fault
    | .ok (item, rest) =>
      match skipSpace rest with
      | ',' :: rest => readItems limits fuel depth (item :: items) (skipSpace rest)
      | ']' :: rest => .ok (.arr (item :: items).reverse, rest)
      | _ => .error .malformed

/-- The members of an object from a name on, those before it in reverse. -/
def readMembers (limits : Limits) (fuel depth : Nat) (members : List (List Nat × Json))
    (text : List Char) : Reading Json :=
  match fuel with
  | 0 => .error .malformed
  | fuel + 1 =>
    match text with
    | '"' :: rest =>
      match readString text.length [] rest with
      | .error fault => .error fault
      | .ok (name, rest) =>
        match skipSpace rest with
        | ':' :: rest =>
          match readValue limits fuel depth (skipSpace rest) with
          | .error fault => .error fault
          | .ok (value, rest) =>
            let members := (name, value) :: members
            match skipSpace rest with
            | ',' :: rest => readMembers limits fuel depth members (skipSpace rest)
            | '\x7d' :: rest => .ok (ofMembers members.reverse, rest)
            | _ => .error .malformed
        | _ => .error .malformed
    | _ => .error .malformed

end

def read (limits : Limits) (text : String) : Except ReadFault Json :=
  let text := text.toList
  match readValue limits (2 * text.length + 2) limits.depth (skipSpace text) with
  | .ok (value, rest) => if (skipSpace rest).isEmpty then .ok value else .error .malformed
  | .error fault => .error fault

/-- The value that a text is, however deep and however long. -/
def read? (text : String) : Option Json :=
  (read ⟨text.length, text.length⟩ text).toOption

end TopicAccess.Json
