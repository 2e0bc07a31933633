import TopicAccess.Json
import TopicAccess.Text.Quoted

/-!
# Writing JSON

Values are written without blanks and in ASCII: any other character is written as the escapes of its
16-bit units, and so is half of a surrogate pair that stands alone. A decimal is written with an
exponent, so that it is read as a decimal again.

A writer with limits writes nothing of a value that goes beyond them. Of several places where it
does the first one counts.
-/
namespace TopicAccess.Json

/-- The escape of a 16-bit unit. -/
def writeUnit (unit : Nat) : List Char :=
  '\\' :: 'u' :: Text.hexDigits 4 unit

/-- A code point beyond the visible characters of ASCII. -/
def writeCode (code : Nat) : List Char :=
  if code < 0x10000 then writeUnit code
  else
    let offset := code - 0x10000
    writeUnit (0xD800 + offset / 0x400) ++ writeUnit (0xDC00 + offset % 0x400)

def writeChar (c : Char) : List Char :=
  if c = '"' || c = '\\' then ['\\', c]
  else if 0x20 ≤ c.toNat && c.toNat < 0x7F then [c]
  else writeCode c.toNat

def writeString (text : String) : String :=
  String.ofList ('"' :: text.toList.flatMap writeChar ++ ['"'])

/-- A string that is no text between quotes, all of it written as escapes. -/
def writeCodes (codes : List Nat) : String :=
  String.ofList ('"' :: codes.flatMap writeCode ++ ['"'])

mutual

def write : Json → String
  | .null => "null"
  | .bool true => "true"
  | .bool false => "false"
  | .int value => toString value
  | .decimal value => value.text
  | .nonFinite value => value.text
  | .str text => writeString text
  | .brokenStr codes => writeCodes codes
  | .arr items => "[" ++ ",".intercalate (writeItems items) ++ "]"
  | .obj members => "\x7b" ++ ",".intercalate (writeMembers members) ++ "\x7d"
  | .brokenObj names values =>
    let members := (names.zip (writeItems values)).map fun (name, value) =>
      writeCodes name ++ ":" ++ value
    "\x7b" ++ ",".intercalate members ++ "\x7d"

def writeItems : List Json → List String
  | [] => []
  | item :: rest => write item :: writeItems rest

def writeMembers : List (String × Json) → List String
  | [] => []
  | (name, value) :: rest => (writeString name ++ ":" ++ write value) :: writeMembers rest

end

/-- Why a writer with limits does not write a value. -/
inductive WriteFault where
  | tooDeep
  | tooManyDigits (limit : Nat)
deriving DecidableEq, Repr

def WriteFault.message : WriteFault → String
  | tooDeep => "maximum recursion depth exceeded while encoding a JSON object"
  | tooManyDigits limit => "Exceeds the limit (" ++ toString limit ++ " digits) for integer " ++
      "string conversion; use sys.set_int_max_str_digits() to increase the limit"

mutual

/-- What keeps a value from being written. The depth counts the values that may still be opened
inside one another. -/
def faultWithin? (digits depth : Nat) : Json → Option WriteFault
  | .int value =>
    if digits < (Nat.toDigits 10 value.natAbs).length then some (.tooManyDigits digits) else none
  | .arr items =>
    match depth with
    | 0 => some .tooDeep
    | depth + 1 => itemsFault? digits depth items
  | .obj members =>
    match depth with
    | 0 => some .tooDeep
    | depth + 1 => membersFault? digits depth members
  | .brokenObj _ values =>
    match depth with
    | 0 => some .tooDeep
    | depth + 1 => itemsFault? digits depth values
  | _ => none

def itemsFault? (digits depth : Nat) : List Json → Option WriteFault
  | [] => none
  | item :: rest => (item.faultWithin? digits depth).or (itemsFault? digits depth rest)

def membersFault? (digits depth : Nat) : List (String × Json) → Option WriteFault
  | [] => none
  | (_, value) :: rest => (value.faultWithin? digits depth).or (membersFault? digits depth rest)

end

def writeFault? (limits : Limits) (value : Json) : Option WriteFault :=
  value.faultWithin? limits.digits limits.depth

end TopicAccess.Json
