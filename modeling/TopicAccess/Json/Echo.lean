import TopicAccess.Decimal.Notation
import TopicAccess.Json
import TopicAccess.Text.Quoted

/-!
# Values that are quoted in answers

An answer that quotes a value leaves out the members whose names begin with a mark of internal use.
What is left is written without blanks, and every character stands for itself unless JSON wants it
escaped. Half of a surrogate pair cannot be sent; where the first of them stands is reported.
-/
namespace TopicAccess.Json

/-- What the names of members that are not quoted begin with. -/
def hiddenStart : List Char := ['_', 's', 'a']

def codesOf (text : String) : List Nat :=
  text.toList.map Char.toNat

def isQuoted (name : List Nat) : Bool :=
  !(hiddenStart.map Char.toNat).isPrefixOf name

mutual

def echo : Json → Json
  | .arr items => .arr (echoItems items)
  | .obj members => .obj (echoMembers members)
  | .brokenObj names values =>
    let members := (names.zip (echoItems values)).filter fun member => isQuoted member.1
    .brokenObj (members.map (·.1)) (members.map (·.2))
  | value => value

def echoItems : List Json → List Json
  | [] => []
  | item :: rest => echo item :: echoItems rest

def echoMembers : List (String × Json) → List (String × Json)
  | [] => []
  | (name, value) :: rest =>
    let rest := echoMembers rest
    if isQuoted (codesOf name) then (name, echo value) :: rest else rest

end

def spellCode (code : Nat) : List Nat :=
  match code with
  | 0x22 | 0x5C => [0x5C, code]
  | 0x08 => codesOf "\\b"
  | 0x09 => codesOf "\\t"
  | 0x0A => codesOf "\\n"
  | 0x0C => codesOf "\\f"
  | 0x0D => codesOf "\\r"
  | code =>
    if code < 0x20 then codesOf "\\u" ++ (Text.hexDigits 4 code).map Char.toNat else [code]

def spellString (codes : List Nat) : List Nat :=
  0x22 :: codes.flatMap spellCode ++ [0x22]

def spellList (parts : List (List Nat)) : List Nat :=
  (codesOf ",").intercalate parts

mutual

def spell : Json → List Nat
  | .null => codesOf "null"
  | .bool true => codesOf "true"
  | .bool false => codesOf "false"
  | .int value => codesOf (toString value)
  | .decimal value => codesOf (Decimal.Notation.text value.toFloat)
  | .nonFinite value => codesOf value.text
  | .str text => spellString (codesOf text)
  | .brokenStr codes => spellString codes
  | .arr items => codesOf "[" ++ spellList (spellItems items) ++ codesOf "]"
  | .obj members => codesOf "\x7b" ++ spellList (spellMembers members) ++ codesOf "\x7d"
  | .brokenObj names values =>
    let members := (names.zip (spellItems values)).map fun (name, value) =>
      spellString name ++ codesOf ":" ++ value
    codesOf "\x7b" ++ spellList members ++ codesOf "\x7d"

def spellItems : List Json → List (List Nat)
  | [] => []
  | item :: rest => spell item :: spellItems rest

def spellMembers : List (String × Json) → List (List Nat)
  | [] => []
  | (name, value) :: rest =>
    (spellString (codesOf name) ++ codesOf ":" ++ spell value) :: spellMembers rest

end

/-- The first halves of surrogate pairs in a value as it is written. -/
def lone? (value : Json) : Option Text.Lone :=
  let codes := spell value
  let before := codes.takeWhile (! Text.isHalf ·)
  match (codes.drop before.length).takeWhile Text.isHalf with
  | [] => none
  | run => some ⟨before.length, run⟩

end TopicAccess.Json
