import TopicAccess.Decimal
import TopicAccess.Text.Loose

/-!
# JSON values

Values as they are read from request bodies and written to answers and logs. An integer and a number
with a fraction or an exponent are told apart, and the latter is kept as the decimal that was
written. The three names that are numbers but not finite are values too. A string in which half of a
surrogate pair stands alone is the text of nothing and is kept as its code points. So are the names
of an object that has a member of such a name; its values are in the order of its names.
-/
namespace TopicAccess

/-- The numbers that no decimal denotes. -/
inductive NonFinite where
  | nan
  | infinity
  | minusInfinity
deriving DecidableEq, Repr

def NonFinite.text : NonFinite → String
  | nan => "NaN"
  | infinity => "Infinity"
  | minusInfinity => "-Infinity"

/-- A JSON value. -/
inductive Json where
  | null
  | bool (value : Bool)
  | int (value : Int)
  | decimal (value : Decimal)
  | nonFinite (value : NonFinite)
  | str (text : String)
  | brokenStr (codes : List Nat)
  | arr (items : List Json)
  | obj (members : List (String × Json))
  | brokenObj (names : List (List Nat)) (values : List Json)
deriving Repr, Inhabited

namespace Json

/-- How deep values are nested and how many digits integers have at most where values are read or
written. Both depend on what else is going on, so they are not fixed. -/
structure Limits where
  depth : Nat
  digits : Nat
deriving DecidableEq, Repr

/-- The members of an object in the order of their first mention. -/
abbrev Fields := List (String × Json)

/-- Set a member. A member that is there keeps its place and loses its value. -/
def setMember {Name : Type} [DecidableEq Name] (name : Name) (value : Json) :
    List (Name × Json) → List (Name × Json)
  | [] => [(name, value)]
  | (other, old) :: rest =>
    if other = name then (other, value) :: rest else (other, old) :: setMember name value rest

/-- Members as they are read: of two with one name the later counts. -/
def distinctMembers {Name : Type} [DecidableEq Name] (members : List (Name × Json)) :
    List (Name × Json) :=
  members.foldl (fun known member => setMember member.1 member.2 known) []

/-- Set a member. A member that is there keeps its place and loses its value. -/
def Fields.insert (fields : Fields) (name : String) (value : Json) : Fields :=
  setMember name value fields

def Fields.insertAll (fields more : Fields) : Fields :=
  more.foldl (fun fields member => fields.insert member.1 member.2) fields

def Fields.get? (fields : Fields) (name : String) : Option Json :=
  fields.lookup name

def strings (texts : List String) : Json :=
  .arr (texts.map .str)

/-- The string that a loose text is. -/
def ofLoose (text : Text.Loose) : Json :=
  if text.all (·.char?.isSome) then .str (String.ofList (text.filterMap Text.Point.char?))
  else .brokenStr (text.map Text.Point.code)

@[simp] theorem ofLoose_ofString (text : String) : ofLoose (.ofString text) = .str text := by
  simp [ofLoose, Text.Loose.ofString, Function.comp_def, Text.Point.char?]

def ofOption : Option String → Json
  | none => .null
  | some text => .str text

def nat (n : Nat) : Json :=
  .int n

/-- The value of a member, if the value is an object that has it. -/
def get? : Json → String → Option Json
  | .obj members, name => members.lookup name
  | _, _ => none

mutual

/-- Whether every value inside a value that is no array and no object satisfies `p`. -/
def all (p : Json → Bool) : Json → Bool
  | .arr items => allItems p items
  | .obj members => allMembers p members
  | .brokenObj _ values => allItems p values
  | value => p value

/-- Whether every value inside a list of values satisfies `p`. -/
def allItems (p : Json → Bool) : List Json → Bool
  | [] => true
  | item :: rest => item.all p && allItems p rest

/-- Whether every value inside a list of members satisfies `p`. -/
def allMembers (p : Json → Bool) : List (String × Json) → Bool
  | [] => true
  | (_, value) :: rest => value.all p && allMembers p rest

end

def isFinite : Json → Bool :=
  all fun
    | .nonFinite _ => false
    | .decimal value => value.isFinite
    | _ => true

def str? : Json → Option String
  | .str text => some text
  | _ => none

def int? : Json → Option Int
  | .int value => some value
  | _ => none

end Json

end TopicAccess
