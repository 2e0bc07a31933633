import TopicAccess.Text.UpperCase

/-!
# Permissions

A rule grants reading, writing or both. In rule text a permission is named without regard to case,
under the full upper-case mapping of Unicode; everywhere else its name is exact.
-/
namespace TopicAccess

/-- What a rule grants on the topics that its filter covers. -/
inductive Permission where
  | read
  | write
  | readWrite
deriving DecidableEq, Repr

/-- What a principal may ask to do on a topic. -/
inductive Operation where
  | read
  | write
deriving DecidableEq, Repr

/-- The permission that an operation needs. -/
def Operation.permission : Operation → Permission
  | .read => .read
  | .write => .write

def Operation.name : Operation → String
  | .read => "read"
  | .write => "write"

/-- The operation of a given name, case included. -/
def Operation.ofName? (name : String) : Option Operation :=
  if name = "read" then some .read
  else if name = "write" then some .write
  else none

namespace Permission

def all : List Permission := [.read, .write, .readWrite]

def name : Permission → String
  | read => "read"
  | write => "write"
  | readWrite => "readwrite"

/-- The permission of a given name, case included. -/
def ofName? (text : String) : Option Permission :=
  all.find? fun permission => permission.name == text

def ofToken? (token : List Char) : Option Permission :=
  let capitals := Text.upper token
  if capitals = ['R', 'E', 'A', 'D'] then some .read
  else if capitals = ['W', 'R', 'I', 'T', 'E'] then some .write
  else if capitals = ['R', 'E', 'A', 'D', 'W', 'R', 'I', 'T', 'E'] then some .readWrite
  else none

/-- Whether one permission is enough where another is required: each suffices for itself, and
`readWrite` for all. -/
def grants (held required : Permission) : Bool :=
  held == required || held == readWrite

end Permission

end TopicAccess
