import TopicAccess.Permission
import TopicAccess.Text.Quoted

/-!
# Rules

A rule grants a permission on the topics that a filter covers. Rules that come from elsewhere than
rule text are checked: the permission must be one of the three names and the filter must not be
empty.
-/
namespace TopicAccess

/-- A topic filter and the permission granted on the topics that it covers. -/
structure Rule where
  filter : String
  permission : Permission
deriving DecidableEq, Repr

inductive RuleFault where
  | unknownToken (token : String)
  | unknownPermission (literal : String)
  | emptyFilter
deriving DecidableEq, Repr

def RuleFault.message : RuleFault → String
  | unknownToken token => "Invalid permission token: " ++ token
  | unknownPermission literal => literal ++ " is not a valid Permission"
  | emptyFilter => "Authorization topic filter must not be empty"

def Permission.ofToken (token : String) : Except RuleFault Permission :=
  match Permission.ofToken? token.toList with
  | some permission => .ok permission
  | none => .error (.unknownToken token)

namespace Rule

def make (filter : String) (permission : Permission) : Except RuleFault Rule :=
  if filter = "" then .error .emptyFilter else .ok ⟨filter, permission⟩

/-- A rule from a filter and the name of a permission. The name is checked first; without one the
rule grants everything. -/
def ofParts (filter : String) (name : Option String) : Except RuleFault Rule :=
  match name with
  | none => make filter .readWrite
  | some name =>
    match Permission.ofName? name with
    | some permission => make filter permission
    | none => .error (.unknownPermission (Text.quoted name))

end Rule

end TopicAccess
