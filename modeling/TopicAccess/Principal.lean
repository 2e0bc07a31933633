/-!
# Principals

Rules are declared for, and questions are asked by, a named principal or an anonymous client. A
name that is missing or empty means an anonymous client.
-/
namespace TopicAccess

/-- Whom a rule is for, or who asks. -/
inductive Principal where
  | anonymous
  | named (name : String)
deriving DecidableEq, Repr

namespace Principal

/-- The principal of a name that may be missing or empty. -/
def ofUser : Option String → Principal
  | none => anonymous
  | some name => if name = "" then anonymous else named name

def user? : Principal → Option String
  | anonymous => none
  | named name => some name

end Principal

end TopicAccess
