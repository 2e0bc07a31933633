import TopicAccess.Json

/-!
# Kinds of values

Messages name the kind of a value, and where a value serves as a flag it counts as false when it
says nothing.
-/
namespace TopicAccess.Json

def kind : Json → String
  | .null => "NoneType"
  | .bool _ => "bool"
  | .int _ => "int"
  | .decimal _ | .nonFinite _ => "float"
  | .str _ | .brokenStr _ => "str"
  | .arr _ => "list"
  | .obj _ | .brokenObj .. => "dict"

/-- Whether a value says nothing: it is missing, false, zero or empty. -/
def isVoid : Json → Bool
  | .null => true
  | .bool value => !value
  | .int value => value == 0
  | .decimal value => value.toFloat == 0.0
  | .str text => text == ""
  | .arr items => items.isEmpty
  | .obj members => members.isEmpty
  | .nonFinite _ | .brokenStr _ | .brokenObj .. => false

end TopicAccess.Json
