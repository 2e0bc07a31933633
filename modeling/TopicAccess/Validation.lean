import TopicAccess.Json

/-!
# Validation of input

A value that is no valid input is answered by a complaint and the place of the value. All places are
looked at, so that every complaint is made at once.
-/
namespace TopicAccess

/-- What is wrong with a value. -/
inductive Complaint where
  | missing
  | notString
  | notUnicode
  | emptyString
  | notBool
  | unreadableBool
  | notInt
  | unreadableInt
  | oversizedInt
  | fractionalInt
  | infiniteInt
  | notOperation
  | notObject
  | notDictionary
  | notJson
deriving DecidableEq, Repr

namespace Complaint

def code : Complaint → String
  | missing => "missing"
  | notString => "string_type"
  | notUnicode => "string_unicode"
  | emptyString => "string_too_short"
  | notBool => "bool_type"
  | unreadableBool => "bool_parsing"
  | notInt => "int_type"
  | unreadableInt => "int_parsing"
  | oversizedInt => "int_parsing_size"
  | fractionalInt => "int_from_float"
  | infiniteInt => "finite_number"
  | notOperation => "enum"
  | notObject => "model_attributes_type"
  | notDictionary => "dict_type"
  | notJson => "json_invalid"

def message : Complaint → String
  | missing => "Field required"
  | notString => "Input should be a valid string"
  | notUnicode =>
    "Input should be a valid string, unable to parse raw data as a unicode string"
  | emptyString => "String should have at least 1 character"
  | notBool => "Input should be a valid boolean"
  | unreadableBool => "Input should be a valid boolean, unable to interpret input"
  | notInt => "Input should be a valid integer"
  | unreadableInt => "Input should be a valid integer, unable to parse string as an integer"
  | oversizedInt => "Unable to parse input string as an integer, exceeded maximum size"
  | fractionalInt => "Input should be a valid integer, got a number with a fractional part"
  | infiniteInt => "Input should be a finite number"
  | notOperation => "Input should be 'read' or 'write'"
  | notObject => "Input should be a valid dictionary or object to extract fields from"
  | notDictionary => "Input should be a valid dictionary"
  | notJson => "JSON decode error"

/-- What a complaint says of the rule that a value breaks. -/
def rule : Complaint → Json.Fields
  | emptyString => [("min_length", .int 1)]
  | notOperation => [("expected", .str "'read' or 'write'")]
  | _ => []

end Complaint

/-- A complaint and the place that it is about, from the outermost name on. -/
structure FieldFault where
  complaint : Complaint
  location : List String
deriving DecidableEq, Repr

def FieldFault.fields (fault : FieldFault) : Json.Fields :=
  [("type", .str fault.complaint.code), ("loc", .strings fault.location),
    ("msg", .str fault.complaint.message)]

def FieldFault.json (fault : FieldFault) : Json :=
  .obj fault.fields

def faultOf? {Value : Type} : Except FieldFault Value → Option FieldFault
  | .ok _ => none
  | .error fault => some fault

end TopicAccess
