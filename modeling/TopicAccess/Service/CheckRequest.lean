import TopicAccess.Json.Echo
import TopicAccess.Json.Encoding
import TopicAccess.Json.Reader
import TopicAccess.Permission
import TopicAccess.Validation

/-!
# Bodies of permission checks

A check names a topic, which must not be empty, an operation, and a user unless the client is
anonymous. Other members of the body are ignored.

A body that is no JSON text is complained about like a body with a wrong member. But a body whose
bytes are no text, or that goes beyond the limits of the reader, is not looked at.
-/
namespace TopicAccess

/-- A question that a client puts. -/
structure CheckRequest where
  topic : String
  operation : Operation
  user : Option String
deriving DecidableEq, Repr

/-- A complaint about a body, and the value complained about. -/
structure BodyFault where
  fault : FieldFault
  input : Json

/-- All that is told of a fault, the value complained about among it. -/
def BodyFault.json (fault : BodyFault) : Json :=
  let rule := match fault.fault.complaint.rule with
    | [] => []
    | rule => [("ctx", .obj rule)]
  .obj (fault.fault.fields ++ [("input", fault.input.echo)] ++ rule)

/-- Why a body gives no check: complaints about it, or it cannot be read at all. -/
inductive BodyFailure where
  | faulty (faults : List BodyFault)
  | unreadable

namespace CheckRequest

def bodyLocation : List String := ["body"]

def memberFault (name : String) (complaint : Complaint) (input : Json) : BodyFault :=
  ⟨⟨complaint, bodyLocation ++ [name]⟩, input⟩

/-- The members of a body whose names are texts, if the body is an object. -/
def members? : Json → Option Json.Fields
  | .obj members => some members
  | .brokenObj names values => some ((names.zip values).filterMap fun (name, value) =>
      (Json.textOf? name).map fun name => (name, value))
  | _ => none

def required {Value : Type} (body : Json) (members : Json.Fields) (name : String)
    (read : Json → Except Complaint Value) : Except BodyFault Value :=
  match members.get? name with
  | none => .error (memberFault name .missing body)
  | some value => (read value).mapError fun complaint => memberFault name complaint value

def readTopic : Json → Except Complaint String
  | .str text => if text = "" then .error .emptyString else .ok text
  | .brokenStr _ => .error .notUnicode
  | _ => .error .notString

def readOperation : Json → Except Complaint Operation
  | .str name =>
    match Operation.ofName? name with
    | some operation => .ok operation
    | none => .error .notOperation
  | .brokenStr _ => .error .notUnicode
  | _ => .error .notOperation

def readUser : Json → Except Complaint (Option String)
  | .null => .ok none
  | .str name => .ok (some name)
  | .brokenStr _ => .error .notUnicode
  | _ => .error .notString

def bodyFault? {Value : Type} : Except BodyFault Value → Option BodyFault
  | .ok _ => none
  | .error fault => some fault

def ofMembers (body : Json) (members : Json.Fields) : Except (List BodyFault) CheckRequest :=
  let topic := required body members "topic" readTopic
  let operation := required body members "operation" readOperation
  let user :=
    if (members.get? "user").isNone then .ok none else required body members "user" readUser
  match topic, operation, user with
  | .ok topic, .ok operation, .ok user => .ok { topic, operation, user }
  | _, _, _ => .error ([bodyFault? topic, bodyFault? operation, bodyFault? user].filterMap id)

def bodyFault (complaint : Complaint) (input : Json) : BodyFailure :=
  .faulty [⟨⟨complaint, bodyLocation⟩, input⟩]

def ofJson (body : Json) : Except BodyFailure CheckRequest :=
  match members? body with
  | some members => (ofMembers body members).mapError .faulty
  | none => .error (bodyFault .notObject body)

def ofText (limits : Json.Limits) (text : String) : Except BodyFailure CheckRequest :=
  match Json.read limits text with
  | .ok value => ofJson value
  | .error .malformed => .error (bodyFault .notJson (.obj []))
  | .error .beyondLimits => .error .unreadable

/-- The check that a body describes. A body that is not meant to be JSON is a text as a whole. -/
def ofBody (limits : Json.Limits) (isJson : Bool) (body : List UInt8) :
    Except BodyFailure CheckRequest :=
  if body.isEmpty then .error (bodyFault .missing .null)
  else if isJson then
    match Json.textOfBytes? body with
    | some text => ofText limits (String.ofList text)
    | none => .error .unreadable
  else ofJson (.str (String.ofList (Text.Utf8.decodeLossy body)))

end CheckRequest

end TopicAccess
