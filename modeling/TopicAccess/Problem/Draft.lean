import TopicAccess.Arguments
import TopicAccess.Json.Kind
import TopicAccess.Json.Literal
import TopicAccess.Problem
import TopicAccess.Validation

/-!
# Drafts of problems

A draft is what arguments of any kind tell of a problem. Nothing is wrong with it until a client is
to be told of it: then the code and the message must be texts and the details an object. Details
that say nothing count as none.
-/
namespace TopicAccess

namespace ProblemKind

def required : ProblemKind → List String
  | general => ["code", "message"]
  | rejected => ["message"]
  | immutable => []
  | unreadable => ["path"]

def optional : ProblemKind → List String
  | general => ["details"]
  | rejected => ["line", "line_number"]
  | immutable => ["message", "details"]
  | unreadable => ["message", "details"]

/-- Whether problems of a kind have a place in a file, which is where a line is rejected. -/
def hasPlace : ProblemKind → Bool
  | rejected => true
  | _ => false

/-- What is said of a kind whose problems have no place in a file. -/
def noPlaceMessage (kind : ProblemKind) : String :=
  "'" ++ kind.name ++ "' object has no attribute 'at_line'"

end ProblemKind

namespace Problem

/-- What is told of a problem. -/
structure Draft where
  kind : ProblemKind
  code : Json
  message : Json
  details : Json := .null
  line : Json := .null
  lineNumber : Json := .null

namespace Draft

/-- The draft of a kind of which all that must be told is told. A file is named behind what is said
of it. -/
def ofArguments (arguments : Json.Fields) (kind : ProblemKind) : Draft :=
  let given := fun name fallback => (arguments.get? name).getD fallback
  let details := given "details" .null
  match kind with
  | .general => { kind, code := given "code" .null, message := given "message" .null, details }
  | .rejected =>
    { kind, code := .str rejectedCode, message := given "message" .null
      line := given "line" .null, lineNumber := given "line_number" .null }
  | .immutable =>
    { kind, code := .str immutableCode, message := given "message" (.str immutableMessage)
      details }
  | .unreadable =>
    let said := given "message" (.str unreadableMessage)
    { kind, code := .str unreadableCode
      message := .str (said.display ++ ": " ++ (given "path" .null).display), details }

def make (kind : ProblemKind) (arguments : Json.Fields) : Except ArgumentFault Draft :=
  match Arguments.mismatch? (kind.name ++ ".__init__") kind.required kind.optional arguments with
  | some fault => .error fault
  | none => .ok (ofArguments arguments kind)

def atLine (draft : Draft) (number : Json) : Draft :=
  { draft with lineNumber := number }

def detail (name : String) : Json → Json.Fields
  | .null => []
  | value => [(name, value)]

def allDetails (draft : Draft) : Json :=
  if draft.kind.hasPlace then
    .obj (detail "line" draft.line ++ detail "line_number" draft.lineNumber)
  else if draft.details.isVoid then .obj []
  else draft.details

def textFault? (name : String) : Json → Option FieldFault
  | .str _ => none
  | _ => some ⟨.notString, [name]⟩

def detailsFault? : Json → Option FieldFault
  | .obj _ => none
  | _ => some ⟨.notDictionary, ["details"]⟩

/-- What a client is told of a draft, or every complaint about it. -/
def response (draft : Draft) : Except (List FieldFault) Json :=
  match [textFault? "code" draft.code, textFault? "message" draft.message,
      detailsFault? draft.allDetails].filterMap id with
  | [] => .ok (.obj [("code", draft.code), ("message", draft.message),
      ("details", draft.allDetails)])
  | faults => .error faults

end Draft

end Problem

end TopicAccess
