import TopicAccess.Directive
import TopicAccess.Json

/-!
# Problems

A problem is what is reported when rules cannot be taken over: it has a code, a message and details.
The line and the line number of a rejected line are details as far as they are known. A message is
loose text, since the path of a file may be.
-/
namespace TopicAccess

open Text (Loose)

/-- The kinds of problems. -/
inductive ProblemKind where
  | general
  | rejected
  | immutable
  | unreadable
deriving DecidableEq, Repr

namespace ProblemKind

def all : List ProblemKind := [general, rejected, immutable, unreadable]

def name : ProblemKind → String
  | general => "AclException"
  | rejected => "ParseError"
  | immutable => "ImmutableCollectorError"
  | unreadable => "AclFileError"

def ofName? (name : String) : Option ProblemKind :=
  all.find? (·.name == name)

end ProblemKind

/-- What is reported. -/
inductive Problem where
  | general (code message : String) (details : Json.Fields)
  | rejected (message : String) (line : Option String) (lineNumber : Option Int)
  | immutable (message : String) (details : Json.Fields)
  | unreadable (path : Loose) (message : String) (details : Json.Fields)
deriving Repr

namespace Problem

/-- What is said of a collector that takes no rules, unless something else is said. -/
def immutableMessage : String := "Collector is immutable"

/-- What is said of a file that cannot be read, unless something else is said. -/
def unreadableMessage : String := "Unable to read ACL file"

def kind : Problem → ProblemKind
  | general .. => .general
  | rejected .. => .rejected
  | immutable .. => .immutable
  | unreadable .. => .unreadable

def rejectedCode : String := "PARSE_ERROR"

def immutableCode : String := "IMMUTABLE_COLLECTOR"

def unreadableCode : String := "ACL_FILE_ERROR"

def code : Problem → String
  | general code _ _ => code
  | rejected _ _ _ => rejectedCode
  | immutable _ _ => immutableCode
  | unreadable _ _ _ => unreadableCode

/-- The message of a problem. A file is named behind what is said of it. -/
def message : Problem → Loose
  | general _ message _ => message
  | rejected message _ _ => message
  | immutable message _ => message
  | unreadable path message _ => (message ++ ": " : String) ++ path

def details : Problem → Json.Fields
  | general _ _ details => details
  | rejected _ line lineNumber =>
    (line.map fun line => ("line", Json.str line)).toList ++
      (lineNumber.map fun number => ("line_number", Json.int number)).toList
  | immutable _ details => details
  | unreadable _ _ details => details

def line? : Problem → Option String
  | rejected _ line _ => line
  | _ => none

def lineNumber? : Problem → Option Int
  | rejected _ _ lineNumber => lineNumber
  | _ => none

/-- A rejected line found at a given place. Other problems have no place. -/
def atLine (number : Int) : Problem → Problem
  | rejected message line _ => rejected message line (some number)
  | other => other

def response (problem : Problem) : Json :=
  .obj [("code", .str problem.code), ("message", .ofLoose problem.message),
    ("details", .obj problem.details)]

end Problem

def LineFault.problem (line : String) (fault : LineFault) : Problem :=
  .rejected (fault.message line) (some line) none

end TopicAccess
