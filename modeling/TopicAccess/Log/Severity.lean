import TopicAccess.Text.Quoted
import TopicAccess.Text.UpperCase

/-!
# Severities

An event has one of five severities. A log is configured with the name of the least severity that
it keeps, without regard to case; two names have a second spelling, and one name keeps everything.
Two further names are known, but what they stand for is the layout of a line and no level.
-/
namespace TopicAccess.Log

/-- How serious an event is. -/
inductive Severity where
  | debug
  | info
  | warning
  | error
  | critical
deriving DecidableEq, Repr

namespace Severity

def name : Severity → String
  | debug => "debug"
  | info => "info"
  | warning => "warning"
  | error => "error"
  | critical => "critical"

/-- The place of a severity among all, from the least serious on. -/
def rank : Severity → Nat
  | debug => 1
  | info => 2
  | warning => 3
  | error => 4
  | critical => 5

/-- Every name that a log can be configured with, and the rank from which events are kept. -/
def thresholds : List (String × Nat) := [
  ("NOTSET", 0), ("DEBUG", 1), ("INFO", 2), ("WARN", 3), ("WARNING", 3), ("ERROR", 4),
  ("CRITICAL", 5), ("FATAL", 5)]

end Severity

/-- The rank from which a log keeps events. -/
structure Threshold where
  rank : Nat
deriving DecidableEq, Repr

/-- Why a name gives no threshold: it is not known, or it stands for something else. -/
inductive LevelFault where
  | unknown (capitals : String)
  | layout (text : String)
  | layouts (text : String)
deriving DecidableEq, Repr

namespace Threshold

def everything : Threshold := ⟨0⟩

def keeps (threshold : Threshold) (severity : Severity) : Bool :=
  threshold.rank ≤ severity.rank

def layoutName : String := "BASIC_FORMAT"

def layout : String := "%(levelname)s:%(name)s:%(message)s"

def layoutsName : String := "_STYLES"

/-- All layouts, each with the sign that marks its places and what fills these in. -/
def layouts : String :=
  "\x7b'%': (<class 'logging.PercentStyle'>, '" ++ layout ++ "'), '\x7b': " ++
    "(<class 'logging.StrFormatStyle'>, '\x7blevelname\x7d:\x7bname\x7d:\x7bmessage\x7d'), " ++
    "'$': (<class 'logging.StringTemplateStyle'>, " ++
    "'$\x7blevelname\x7d:$\x7bname\x7d:$\x7bmessage\x7d')\x7d"

def ofName (name : String) : Except LevelFault Threshold :=
  let capitals := String.ofList (Text.upper name.toList)
  match Severity.thresholds.lookup capitals with
  | some rank => .ok ⟨rank⟩
  | none =>
    if capitals = layoutName then .error (.layout layout)
    else if capitals = layoutsName then .error (.layouts layouts)
    else .error (.unknown capitals)

end Threshold

def LevelFault.message : LevelFault → String
  | unknown capitals => "module 'logging' has no attribute '" ++ capitals ++ "'"
  | layout text => "Unknown level: " ++ Text.quoted text
  | layouts text => "Level not an integer or a valid string: " ++ text

end TopicAccess.Log
