import TopicAccess.FileTree
import TopicAccess.RuleText
import TopicAccess.Text.Newline

/-!
# Loading a rule file

A rule file is UTF-8 text. A file that cannot be read, or that is not well-formed UTF-8 throughout,
fails as a whole: no line of it is looked at. A path that cannot be looked up is no such failure;
nothing comes of it.
-/
namespace TopicAccess.RuleFile

open RuleText (Loading)

def missingMessage : String := "ACL file not found"

def readProblem (path : FileTree.Path) : FileTree.ReadFault → Problem
  | .notFound => .unreadable path.text missingMessage []
  | fault => .unreadable path.text Problem.unreadableMessage
      [("error", .str (fault.message path))]

def decodeProblem (path : FileTree.Path) (fault : Text.Utf8.Fault) : Problem :=
  .unreadable path.text Problem.unreadableMessage [("error", .str fault.message)]

def linesOf (text : List Char) : List String :=
  (Text.lines text).map String.ofList

def loadBytes (strict : Bool) (path : FileTree.Path) (bytes : List UInt8) : Loading :=
  match Text.Utf8.decode bytes with
  | .error fault => { outcome := .error (decodeProblem path fault), reported := [], notices := [] }
  | .ok text => (RuleText.load strict (linesOf text)).noting (.fileRead path.text)

def load (strict : Bool) (files : FileTree) (path : Text.Loose) :
    Except FileTree.PathFault Loading :=
  let path := FileTree.Path.ofText path
  match files.read path with
  | .error fault => .error fault
  | .ok (.error fault) =>
    .ok { outcome := .error (readProblem path fault), reported := [], notices := [] }
  | .ok (.ok bytes) => .ok (loadBytes strict path bytes)

end TopicAccess.RuleFile
