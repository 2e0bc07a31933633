import TopicAccess.Text.Blank

/-!
# Targets of requests

A request is addressed to a path, whose escapes have been decoded. The path is what endpoints are
looked up by. It is reported as part of an address, where the signs that end a path are escaped
again and line breaks are dropped.
-/
namespace TopicAccess

/-- What a request is addressed to: a decoded path that begins with a slash. -/
structure Target where
  path : List Char
deriving DecidableEq, Repr

namespace Target

def shownChar : Char → List Char
  | '?' => ['%', '3', 'F']
  | '#' => ['%', '2', '3']
  | '\\' => ['%', '5', 'C']
  | '\t' | '\n' | '\r' => []
  | c => [c]

def shown (target : Target) : String :=
  String.ofList (target.path.flatMap shownChar)

/-- Whether a target leads to an endpoint. A line feed at its end does not count. -/
def leadsTo (target : Target) (path : String) : Bool :=
  target.path == path.toList || target.path == path.toList ++ ['\n']

/-- A target without the slashes at its end, if it ends in one. -/
def withoutSlash? (target : Target) : Option Target :=
  if target.path.getLast? = some '/' then some ⟨Text.dropTail (· == '/') target.path⟩ else none

end Target

end TopicAccess
