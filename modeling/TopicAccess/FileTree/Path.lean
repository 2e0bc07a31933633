import TopicAccess.Text.Loose
import TopicAccess.Text.Split

/-!
# Paths

A path is a list of names. Repeated and trailing slashes and the name `.` say nothing and are
dropped; the name `..` is kept, because what it means depends on the files. A path may begin at the
root, and exactly two slashes at the beginning are a root of their own.

Files have names of bytes. So a path can be looked up only if its text can be encoded, and only
without a null character, which ends the name of a file.
-/
namespace TopicAccess.FileTree

open Text (Loose)

/-- The name of a file in its directory. -/
abbrev Name := List UInt8

/-- Where a path begins: at the working directory or at a root, which is written with one or two
slashes. -/
inductive Start where
  | working
  | root
  | doubleRoot
deriving DecidableEq, Repr

/-- A path without redundant parts. -/
structure Path where
  start : Start
  names : List Loose
deriving DecidableEq, Repr

/-- Why a path cannot be looked up at all. -/
inductive PathFault where
  | unencodable (lone : Text.Lone)
  | embeddedNull
deriving DecidableEq, Repr

def PathFault.message : PathFault → String
  | unencodable lone => lone.message
  | embeddedNull => "embedded null byte"

namespace Path

def startOf : Loose → Start
  | .char '/' :: .char '/' :: .char '/' :: _ => .root
  | .char '/' :: .char '/' :: _ => .doubleRoot
  | .char '/' :: _ => .root
  | _ => .working

def ofText (text : Loose) : Path :=
  { start := startOf text
    names := (Text.splitAt (.char '/') text).filter fun name =>
      name != [] && name != ("." : Loose) }

def Start.text : Start → Loose
  | .working => []
  | .root => "/"
  | .doubleRoot => "//"

/-- The text of a path. The path without names from the working directory is a single point. -/
def text : Path → Loose
  | ⟨.working, []⟩ => "."
  | ⟨start, names⟩ => Start.text start ++ ("/" : Loose).intercalate names

/-- Whether a path holds a null character. -/
def hasNull (path : Path) : Bool :=
  path.names.any (·.contains (.char '\x00'))

/-- The fault of a path, if it has one. -/
def fault? (path : Path) : Option PathFault :=
  match path.text.lone? with
  | some lone => some (.unencodable lone)
  | none => if path.hasNull then some .embeddedNull else none

/-- The names of a path as they are looked up. -/
def places (path : Path) : List Name :=
  path.names.map Loose.encode

/-- The longest name that a directory can hold, in bytes. -/
def maxNameBytes : Nat := 255

def maxPathBytes : Nat := 4095

end Path

end TopicAccess.FileTree
