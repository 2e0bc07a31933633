import TopicAccess.FileTree.Path

/-!
# Files

A tree of files, with a working directory in it. A path is followed name by name, and the first name
that cannot be followed decides the outcome. Nothing stands above the root: the name `..` stays
there. What a place holds may also be kept from the reader, or fail when it is read. There are no
links: what a link leads to counts as standing at the place of the link.

What is written brings the directories on its way with it, and they stay when it is removed. Nothing
is written or removed under a path that cannot be looked up.
-/
namespace TopicAccess

namespace FileTree

/-- A fault that the system reports by a number and a reason. A file that is not there, which has
the number 2, is reported otherwise. -/
structure SystemFault where
  number : Nat
  reason : String
  isOther : number ≠ 2
deriving DecidableEq, Repr

/-- What stands at a place of the tree. What is locked cannot be opened, and nothing behind it is
reached; what is broken can be opened but not read. -/
inductive Entry where
  | file (bytes : List UInt8)
  | directory
  | locked (fault : SystemFault)
  | broken (fault : SystemFault)
deriving DecidableEq, Repr

end FileTree

/-- The entries by the names that lead to them from the root, and the working directory. The
directories down to that one need no entries. -/
structure FileTree where
  entries : List (List FileTree.Name × FileTree.Entry) := []
  working : List FileTree.Name := []
deriving DecidableEq, Repr

namespace FileTree

inductive ReadFault where
  | notFound
  | isDirectory
  | notDirectory
  | nameTooLong
  | refused (fault : SystemFault)
  | broken (fault : SystemFault)
deriving DecidableEq, Repr

/-- What stands at the given names. -/
def entryAt? (tree : FileTree) (names : List Name) : Option Entry :=
  if names.isPrefixOf tree.working then some .directory else tree.entries.lookup names

/-- The place from which the names of a path are followed. -/
def origin (tree : FileTree) : Start → List Name
  | .working => tree.working
  | .root | .doubleRoot => []

def parentName : Name := [0x2E, 0x2E]

/-- Where a name leads from a directory. -/
def next (place : List Name) (name : Name) : List Name :=
  if name = parentName then place.dropLast else place ++ [name]

/-- Where a path leads. -/
def destination (tree : FileTree) (path : Path) : List Name :=
  path.places.foldl next (tree.origin path.start)

/-- Remove what stands where a path leads. -/
def erase (tree : FileTree) (path : Path) : FileTree :=
  if path.fault?.isSome then tree
  else { tree with entries := tree.entries.filter fun entry => entry.1 != tree.destination path }

def put (tree : FileTree) (place : List Name) (entry : Entry) : FileTree :=
  { tree with entries := tree.entries.filter (fun other => other.1 != place) ++ [(place, entry)] }

/-- Make sure that there is a directory wherever names lead on the way from a place. -/
def makeDirectories (tree : FileTree) (place : List Name) : List Name → FileTree
  | [] => tree
  | name :: rest =>
    let place := next place name
    match tree.entryAt? place with
    | some _ => makeDirectories tree place rest
    | none => makeDirectories (tree.put place .directory) place rest

def makeDirectory (tree : FileTree) (path : Path) : FileTree :=
  if path.fault?.isSome then tree
  else tree.makeDirectories (tree.origin path.start) path.places

def writeFile (tree : FileTree) (path : Path) (bytes : List UInt8) : FileTree :=
  if path.fault?.isSome then tree
  else
    let parents := tree.makeDirectories (tree.origin path.start) path.places.dropLast
    parents.put (tree.destination path) (.file bytes)

/-- How far a path has been followed. -/
structure Place where
  names : List Name
  entry : Entry
deriving DecidableEq, Repr

def follow (tree : FileTree) (place : Place) (name : Name) : Except ReadFault Place :=
  match place.entry with
  | .file _ | .broken _ => .error .notDirectory
  | .locked fault => .error (.refused fault)
  | .directory =>
    let after := next place.names name
    if Path.maxNameBytes < name.length then .error .nameTooLong
    else if name = parentName then .ok ⟨after, .directory⟩
    else match tree.entryAt? after with
      | some entry => .ok ⟨after, entry⟩
      | none => .error .notFound

def followAll (tree : FileTree) (place : Place) : List Name → Except ReadFault Place
  | [] => .ok place
  | name :: rest =>
    match tree.follow place name with
    | .ok next => tree.followAll next rest
    | .error fault => .error fault

def locate (tree : FileTree) (path : Path) : Except ReadFault Place :=
  if Path.maxPathBytes < path.text.encode.length then .error .nameTooLong
  else tree.followAll ⟨tree.origin path.start, .directory⟩ path.places

/-- The place that a path leads to, unless it is kept from the reader. -/
def lookAt (tree : FileTree) (path : Path) : Except ReadFault Place :=
  match tree.locate path with
  | .ok ⟨_, .locked fault⟩ => .error (.refused fault)
  | found => found

def lookUp (tree : FileTree) (path : Path) : Except ReadFault (List UInt8) :=
  match tree.locate path with
  | .ok ⟨_, .file bytes⟩ => .ok bytes
  | .ok ⟨_, .directory⟩ => .error .isDirectory
  | .ok ⟨_, .locked fault⟩ => .error (.refused fault)
  | .ok ⟨_, .broken fault⟩ => .error (.broken fault)
  | .error fault => .error fault

/-- The bytes of the file that a path leads to, unless the path cannot be looked up. -/
def read (tree : FileTree) (path : Path) : Except PathFault (Except ReadFault (List UInt8)) :=
  match path.fault? with
  | some fault => .error fault
  | none => .ok (tree.lookUp path)

/-- Whether a fault counts as nothing being there. So do two faults of the system, those of a file
that is not open and of links in a circle. -/
def ReadFault.isAbsence : ReadFault → Bool
  | notFound | notDirectory => true
  | refused fault => fault.number == 9 || fault.number == 40
  | _ => false

/-- What a path leads to, if it leads anywhere. A path that cannot be looked up leads nowhere. -/
def find? (tree : FileTree) (path : Path) : Except ReadFault (Option Place) :=
  if path.fault?.isSome then .ok none
  else match tree.lookAt path with
    | .ok place => .ok (some place)
    | .error fault => if fault.isAbsence then .ok none else .error fault

def children (tree : FileTree) (directory : List Name) : List (Name × Entry) :=
  tree.entries.filterMap fun (place, entry) =>
    match place.getLast? with
    | some name => if place.dropLast = directory then some (name, entry) else none
    | none => none

/-- What the system reports, which names the file unless it has been opened already. -/
def systemMessage (number : Nat) (reason : String) (path : Option Path) : String :=
  let place := match path with
    | some path => ": " ++ path.text.quoted
    | none => ""
  "[Errno " ++ toString number ++ "] " ++ reason ++ place

/-- What is reported of a file that is there but cannot be read. -/
def ReadFault.message (path : Path) : ReadFault → String
  | notFound => systemMessage 2 "No such file or directory" path
  | isDirectory => systemMessage 21 "Is a directory" path
  | notDirectory => systemMessage 20 "Not a directory" path
  | nameTooLong => systemMessage 36 "File name too long" path
  | refused fault => systemMessage fault.number fault.reason path
  | broken fault => systemMessage fault.number fault.reason none

end FileTree

end TopicAccess
