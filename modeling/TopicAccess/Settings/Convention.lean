import TopicAccess.Json.Kind
import TopicAccess.Settings.VariableFile
import TopicAccess.Text.LowerCase

/-!
# How variables stand for settings

A variable is named like its setting, with a beginning that all variables share. Unless case counts,
both are compared in small letters. An empty value may count as none, and one text may stand for a
value that is missing.

The variables of a file also give settings that are not known, under the names of the variables. The
beginning is left out where a name as it is compared has it as it is written.
-/
namespace TopicAccess.Settings

/-- The names of the known settings, in the order in which complaints are made. -/
def names : List String :=
  ["env", "log_level", "acl_file", "acl_strict", "service_name", "port", "host"]

/-- How variables stand for settings. -/
structure Convention where
  start : String := "ACL_"
  addsStart : Bool := true
  mindsCase : Bool := false
  skipsEmpty : Bool := false
  nullText : Option String := none
deriving DecidableEq, Repr

namespace Convention

def small (name : String) : String :=
  String.ofList (Text.lower name.toList)

def plain (convention : Convention) (name : String) : String :=
  if convention.mindsCase then name else small name

/-- The name of the variable for a setting, as it is compared. -/
def variableFor (convention : Convention) (setting : String) : String :=
  convention.plain ((if convention.addsStart then convention.start else "") ++ setting)

/-- Variables by the names that are compared. Of two with one name the later counts. -/
def gather (convention : Convention) (assigned : Variables) : Variables :=
  let kept := assigned.filter fun entry =>
    !(convention.skipsEmpty && entry.2 == some "")
  kept.foldl (fun known (name, value) => known.set (convention.plain name) value) []

def valueOf (convention : Convention) (text : String) : Json :=
  if convention.nullText == some text then .null else .str text

/-- The known settings that variables give. A variable without a value gives nothing. -/
def known (convention : Convention) (assigned : Variables) : Json.Fields :=
  names.filterMap fun name =>
    match assigned.lookup (convention.variableFor name) with
    | some (some text) => some (name, convention.valueOf text)
    | _ => none

/-- The name under which a variable gives a setting that is not known. -/
def otherName (convention : Convention) (label : String) : String :=
  let start := convention.start.toList
  if start.isPrefixOf label.toList then
    String.ofList (label.toList.drop start.length)
  else label

/-- Whether a variable of a file gives a setting that is not known. One without a value gives
nothing, nor does one that is named like a setting where it would need the beginning. -/
def isOther (convention : Convention) (given : Json.Fields) (label : String)
    (value : Option String) : Bool :=
  (value.getD "") != "" && (given.get? label).isNone &&
    !(convention.start != "" && names.contains label) &&
    !(names.any fun name => convention.variableFor name == label)

def ofEnvironment (convention : Convention) (assigned : Variables) : Json.Fields :=
  convention.known (convention.gather assigned)

def ofFiles (convention : Convention) (assigned : Variables) : Json.Fields :=
  let gathered := convention.gather assigned
  gathered.foldl (fun given (label, value) =>
    if convention.isOther given label value then
      given.insert (convention.otherName label) (.str (value.getD ""))
    else given) (convention.known gathered)

end Convention

end TopicAccess.Settings
