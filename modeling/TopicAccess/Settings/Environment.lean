/-!
# The environment

The environment gives variables their values. A zero character ends what the system reads of a name
or a value and can be in neither. A name ends at its first equals sign, so it can have none, and it
cannot be empty. The first variable that cannot be set is told of.
-/
namespace TopicAccess.Settings

abbrev Environment := List (String × String)

inductive EnvironmentFault where
  | embeddedNull
  | equalsInName
  | emptyName
deriving DecidableEq, Repr

def EnvironmentFault.message : EnvironmentFault → String
  | embeddedNull => "embedded null byte"
  | equalsInName => "illegal environment variable name"
  | emptyName => "[Errno 22] Invalid argument"

namespace Environment

def entryFault? (name value : String) : Option EnvironmentFault :=
  if name.toList.contains '\x00' || value.toList.contains '\x00' then some .embeddedNull
  else if name.toList.contains '=' then some .equalsInName
  else if name = "" then some .emptyName
  else none

def fault? (environment : Environment) : Option EnvironmentFault :=
  environment.findSome? fun (name, value) => entryFault? name value

end Environment

end TopicAccess.Settings
