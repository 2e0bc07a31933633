import TopicAccess.Arguments
import TopicAccess.Settings.Environment
import TopicAccess.Settings.Search
import TopicAccess.Settings.Value

/-!
# Settings of a service

A setting is taken from the first source that has it: what the caller gives, the environment, files
of environment variables, secrets, and last a default. The caller names it without regard to case.
What is given beyond the known settings is kept as it is, but for the arguments that say where
settings are looked for.
-/
namespace TopicAccess

/-- The settings of a service. -/
structure Settings where
  env : String
  logLevel : String
  aclFile : Option String
  aclStrict : Bool
  serviceName : String
  port : Int
  host : String
  others : Json.Fields

namespace Settings

/-- The setting that an argument is for, if it is for one. -/
def argumentSetting? (name : String) : Option String :=
  let small := String.ofList (name.toList.map Char.toLower)
  if names.contains small then some small else none

/-- The settings that arguments give, and what they give beyond. Of two arguments for one setting
the first counts. -/
def ofArguments (arguments : Json.Fields) : Json.Fields :=
  let known := arguments.filterMap fun (name, value) =>
    (argumentSetting? name).map fun name => (name, value)
  known ++ arguments.filter fun argument =>
    (argumentSetting? argument.1).isNone && !Search.arguments.contains argument.1

/-- Where settings come from, the sources that count more in front. -/
abbrev Sources := List Json.Fields

def variablesOf (environment : Environment) : Variables :=
  environment.map fun (name, value) => (name, some value)

/-- The sources made of what the caller gives, the environment and the files. -/
def sources (arguments : Json.Fields) (environment : Environment) (files : FileTree) :
    Except SearchFault Sources := do
  let inEnvironment := variablesOf environment
  let convention := Search.convention arguments
  (Search.splitFault? arguments).forM Except.error
  let inFiles ← Search.fileVariables arguments inEnvironment files
  (Search.lineFault? arguments).forM Except.error
  (Search.startFault? arguments).forM Except.error
  let secrets ← Search.secrets arguments files
  return [ofArguments arguments, convention.ofEnvironment inEnvironment, convention.ofFiles inFiles,
    secrets]

def placed : List String := ["service_name", "port"]

/-- The fault of overrides, if they have one: they may not give again what is given by place. -/
def overridesFault? (overrides : Json.Fields) : Option ArgumentFault :=
  (Arguments.repeated? "get_config" placed overrides).or
    ((Arguments.repeated? "ServiceConfig.__init__" ["self"] overrides).or
      (Arguments.repeated? "BaseSettings.__init__" ["__pydantic_self__"] overrides))

def field {Value : Type} (sources : Sources) (name : String)
    (read : Json → Except Complaint Value) (fallback : Except Complaint Value) :
    Except FieldFault Value :=
  let outcome := match sources.findSome? (·.get? name) with
    | some value => read value
    | none => fallback
  outcome.mapError fun complaint => ⟨complaint, [name]⟩

def othersOf (sources : Sources) : Json.Fields :=
  let others := sources.flatten.filter fun field => !names.contains field.1
  others.foldl (fun kept field =>
    if (kept.get? field.1).isNone then kept ++ [field] else kept) []

def read (sources : Sources) : Except (List FieldFault) Settings :=
  let env := field sources "env" readText (.ok "local")
  let logLevel := field sources "log_level" readText (.ok "info")
  let aclFile := field sources "acl_file" readOptionalText (.ok none)
  let aclStrict := field sources "acl_strict" readBool (.ok true)
  let serviceName := field sources "service_name" readText (.error .missing)
  let port := field sources "port" readInt (.error .missing)
  let host := field sources "host" readText (.ok "0.0.0.0")
  match env, logLevel, aclFile, aclStrict, serviceName, port, host with
  | .ok env, .ok logLevel, .ok aclFile, .ok aclStrict, .ok serviceName, .ok port, .ok host =>
    .ok { env, logLevel, aclFile, aclStrict, serviceName, port, host
          others := othersOf sources }
  | _, _, _, _, _, _, _ =>
    .error ([faultOf? env, faultOf? logLevel, faultOf? aclFile, faultOf? aclStrict,
      faultOf? serviceName, faultOf? port, faultOf? host].filterMap id)

def json (settings : Settings) : Json :=
  .obj ([("env", .str settings.env), ("log_level", .str settings.logLevel),
    ("acl_file", Json.ofOption settings.aclFile), ("acl_strict", .bool settings.aclStrict),
    ("service_name", .str settings.serviceName), ("port", .int settings.port),
    ("host", .str settings.host)] ++ settings.others)

end Settings

end TopicAccess
