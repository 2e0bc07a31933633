import TopicAccess.Authorizer
import TopicAccess.Metrics
import TopicAccess.Settings

/-!
# The service

A service holds its settings, the authorizer of its last load and what has been measured. Loading
replaces the authorizer as a whole; between two loads nothing changes it, whatever happens to the
rule file.
-/
namespace TopicAccess

/-- A running service. Loads are counted, so that two loads that give the same rules can be told
apart. A plain service has no rules to serve. -/
structure Service where
  settings : Settings
  threshold : Log.Threshold
  metrics : Metrics
  servesRules : Bool
  authorizer : Authorizer := .permitAll
  loads : Nat := 0
  dependencyFailure : Option String := none

inductive StartFault where
  | arguments (fault : ArgumentFault)
  | search (fault : Settings.SearchFault)
  | settings (faults : List FieldFault)
  | logLevel (fault : Log.LevelFault)
  | path (fault : FileTree.PathFault)

namespace Service

/-- The file setting of a service, when it names a file. -/
def ruleFile? (service : Service) : Option String :=
  match service.settings.aclFile with
  | some path => if path = "" then none else some path
  | none => none

/-- The path from which rules are loaded. -/
def path? (service : Service) : Option Text.Loose :=
  service.settings.aclFile.map .ofString

def event (service : Service) (severity : Log.Severity) (name : String)
    (fields : Json.Fields) : Log.Event :=
  { logger := service.settings.serviceName, severity, name, fields }

def readyEvent (service : Service) (authorizer : Authorizer) : Log.Event :=
  service.event .info "Authorizator ready"
    [("mode", .str authorizer.mode), ("acl_file", Json.ofOption service.settings.aclFile)]

/-- What a load leaves in the metrics: one more parse error for each problem reported, and the
number of rules in force. -/
def measureLoad (metrics : Metrics) (selection : Authorizer.Selection) : Metrics :=
  let counted := selection.reported.foldl (fun metrics _ => metrics.recordParseError) metrics
  let store := selection.authorizer.store
  counted.recordRulesLoaded store.anonymous.length store.userRuleCount

/-- Choose an authorizer by the settings and the files of the moment. -/
def load (files : FileTree) (service : Service) :
    Except FileTree.PathFault (Service × List Log.Event) :=
  match Authorizer.select service.settings.aclStrict files service.path? with
  | .error fault => .error fault
  | .ok selection =>
    .ok ({ service with
        authorizer := selection.authorizer
        loads := service.loads + 1
        metrics := measureLoad service.metrics selection },
      selection.notices.map (·.event) ++ [service.readyEvent selection.authorizer])

/-- What a service is started with: its name and port, and settings by name. -/
structure Setup where
  name : Json
  port : Json
  overrides : Json.Fields

/-- The fault of overrides, if they have one: they may not give again what is given by place. -/
def overridesFault? (overrides : Json.Fields) : Option ArgumentFault :=
  (Arguments.repeated? "BaseService.__init__" ("self" :: Settings.placed) overrides).or
    (Settings.overridesFault? overrides)

/-- The settings that a setup asks for, some of which may come from files. -/
def Setup.settings (setup : Setup) (files : FileTree) : Except StartFault Settings :=
  let arguments := [("service_name", setup.name), ("port", setup.port)] ++ setup.overrides
  match Settings.sources arguments [] files with
  | .error fault => .error (.search fault)
  | .ok sources => (Settings.read sources).mapError .settings

def startPlain (files : FileTree) (setup : Setup) : Except StartFault Service :=
  match overridesFault? setup.overrides with
  | some fault => .error (.arguments fault)
  | none =>
    match setup.settings files with
    | .error fault => .error fault
    | .ok settings =>
      match Log.Threshold.ofName settings.logLevel with
      | .error fault => .error (.logLevel fault)
      | .ok threshold =>
        .ok { settings, threshold, metrics := { service := settings.serviceName }
              servesRules := false }

/-- What a service that serves rules is started with. Its name and port are fixed. -/
def ruleSetup (overrides : Json.Fields) : Setup :=
  { name := .str "acl", port := .int 8013, overrides }

/-- A service that serves rules, after its first load, and the records of that load. -/
def start (files : FileTree) (overrides : Json.Fields) :
    Except StartFault (Service × List Json.Fields) :=
  match Arguments.repeated? "AclService.__init__" ["self"] overrides with
  | some fault => .error (.arguments fault)
  | none =>
    match startPlain files (ruleSetup overrides) with
    | .error fault => .error fault
    | .ok service =>
      match load files { service with servesRules := true } with
      | .error fault => .error (.path fault)
      | .ok (service, events) => .ok (service, Log.records service.threshold .empty events)

end Service

end TopicAccess
