import TopicAccess.Log.Event
import TopicAccess.Principal
import TopicAccess.Problem

/-!
# Notices

What happens while rules are loaded, and the log event that tells it. Every notice has its own event
name, and the event's fields hold all that the notice says.
-/
namespace TopicAccess

open Text (Loose)

/-- Something that happens while rules are loaded. -/
inductive Notice where
  | ruleAdded (principal : Principal) (rule : Rule)
  | sectionEntered (user : String)
  | patternIgnored (line : String)
  | lineSkipped (number : Nat) (line : String) (message : Loose)
  | rulesLoaded (anonymous users userRules : Nat)
  | fileRead (path : Loose)
  | noFile
  | loadFailed (path : Loose) (problem : Problem)
  | usersNotEnforced (path : Loose) (users : List String)
  | fileEmpty (path : Loose)
deriving Repr

namespace Notice

def collectorLogger : String := "acl.collector"

def fileLogger : String := "acl.file"

/-- The logger that notices about the choice of an authorizer go to. -/
def authorizerLogger : String := "acl.authorizator"

def event : Notice → Log.Event
  | ruleAdded principal rule =>
    { logger := collectorLogger, severity := .debug, name := "Authorization added",
      fields := (principal.user?.map fun user => ("user", Json.str user)).toList ++
        [("topic", .str rule.filter), ("permission", .str rule.permission.name)] }
  | sectionEntered user =>
    { logger := collectorLogger, severity := .debug, name := "Entering user section",
      fields := [("user", .str user)] }
  | patternIgnored line =>
    { logger := collectorLogger, severity := .debug, name := "Pattern directive ignored",
      fields := [("line", .str line)] }
  | lineSkipped number line message =>
    { logger := fileLogger, severity := .warning, name := "Skipping invalid ACL line",
      fields := [("line_number", .nat number), ("line", .str line), ("error", .ofLoose message)] }
  | rulesLoaded anonymous users userRules =>
    { logger := fileLogger, severity := .info, name := "ACL rules loaded",
      fields := [("global_rules", .nat anonymous), ("users", .nat users),
        ("user_rules", .nat userRules)] }
  | fileRead path =>
    { logger := fileLogger, severity := .info, name := "Parsing ACL file",
      fields := [("path", .ofLoose path)] }
  | noFile =>
    { logger := authorizerLogger, severity := .info,
      name := "No ACL file configured, permitting all operations" }
  | loadFailed path problem =>
    { logger := authorizerLogger, severity := .error,
      name := "Unable to load ACL file, denying all operations",
      fields := [("path", .ofLoose path), ("code", .str problem.code),
        ("error", .ofLoose problem.message), ("details", .obj problem.details)] }
  | usersNotEnforced path users =>
    { logger := authorizerLogger, severity := .warning,
      name := "ACL file has no global rules, user sections are not enforced",
      fields := [("path", .ofLoose path), ("users", .strings users)] }
  | fileEmpty path =>
    { logger := authorizerLogger, severity := .info,
      name := "ACL file is empty, permitting all operations", fields := [("path", .ofLoose path)] }

end Notice

end TopicAccess
