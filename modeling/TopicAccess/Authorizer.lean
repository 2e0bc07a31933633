import TopicAccess.Query
import TopicAccess.RuleFile

/-!
# Authorizers

Without a rule file everything is permitted. A file that cannot be loaded denies everything. A file
without rules for anonymous clients counts as empty and permits everything, even if it has rules for
named principals. Any other file decides by its rules.
-/
namespace TopicAccess

/-- What decides questions. -/
inductive Authorizer where
  | rules (store : RuleStore)
  | permitAll
  | denyAll
deriving DecidableEq, Repr

namespace Authorizer

def mode : Authorizer → String
  | rules _ => "acl"
  | permitAll => "permit_all"
  | denyAll => "deny_all"

def decision (authorizer : Authorizer) (covers : Matcher) (operation : Operation) (topic : String)
    (principal : Principal) : Decision :=
  match authorizer with
  | rules store => store.decision covers operation topic principal
  | permitAll => ⟨true, []⟩
  | denyAll => ⟨false, []⟩

def holder : Authorizer → String
  | rules _ => "AuthorizationIndex"
  | permitAll => "PermitAllAuthorizator"
  | denyAll => "DenyAllAuthorizator"

/-- Answer a question. Where no rules are needed only decisions can be asked for. -/
def answer (authorizer : Authorizer) (covers : Matcher) (query : Query) :
    Except MissingPart Answer :=
  match authorizer, query with
  | rules store, query => .ok (store.answer covers query)
  | authorizer, .access operation topic user =>
    .ok (.decision (authorizer.decision covers operation topic (.ofUser user)))
  | authorizer, query => .error ⟨authorizer.holder, query.part⟩

/-- The rules by which an authorizer decides. There are none where no rules are needed. -/
def store : Authorizer → RuleStore
  | rules store => store
  | _ => {}

/-- An authorizer with the problems that were reported on the way to it and what was noted. -/
structure Selection where
  authorizer : Authorizer
  reported : List Problem
  notices : List Notice

/-- The authorizer for rules that have been loaded from a path, and what is noted of it. -/
def ofStore (path : Text.Loose) (store : RuleStore) : Authorizer × List Notice :=
  if store.isEmpty then
    if store.users.isEmpty then (permitAll, [.fileEmpty path])
    else (permitAll, [.usersNotEnforced path store.userNames])
  else (rules store, [])

/-- The authorizer for an attempt to load rules from a path. -/
def ofLoading (path : Text.Loose) (loading : RuleText.Loading) : Selection :=
  let (authorizer, notices) := match loading.outcome with
    | .ok store => ofStore path store
    | .error problem => (denyAll, [.loadFailed path problem])
  ⟨authorizer, loading.reported, loading.notices ++ notices⟩

/-- The authorizer for a setting. A missing or empty path means that there is no file. -/
def select (strict : Bool) (files : FileTree) (path : Option Text.Loose) :
    Except FileTree.PathFault Selection :=
  match path with
  | none => .ok ⟨permitAll, [], [.noFile]⟩
  | some path =>
    if path = [] then .ok ⟨permitAll, [], [.noFile]⟩
    else (RuleFile.load strict files path).map (ofLoading path)

end Authorizer

end TopicAccess
