import TopicAccess.RuleStore

/-!
# Questions to a rule store

A question asks for a decision or for a part of what the store holds. Not all that decides has every
part.
-/
namespace TopicAccess

/-- A question to a rule store. -/
inductive Query where
  | access (operation : Operation) (topic : String) (user : Option String)
  | isEmpty
  | anonymousRules
  | userRules (user : String)
  | userNames
  | userRuleCount
  | everything
deriving DecidableEq, Repr

/-- The answer to a question. -/
inductive Answer where
  | decision (decision : Decision)
  | flag (value : Bool)
  | rules (rules : List Rule)
  | names (names : List String)
  | count (count : Nat)
  | store (store : RuleStore)
deriving DecidableEq, Repr

/-- The part that a question looks at first. -/
def Query.part : Query → String
  | .access .read .. => "can_read"
  | .access .write .. => "can_write"
  | .isEmpty => "is_empty"
  | .anonymousRules | .everything => "global_authorizations"
  | .userRules _ => "user_authorizations"
  | .userNames => "user_names"
  | .userRuleCount => "user_rule_count"

/-- Why a question has no answer: what is asked does not have the part. -/
structure MissingPart where
  holder : String
  part : String
deriving DecidableEq, Repr

def MissingPart.message (missing : MissingPart) : String :=
  "'" ++ missing.holder ++ "' object has no attribute '" ++ missing.part ++ "'"

def RuleStore.answer (store : RuleStore) (covers : Matcher) : Query → Answer
  | .access operation topic user =>
    .decision (store.decision covers operation topic (.ofUser user))
  | .isEmpty => .flag store.isEmpty
  | .anonymousRules => .rules store.anonymous
  | .userRules user => .rules (store.rulesUnder user)
  | .userNames => .names store.userNames
  | .userRuleCount => .count store.userRuleCount
  | .everything => .store store

end TopicAccess
