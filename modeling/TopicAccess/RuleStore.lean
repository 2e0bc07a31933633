import TopicAccess.Principal
import TopicAccess.Rule
import TopicAccess.Topic.Filter

/-!
# Rule stores

A store holds the rules for anonymous clients and, for each named principal, the rules of that
name, in the order in which they were added. The names are in the order in which they were first
given a rule. A named principal has its own rules only: it never falls back on those for anonymous
clients.
-/
namespace TopicAccess

/-- The rules for anonymous clients and those of each name. -/
structure RuleStore where
  anonymous : List Rule := []
  users : List (String × List Rule) := []
deriving DecidableEq, Repr

/-- The answer to a question: whether the operation is allowed, and the filters that were compared
with the topic, in order. -/
structure Decision where
  allowed : Bool
  asked : List String
deriving DecidableEq, Repr

/-- Look for the first rule that grants the operation and covers the topic. Rules that do not grant
the operation are passed over without a comparison. -/
def Decision.search (covers : Matcher) (operation : Operation) (topic : String) :
    List Rule → Decision
  | [] => ⟨false, []⟩
  | rule :: rest =>
    if rule.permission.grants operation.permission then
      if covers topic rule.filter then ⟨true, [rule.filter]⟩
      else
        let later := search covers operation topic rest
        ⟨later.allowed, rule.filter :: later.asked⟩
    else search covers operation topic rest

namespace RuleStore

/-- Add a rule at the end of a name's rules. A new name goes behind the others. -/
def appendFor (name : String) (rule : Rule) :
    List (String × List Rule) → List (String × List Rule)
  | [] => [(name, [rule])]
  | (other, rules) :: rest =>
    if other = name then (other, rules ++ [rule]) :: rest
    else (other, rules) :: appendFor name rule rest

/-- Give a name a list of rules. A name that is there keeps its place and loses its rules. -/
def replaceFor (name : String) (rules : List Rule) :
    List (String × List Rule) → List (String × List Rule)
  | [] => [(name, rules)]
  | (other, old) :: rest =>
    if other = name then (other, rules) :: rest
    else (other, old) :: replaceFor name rules rest

/-- The rules of the name are those that it has been given, and no other name's rules change. -/
theorem lookup_replaceFor (name other : String) (rules : List Rule)
    (users : List (String × List Rule)) : (replaceFor name rules users).lookup other =
      if other = name then some rules else users.lookup other := by
  induction users with
  | nil =>
    by_cases same : other = name
    · simp [replaceFor, same]
    · have differs : (other == name) = false := by simp [same]
      simp [replaceFor, List.lookup_cons, same, differs]
  | cons entry rest ih =>
    obtain ⟨held, old⟩ := entry
    simp only [replaceFor]
    by_cases found : held = name
    · subst found
      by_cases same : other = held
      · simp [same]
      · have differs : (other == held) = false := by simp [same]
        simp [List.lookup_cons, differs, same]
    · by_cases same : other = held
      · subst same
        simp [found]
      · have differs : (other == held) = false := by simp [same]
        simp [List.lookup_cons, found, differs, ih]

/-- To add a rule is to give the name the list of its rules with the new one behind them. -/
theorem appendFor_eq_replaceFor (name : String) (rule : Rule) (users : List (String × List Rule)) :
    appendFor name rule users =
      replaceFor name ((users.lookup name).getD [] ++ [rule]) users := by
  induction users with
  | nil => rfl
  | cons entry rest ih =>
    obtain ⟨held, rules⟩ := entry
    by_cases found : held = name
    · simp [appendFor, replaceFor, found]
    · have apart : (name == held) = false := by simp [Ne.symm found]
      simp [appendFor, replaceFor, List.lookup_cons, found, apart, ih]

/-- Adding a rule under a name lengthens the rules of that name and of no other. -/
theorem lookup_appendFor (name other : String) (rule : Rule) (users : List (String × List Rule)) :
    (appendFor name rule users).lookup other =
      if other = name then some ((users.lookup name).getD [] ++ [rule])
      else users.lookup other := by
  rw [appendFor_eq_replaceFor, lookup_replaceFor]

/-- A name that is new goes behind the others; no other name comes, goes or moves. -/
theorem map_fst_appendFor (name : String) (rule : Rule) (users : List (String × List Rule)) :
    (appendFor name rule users).map (·.1) =
      if name ∈ users.map (·.1) then users.map (·.1) else users.map (·.1) ++ [name] := by
  induction users with
  | nil => simp [appendFor]
  | cons entry rest ih =>
    obtain ⟨held, rules⟩ := entry
    simp only [appendFor]
    by_cases found : held = name
    · simp [found]
    · have apart : ¬name = held := Ne.symm found
      simp only [found, if_false, List.map_cons, ih, List.mem_cons, apart, false_or]
      split <;> rfl

def ruleCount (users : List (String × List Rule)) : Nat :=
  users.foldr (fun entry count => entry.2.length + count) 0

/-- Adding a rule makes one rule more. -/
theorem ruleCount_appendFor (name : String) (rule : Rule) (users : List (String × List Rule)) :
    ruleCount (appendFor name rule users) = ruleCount users + 1 := by
  induction users with
  | nil => rfl
  | cons entry rest ih =>
    obtain ⟨held, rules⟩ := entry
    simp only [ruleCount, appendFor] at ih ⊢
    split
    · simp only [List.foldr_cons, List.length_append, List.length_singleton]
      omega
    · simp only [List.foldr_cons, ih]
      omega

def add (store : RuleStore) (principal : Principal) (rule : Rule) : RuleStore :=
  match principal with
  | .anonymous => { store with anonymous := store.anonymous ++ [rule] }
  | .named name => { store with users := appendFor name rule store.users }

/-- A store with given rules. Of two lists for one name the later counts, at the place of the
earlier. -/
def ofLists (anonymous : List Rule) (users : List (String × List Rule)) : RuleStore :=
  ⟨anonymous, users.foldl (fun held entry => replaceFor entry.1 entry.2 held) []⟩

def rulesUnder? (store : RuleStore) (name : String) : Option (List Rule) :=
  store.users.lookup name

def rulesUnder (store : RuleStore) (name : String) : List Rule :=
  (store.rulesUnder? name).getD []

/-- The rules that decide for a principal. -/
def rulesOf (store : RuleStore) : Principal → List Rule
  | .anonymous => store.anonymous
  | .named name => store.rulesUnder name

/-- A rule that is added for a principal becomes the last of its rules, and no other principal's
rules change. -/
theorem rulesOf_add (store : RuleStore) (principal other : Principal) (rule : Rule) :
    (store.add principal rule).rulesOf other =
      if other = principal then store.rulesOf other ++ [rule] else store.rulesOf other := by
  cases principal with
  | anonymous => cases other <;> simp [add, rulesOf, rulesUnder, rulesUnder?]
  | named name =>
    cases other with
    | anonymous => simp [add, rulesOf]
    | named held =>
      simp only [add, rulesOf, rulesUnder, rulesUnder?, lookup_appendFor, Principal.named.injEq]
      split
      · next same => simp [same]
      · rfl

def userNames (store : RuleStore) : List String :=
  store.users.map (·.1)

/-- A name enters the list of names with its first rule, and stays where it is after that. -/
theorem userNames_add (store : RuleStore) (principal : Principal) (rule : Rule) :
    (store.add principal rule).userNames = match principal with
      | .anonymous => store.userNames
      | .named name =>
        if name ∈ store.userNames then store.userNames else store.userNames ++ [name] := by
  cases principal with
  | anonymous => rfl
  | named name => exact map_fst_appendFor name rule store.users

def userRuleCount (store : RuleStore) : Nat :=
  ruleCount store.users

theorem userRuleCount_add (store : RuleStore) (principal : Principal) (rule : Rule) :
    (store.add principal rule).userRuleCount + (store.add principal rule).anonymous.length =
      store.userRuleCount + store.anonymous.length + 1 := by
  cases principal with
  | anonymous => simp [add, userRuleCount, Nat.add_assoc]
  | named name =>
    simp only [add, userRuleCount, ruleCount_appendFor]
    omega

/-- Whether there is no rule for anonymous clients, whatever the names hold. -/
def isEmpty (store : RuleStore) : Bool :=
  store.anonymous.isEmpty

/-- Decide whether a principal may perform an operation on a topic. A name without an entry is
denied before anything is compared. -/
def decision (store : RuleStore) (covers : Matcher) (operation : Operation) (topic : String) :
    Principal → Decision
  | .anonymous => Decision.search covers operation topic store.anonymous
  | .named name =>
    match store.rulesUnder? name with
    | none => ⟨false, []⟩
    | some rules => Decision.search covers operation topic rules

/-- A name without an entry is as good as one without rules. -/
theorem decision_eq (store : RuleStore) (covers : Matcher) (operation : Operation) (topic : String)
    (principal : Principal) : store.decision covers operation topic principal =
      Decision.search covers operation topic (store.rulesOf principal) := by
  cases principal with
  | anonymous => rfl
  | named name =>
    simp only [decision, rulesOf, rulesUnder]
    cases store.rulesUnder? name <;> rfl

end RuleStore

end TopicAccess
