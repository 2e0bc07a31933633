import TopicAccess.Collector
import TopicAccess.Query

/-!
# Sessions with a collector

In a session a collector is fed lines, its rules are frozen from time to time, and questions are
put to the collector or to the rules frozen earlier. What has been frozen stays as it was.

A collector has answers of its own. It looks for a name among the names that have rules before it
takes the rules of the name, and it does not count the rules of users.
-/
namespace TopicAccess.Collector

/-- Decide by the rules that have been collected so far. -/
def decision (collector : Collector) (covers : Matcher) (operation : Operation) (topic : String) :
    Principal → Decision
  | .anonymous => Decision.search covers operation topic collector.store.anonymous
  | .named name =>
    if name ∈ collector.store.userNames then
      Decision.search covers operation topic (collector.store.rulesUnder name)
    else ⟨false, []⟩

/-- To look for a name among the names first comes to the same as to look for its rules at once. -/
theorem decision_eq (collector : Collector) (covers : Matcher) (operation : Operation)
    (topic : String) (principal : Principal) :
    collector.decision covers operation topic principal =
      collector.store.decision covers operation topic principal := by
  cases principal with
  | anonymous => rfl
  | named name =>
    by_cases entered : name ∈ collector.store.userNames
    · simp [decision, entered, RuleStore.decision_eq, RuleStore.rulesOf]
    · have absent : collector.store.users.lookup name = none := by
        apply List.lookup_eq_none_iff.mpr
        intro entry member
        have differs : name ≠ entry.1 := fun same =>
          entered (same ▸ List.mem_map_of_mem member)
        simpa using differs
      simp [decision, entered, RuleStore.decision, RuleStore.rulesUnder?, absent]

/-- Answer a question by what has been collected so far. -/
def answer (collector : Collector) (covers : Matcher) : Query → Except MissingPart Answer
  | .access operation topic user =>
    .ok (.decision (collector.decision covers operation topic (.ofUser user)))
  | .isEmpty => .ok (.flag collector.store.anonymous.isEmpty)
  | .anonymousRules => .ok (.rules collector.store.anonymous)
  | .userRules user => .ok (.rules (collector.store.rulesUnder user))
  | .userNames => .ok (.names collector.store.userNames)
  | .userRuleCount => .error ⟨"AuthorizationsCollector", Query.userRuleCount.part⟩
  | .everything => .ok (.store collector.store)

/-- One step of a session. A question names the frozen rules that it is for, or none of them when it
is for the collector. -/
inductive Step where
  | feed (line : String)
  | freeze
  | ask (frozen : Option Nat) (query : Query)
deriving DecidableEq, Repr

inductive AskFault where
  | noSuchStore
  | missing (part : MissingPart)
deriving DecidableEq, Repr

def AskFault.message : AskFault → String
  | noSuchStore => "list index out of range"
  | missing part => part.message

/-- What a step gives: the outcome of a line and the collector after it, the rules that have been
frozen, or an answer, if there is one. -/
inductive Reply where
  | fed (outcome : Except Problem Unit) (after : Collector)
  | frozen (store : RuleStore)
  | answered (answer : Answer)
  | unanswered (fault : AskFault)

/-- The collector, all that has been frozen and all that has been noted. -/
structure Session where
  collector : Collector := .empty
  frozen : List RuleStore := []
  notices : List Notice := []

namespace Session

/-- Answer a question that is for the collector or for frozen rules. -/
def answer (covers : Matcher) (session : Session) : Option Nat → Query → Except AskFault Answer
  | none, query => (session.collector.answer covers query).mapError .missing
  | some index, query =>
    match session.frozen[index]? with
    | some store => .ok (store.answer covers query)
    | none => .error .noSuchStore

def step (covers : Matcher) (session : Session) : Step → Session × Reply
  | .feed line =>
    match session.collector.feed line with
    | (after, .ok notice) =>
      ({ session with collector := after, notices := session.notices ++ [notice] },
        .fed (.ok ()) after)
    | (after, .error problem) => ({ session with collector := after }, .fed (.error problem) after)
  | .freeze =>
    let store := session.collector.store
    ({ session with frozen := session.frozen ++ [store] }, .frozen store)
  | .ask frozen query =>
    match session.answer covers frozen query with
    | .ok answer => (session, .answered answer)
    | .error fault => (session, .unanswered fault)

def run (covers : Matcher) (session : Session) : List Step → Session × List Reply
  | [] => (session, [])
  | step :: rest =>
    let (after, reply) := session.step covers step
    let (final, replies) := after.run covers rest
    (final, reply :: replies)

/-- A question changes nothing. -/
@[simp] theorem fst_step_ask (covers : Matcher) (session : Session) (frozen : Option Nat)
    (query : Query) : (session.step covers (.ask frozen query)).1 = session := by
  cases answered : session.answer covers frozen query <;> simp [step, answered]

/-- A run goes on from where its first step leads. -/
theorem fst_run_cons (covers : Matcher) (session : Session) (step : Step) (rest : List Step) :
    (session.run covers (step :: rest)).1 = ((session.step covers step).1.run covers rest).1 := rfl

end Session

end TopicAccess.Collector
