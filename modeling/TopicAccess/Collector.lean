import TopicAccess.Notice
import TopicAccess.RuleStore

/-!
# Collecting rules from lines

A collector is fed lines. It begins with the rules for anonymous clients; a `user` line moves it to
the section of a principal, and there is no way back: every later rule belongs to the principal
named last. A line that is rejected changes nothing. A sealed collector rejects every line.
-/
namespace TopicAccess

/-- The rules collected so far, and the principal whose section has been entered last. -/
structure Collector where
  current : Principal := .anonymous
  store : RuleStore := {}
  isSealed : Bool := false
deriving DecidableEq, Repr

namespace Collector

def empty : Collector := {}

def sealedEmpty : Collector := { isSealed := true }

def sealedProblem : Problem :=
  .immutable "Cannot parse rules into an immutable collector" []

def apply (collector : Collector) : Directive → Collector
  | .grant rule => { collector with store := collector.store.add collector.current rule }
  | .enter user => { collector with current := .named user }
  | .reserved => collector

/-- What is noted of a directive that a line has given. -/
def notice (collector : Collector) (line : String) : Directive → Notice
  | .grant rule => .ruleAdded collector.current rule
  | .enter user => .sectionEntered user
  | .reserved => .patternIgnored line

/-- Feed a line to a collector: the collector after it, and what is noted or what is wrong. -/
def feed (collector : Collector) (line : String) : Collector × Except Problem Notice :=
  if collector.isSealed then (collector, .error sealedProblem)
  else match Directive.ofLine line with
    | .ok directive => (collector.apply directive, .ok (collector.notice line directive))
    | .error fault => (collector, .error (fault.problem line))

end Collector

end TopicAccess
