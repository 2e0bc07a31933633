import TopicAccess.Collector.Session
import TopicAccess.Proofs.Acceptance
import TopicAccess.Proofs.Ownership

/-!
# What a collector holds

The state of a collector is a function of the directives that it has been fed: `Collected` says
which. The invariant is kept by every directive, and so by every step of a session, since a line
that is rejected, a freeze and a question leave the collector as it is. The main result,
`Collector.run_exact`, reads the answers of a collector off the lines of the session.
-/
namespace TopicAccess.Collector

open Directive (lastUser ownerAfter rulesFor namesFrom)

def applyAll (collector : Collector) (directives : List Directive) : Collector :=
  directives.foldl apply collector

@[simp] theorem isSealed_applyAll (collector : Collector) (directives : List Directive) :
    (collector.applyAll directives).isSealed = collector.isSealed := by
  induction directives generalizing collector with
  | nil => rfl
  | cons directive rest ih => exact (ih (collector.apply directive)).trans (isSealed_apply _ _)

theorem applyAll_append (collector : Collector) (before after : List Directive) :
    collector.applyAll (before ++ after) = (collector.applyAll before).applyAll after :=
  List.foldl_append

/-- A collector that has been fed exactly the given directives since it was empty. -/
structure Collected (directives : List Directive) (collector : Collector) : Prop where
  unsealed : collector.isSealed = false
  current : collector.current = ownerAfter .anonymous directives
  rules : ∀ principal, collector.store.rulesOf principal =
    rulesFor principal .anonymous directives
  names : collector.store.userNames = (namesFrom .anonymous directives).eraseDups
  count : collector.store.userRuleCount + collector.store.anonymous.length =
    (directives.filterMap Directive.rule?).length

theorem Collected.empty : Collected [] .empty where
  unsealed := rfl
  current := rfl
  rules principal := by cases principal <;> rfl
  names := rfl
  count := rfl

theorem current_apply (collector : Collector) (directive : Directive) :
    (collector.apply directive).current = ownerAfter collector.current [directive] := by
  cases directive <;> rfl

theorem store_apply (collector : Collector) (directive : Directive) :
    (collector.apply directive).store = match directive.rule? with
      | some rule => collector.store.add collector.current rule
      | none => collector.store := by
  cases directive <;> rfl

/-- Where names are listed once, in the order of their first occurrence, one more name is put at the
end if it is new. -/
private theorem eraseDups_concat (names : List String) (name : String) :
    (names ++ [name]).eraseDups =
      if name ∈ names.eraseDups then names.eraseDups else names.eraseDups ++ [name] := by
  rw [List.eraseDups_append]
  simp only [List.mem_eraseDups]
  by_cases known : name ∈ names <;> simp [List.removeAll, known, List.eraseDups_cons]

theorem Collected.apply {directives : List Directive} {collector : Collector}
    (collected : Collected directives collector) (directive : Directive) :
    Collected (directives ++ [directive]) (collector.apply directive) := by
  have owner := collected.current
  have unsealed : (collector.apply directive).isSealed = false :=
    (collector.isSealed_apply directive).trans collected.unsealed
  have current : (collector.apply directive).current =
      ownerAfter .anonymous (directives ++ [directive]) := by
    rw [current_apply, owner, Directive.ownerAfter_append]
  -- Only a rule changes the store, and it goes to the owner after the directives so far.
  cases stated : directive.rule? with
  | none =>
    have same : (collector.apply directive).store = collector.store := by
      rw [store_apply, stated]
    refine ⟨unsealed, current, ?_, ?_, ?_⟩ <;> rw [same]
    · intro principal
      simpa [Directive.rulesFor_append, stated] using collected.rules principal
    · simpa [Directive.namesFrom_append, Directive.namesFrom_singleton, stated] using
        collected.names
    · simpa [stated] using collected.count
  | some rule =>
    have added : (collector.apply directive).store =
        collector.store.add (ownerAfter .anonymous directives) rule := by
      rw [store_apply, stated, owner]
    refine ⟨unsealed, current, ?_, ?_, ?_⟩ <;> rw [added]
    · intro principal
      rw [RuleStore.rulesOf_add, collected.rules, Directive.rulesFor_append]
      by_cases own : principal = ownerAfter .anonymous directives
      · simp [own, stated]
      · simp [own, Ne.symm own]
    · rw [RuleStore.userNames_add, collected.names, Directive.namesFrom_append,
        Directive.namesFrom_singleton, stated]
      cases ownerAfter .anonymous directives with
      | anonymous => simp [Principal.user?]
      | named name =>
        exact (if_congr Iff.rfl rfl rfl).trans (eraseDups_concat _ name).symm
    · rw [RuleStore.userRuleCount_add, collected.count]
      simp [stated]

theorem Collected.applyAll {before : List Directive} {collector : Collector}
    (collected : Collected before collector) (directives : List Directive) :
    Collected (before ++ directives) (collector.applyAll directives) := by
  induction directives generalizing before collector with
  | nil => simpa [Collector.applyAll] using collected
  | cons directive rest ih => simpa [Collector.applyAll] using ih (collected.apply directive)

/-- The directives of the lines that say one. -/
def accepted (lines : List String) : List Directive :=
  lines.filterMap fun line => (Directive.ofLine line).toOption

/-- The lines that are fed in a session. -/
def fedLines (steps : List Step) : List String :=
  steps.filterMap fun
    | .feed line => some line
    | _ => none

/-- One step adds to the directives what its line says, if it feeds one. -/
theorem Collected.step {directives : List Directive} {session : Session}
    (collected : Collected directives session.collector) (covers : Matcher) (step : Step) :
    Collected (directives ++ accepted (fedLines [step])) (session.step covers step).1.collector := by
  cases step with
  | feed line =>
    cases read : Directive.ofLine line with
    | ok directive =>
      have fed := (feed_eq_ok_iff session.collector line _ _).mpr
        ⟨collected.unsealed, directive, read, rfl, rfl⟩
      simpa [Session.step, fed, fedLines, accepted, read, Except.toOption] using
        collected.apply directive
    | error fault =>
      have fed := (feed_eq_error_iff session.collector line _ _).mpr
        ⟨rfl, .inr ⟨collected.unsealed, fault, read, rfl⟩⟩
      simpa [Session.step, fed, fedLines, accepted, read, Except.toOption] using collected
  | freeze => simpa [Session.step, fedLines, accepted] using collected
  | ask => simpa [fedLines, accepted] using collected

theorem Collected.run {directives : List Directive} {session : Session}
    (collected : Collected directives session.collector) (covers : Matcher) (steps : List Step) :
    Collected (directives ++ accepted (fedLines steps)) (session.run covers steps).1.collector := by
  -- The directives grow with each step, so the invariant is general in them.
  induction steps generalizing directives session with
  | nil => simpa [Session.run, fedLines, accepted] using collected
  | cons step rest ih =>
    have split : accepted (fedLines (step :: rest)) =
        accepted (fedLines [step]) ++ accepted (fedLines rest) := by
      rw [accepted, accepted, accepted, ← List.filterMap_append, fedLines, fedLines, fedLines,
        ← List.filterMap_append]
      rfl
    rw [split, ← List.append_assoc]
    exact ih (collected.step covers step)

/-- **Exact state.** After any session with a new collector, whatever lines were rejected on the way
and whenever it was frozen or asked: the section is that of the last `user` directive; the rules for
anonymous clients are those stated before the first one; the rules of a name are those stated while
it was the name in the last one; the names are listed in the order of their first rules; and every
rule that was stated is counted once. -/
theorem run_exact (covers : Matcher) (steps : List Step) :
    let session := (Session.run covers {} steps).1
    let said := accepted (fedLines steps)
    let opening := (said.takeWhile (·.user?.isNone)).filterMap Directive.rule?
    session.collector.current = ownerAfter .anonymous said ∧
    session.answer covers none .anonymousRules = .ok (.rules opening) ∧
    (∀ user, session.answer covers none (.userRules user) =
      .ok (.rules (rulesFor (.named user) .anonymous said))) ∧
    session.answer covers none .userNames = .ok (.names (namesFrom .anonymous said).eraseDups) ∧
    (session.answer covers none .isEmpty = .ok (.flag true) ↔ opening = []) ∧
    ∃ count, (session.step covers .freeze).1.answer covers (some session.frozen.length)
        .userRuleCount = .ok (.count count) ∧
      count + opening.length = (said.filterMap Directive.rule?).length := by
  intro session said opening
  have fresh : Collected [] ({} : Session).collector := .empty
  have collected : Collected said session.collector := by simpa using fresh.run covers steps
  have anonymous : session.collector.store.anonymous = opening :=
    (collected.rules .anonymous).trans (Directive.rulesFor_anonymous said)
  refine ⟨collected.current, ?_, ?_, ?_, ?_, session.collector.store.userRuleCount, ?_, ?_⟩
  · simp [Session.answer, Collector.answer, Except.mapError, anonymous]
  · intro user
    simpa [Session.answer, Collector.answer, Except.mapError, RuleStore.rulesOf] using
      collected.rules (.named user)
  · simp [Session.answer, Collector.answer, Except.mapError, collected.names]
  · simp [Session.answer, Collector.answer, Except.mapError, anonymous]
  · simp [Session.step, Session.answer, RuleStore.answer]
  · rw [← anonymous]
    exact collected.count

end TopicAccess.Collector
