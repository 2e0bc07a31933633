import TopicAccess.Collector.Session
import Mathlib.Tactic.Common

/-!
# Frozen rules

Rules that have been frozen stay as they were: a step of a session puts at most one store behind the
frozen ones (`frozen_step`), so a run only lengthens their list (`frozen_run`). A session can be cut
anywhere (`run_append`), and each reply is what its step gives after the steps before it
(`reply_run`). The main result, `frozen_exact`, compares what is answered of frozen rules with what
the collector would have answered when they were frozen.
-/
namespace TopicAccess

namespace Collector

/-- A collector answers as its rules will when they are frozen, but that it does not count the rules
of users. -/
theorem answer_eq (collector : Collector) (covers : Matcher) {query : Query}
    (common : query ≠ .userRuleCount) :
    collector.answer covers query = .ok (collector.store.answer covers query) := by
  cases query with
  | userRuleCount => exact absurd rfl common
  | access operation topic user => rw [answer, decision_eq, RuleStore.answer]
  | _ => rfl

end Collector

namespace Collector.Session

variable (covers : Matcher)

/-! ### Sessions in parts -/

theorem run_append (session : Session) (first later : List Step) :
    session.run covers (first ++ later) =
      let middle := session.run covers first
      ((middle.1.run covers later).1, middle.2 ++ (middle.1.run covers later).2) := by
  induction first generalizing session with
  | nil => rfl
  | cons step rest ih => simp [run, ih]

theorem length_replies (session : Session) (steps : List Step) :
    (session.run covers steps).2.length = steps.length := by
  induction steps generalizing session with
  | nil => rfl
  | cons step rest ih => simp [run, ih]

/-- A reply is what its step gives after the steps before it. -/
theorem reply_run (session : Session) (before : List Step) (step : Step) (after : List Step) :
    (session.run covers (before ++ step :: after)).2[before.length]? =
      some ((session.run covers before).1.step covers step).2 := by
  rw [run_append]
  simp [length_replies, run]

/-! ### Frozen rules -/

theorem frozen_step (session : Session) (step : Step) :
    (session.step covers step).1.frozen =
      session.frozen ++ if step = .freeze then [session.collector.store] else [] := by
  cases step with
  | feed line =>
    rcases fed : session.collector.feed line with ⟨after, _ | _⟩ <;> simp [Session.step, fed]
  | freeze => simp [Session.step]
  | ask => simp

theorem frozen_run (session : Session) (steps : List Step) :
    ∃ later, (session.run covers steps).1.frozen = session.frozen ++ later ∧
      later.length = steps.count .freeze := by
  -- Each freeze adds one store, so the stores that are added count the freezes.
  induction steps generalizing session with
  | nil => exact ⟨[], by simp [run]⟩
  | cons step rest ih =>
    obtain ⟨later, same, length⟩ := ih (session.step covers step).1
    rw [frozen_step, List.append_assoc] at same
    refine ⟨_, same, ?_⟩
    by_cases freezes : step = .freeze <;> simp [freezes, length]

/-- What has been frozen stays at its place, whatever follows. -/
theorem frozen_run_freeze (session : Session) (before between : List Step) :
    (session.run covers (before ++ .freeze :: between)).1.frozen[
        session.frozen.length + before.count .freeze]? =
      some (session.run covers before).1.collector.store := by
  obtain ⟨early, same, length⟩ := frozen_run covers session before
  obtain ⟨late, same', _⟩ :=
    frozen_run covers ((session.run covers before).1.step covers .freeze).1 between
  have cut : (session.run covers (before ++ .freeze :: between)).1 =
      (((session.run covers before).1.step covers .freeze).1.run covers between).1 := by
    simp [run_append, run]
  rw [cut, same', frozen_step, same, ← length]
  simp

/-- **Frozen rules answer as the collector did.** In every session with any collector, a question
that is put at any later step to the rules frozen by some step has the answer that the collector
would have given right after that step, with the same comparisons in the same order, whatever was
fed, frozen or asked in between. The collector finds its answers in its own way: a question about
access it decides for a name only if the name is among those that have rules. -/
theorem frozen_exact (collector : Collector) (before between after : List Step) (query : Query)
    (common : query ≠ .userRuleCount) :
    let start : Session := { collector }
    let index := before.count .freeze
    let script := before ++ .freeze :: between ++ .ask (some index) query :: after
    let session := (start.run covers (before ++ [.freeze])).1
    ∃ answer, (session.step covers (.ask none query)).2 = .answered answer ∧
      (start.run covers script).2[before.length + 1 + between.length]? =
        some (.answered answer) ∧
      ∀ operation topic user, query = .access operation topic user → answer =
        .decision (session.collector.decision covers operation topic (.ofUser user)) := by
  intro start index script session
  have kept : session.collector = (start.run covers before).1.collector := by
    simp [session, run_append, run, step]
  have held := frozen_run_freeze covers start before between
  refine ⟨session.collector.store.answer covers query, ?_, ?_, ?_⟩
  · simp only [step, answer, answer_eq _ covers common, Except.mapError]
  · have place : before.length + 1 + between.length = (before ++ .freeze :: between).length := by
      simp
      omega
    rw [place, reply_run]
    have found : (start.run covers (before ++ .freeze :: between)).1.frozen[index]? =
        some session.collector.store := by
      rw [kept, ← held]
      simp [start, index]
    simp only [step, answer, found]
  · rintro operation topic user rfl
    simp only [RuleStore.answer, decision_eq]

/-- A rule that is added after a freeze decides only for what is frozen later. -/
theorem frozen_exact_later_rule :
    let question := Query.access .read "c" (some "bob")
    let script : List Step := [.feed "user bob", .feed "topic write b", .freeze, .feed "topic c",
      .freeze, .ask (some 0) question]
    question ≠ .userRuleCount ∧ (Session.run Topic.covers {} script).2[5]? =
      some (.answered (.decision ⟨false, []⟩)) := by
  intro question script
  have common : question ≠ .userRuleCount := by decide
  obtain ⟨answer, then_, later, _⟩ := frozen_exact Topic.covers .empty
    [.feed "user bob", .feed "topic write b"] [.feed "topic c", .freeze] [] question common
  have same : answer = .decision ⟨false, []⟩ := by
    cases then_
    rfl
  rw [same] at later
  exact ⟨common, later⟩

end Collector.Session
end TopicAccess
