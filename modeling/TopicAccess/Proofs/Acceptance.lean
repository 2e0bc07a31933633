import TopicAccess.Collector.Session
import TopicAccess.Proofs.Grammar

/-!
# What one line does to a collector

`Collector.feed_eq_ok_iff` and `Collector.feed_eq_error_iff` say all that feeding a line can come
to. The main result, `Collector.feed_exact`, ties that to the grammar: an unsealed collector takes
the lines that can be written, each with the effect of what it says, and reports every other line.
-/
namespace TopicAccess.Collector

/-- A collector after one more rule. It is the last rule of the principal whose section is current,
no other principal's rules are different, and only a new name changes the names. -/
structure Appends (before : Collector) (rule : Rule) (after : Collector) : Prop where
  current : after.current = before.current
  isSealed : after.isSealed = before.isSealed
  rules : ∀ principal, after.store.rulesOf principal =
    if principal = before.current then before.store.rulesOf principal ++ [rule]
    else before.store.rulesOf principal
  names : after.store.userNames = match before.current with
    | .anonymous => before.store.userNames
    | .named name =>
      if name ∈ before.store.userNames then before.store.userNames
      else before.store.userNames ++ [name]

/-- What a directive makes of a collector. -/
inductive Becomes (before : Collector) : Directive → Collector → Prop
  | grant {rule : Rule} {after : Collector} (appended : before.Appends rule after) :
      Becomes before (.grant rule) after
  | enter (user : String) :
      Becomes before (.enter user) { before with current := .named user }
  | reserved : Becomes before .reserved before

theorem apply_becomes (collector : Collector) (directive : Directive) :
    collector.Becomes directive (collector.apply directive) := by
  cases directive with
  | grant rule =>
    exact .grant ⟨rfl, rfl, fun other => collector.store.rulesOf_add collector.current other rule,
      collector.store.userNames_add collector.current rule⟩
  | enter user => exact .enter user
  | reserved => exact .reserved

@[simp] theorem isSealed_apply (collector : Collector) (directive : Directive) :
    (collector.apply directive).isSealed = collector.isSealed := by
  cases directive <;> rfl

/-- A line is taken over exactly when it says something and the collector is not sealed. -/
theorem feed_eq_ok_iff (collector : Collector) (line : String) (after : Collector)
    (notice : Notice) : collector.feed line = (after, .ok notice) ↔
      collector.isSealed = false ∧ ∃ directive, Directive.ofLine line = .ok directive ∧
        after = collector.apply directive ∧ notice = collector.notice line directive := by
  unfold feed
  cases collector.isSealed with
  | true => simp
  | false => cases read : Directive.ofLine line <;> simp [eq_comm]

/-- A line is reported exactly when the collector is sealed, or for a fault of the line itself. The
collector is then left as it was. -/
theorem feed_eq_error_iff (collector : Collector) (line : String) (after : Collector)
    (problem : Problem) : collector.feed line = (after, .error problem) ↔ after = collector ∧
      (collector.isSealed = true ∧ problem = sealedProblem ∨
        collector.isSealed = false ∧ ∃ fault, Directive.ofLine line = .error fault ∧
          problem = fault.problem line) := by
  unfold feed
  cases collector.isSealed with
  | true => simp [eq_comm]
  | false => cases read : Directive.ofLine line <;> simp [eq_comm]

/-- **Exact acceptance.** A collector that is not sealed takes a line over exactly when the line can
be written in one of the four ways, which exclude each other, and does with it what the directive
says. Any other line is reported as it stands, without a line number, and a session in which it is
fed is left as it was. -/
theorem feed_exact (collector : Collector) (unsealed : collector.isSealed = false)
    (line : String) :
    ((∃ after notice, collector.feed line = (after, .ok notice)) ↔
      ∃ form directive, Written form line.toList directive) ∧
    (∀ form directive, Written form line.toList directive → ∃ after notice,
      collector.feed line = (after, .ok notice) ∧ collector.Becomes directive after) ∧
    (∀ form form' directive directive', Written form line.toList directive →
      Written form' line.toList directive' → form = form' ∧ directive = directive') ∧
    ((¬∃ form directive, Written form line.toList directive) → ∃ message,
      collector.feed line = (collector, .error (.rejected message (some line) none)) ∧
      ∀ (covers : Matcher) (session : Session), session.collector = collector →
        (session.step covers (.feed line)).1 = session) := by
  -- What can be written is read, so it is taken over; what is read can be written.
  have taken : ∀ form directive, Written form line.toList directive →
      collector.feed line = (collector.apply directive, .ok (collector.notice line directive)) := by
    intro form directive written
    exact (feed_eq_ok_iff _ _ _ _).mpr
      ⟨unsealed, directive, Directive.ofChars_written written, rfl, rfl⟩
  refine ⟨⟨?_, ?_⟩, ?_, ?_, ?_⟩
  · rintro ⟨after, notice, fed⟩
    obtain ⟨_, directive, read, _⟩ := (feed_eq_ok_iff _ _ _ _).mp fed
    obtain ⟨form, written⟩ := (Directive.ofChars_eq_ok_iff _ _).mp read
    exact ⟨form, directive, written⟩
  · rintro ⟨form, directive, written⟩
    exact ⟨_, _, taken form directive written⟩
  · intro form directive written
    exact ⟨_, _, taken form directive written, apply_becomes collector directive⟩
  · intro form form' directive directive' written written'
    exact written.unique written'
  · intro unwritten
    cases read : Directive.ofLine line with
    | ok directive =>
      obtain ⟨form, written⟩ := (Directive.ofChars_eq_ok_iff _ _).mp read
      exact absurd ⟨form, directive, written⟩ unwritten
    | error fault =>
      have refused := (feed_eq_error_iff collector line _ _).mpr
        ⟨rfl, .inr ⟨unsealed, fault, read, rfl⟩⟩
      refine ⟨_, refused, ?_⟩
      rintro covers session rfl
      simp [Session.step, refused]

/-- In the section of a user, a filter behind a permission is kept with its spaces. -/
theorem feed_exact_user_section :
    (Collector.empty.apply (.enter "bob")).isSealed = false ∧ ∃ after notice,
      (Collector.empty.apply (.enter "bob")).feed "Topic\tWRITE  a  B " = (after, .ok notice) ∧
      (Collector.empty.apply (.enter "bob")).Becomes (.grant ⟨"a  B ", .write⟩) after := by
  obtain ⟨form, written⟩ := (Directive.ofChars_eq_ok_iff "Topic\tWRITE  a  B ".toList
    (.grant ⟨"a  B ", .write⟩)).mp rfl
  exact ⟨rfl, (feed_exact _ rfl _).2.1 form _ written⟩

end TopicAccess.Collector
