import Mathlib.Tactic.Common
import TopicAccess.Collector.Session

/-!
# Decisions by the first match

A decision goes through the rules of one principal and ends at the first of them that grants the
operation on a filter that covers the topic. `Decision.Compares` says what comes of that, verdict
and comparisons together, of the filters alone: which rules there are, and what they grant, counts
only for which filters are looked at (`Decision.candidates`). The search does just that
(`Decision.search_compares`). The main result, `RuleStore.decision_exact`, names the rules that are
looked at for a user of any store, whether it has been collected, frozen or put together from lists.
-/
namespace TopicAccess

/-- A permission suffices when it is the required one or grants everything. -/
theorem Permission.grants_iff (held required : Permission) :
    held.grants required = true ↔ held = required ∨ held = .readWrite := by
  simp [grants]

namespace Decision

/-! ### Comparing filters with a topic -/

/-- The filters of the rules that grant an operation, in the order of the rules. -/
def candidates (operation : Operation) (rules : List Rule) : List String :=
  (rules.filter fun rule =>
    rule.permission = operation.permission ∨ rule.permission = .readWrite).map (·.filter)

/-- What comes of comparing filters with a topic in their order. The comparisons end with the first
filter that covers the topic; where none does, all of them are made. -/
inductive Compares (covers : Matcher) (topic : String) (filters : List String) : Decision → Prop
  | stopped {before after : List String} {filter : String}
      (split : filters = before ++ filter :: after)
      (passed : ∀ earlier ∈ before, covers topic earlier = false)
      (covered : covers topic filter = true) :
      Compares covers topic filters ⟨true, before ++ [filter]⟩
  | exhausted (passed : ∀ filter ∈ filters, covers topic filter = false) :
      Compares covers topic filters ⟨false, filters⟩

theorem mem_candidates_iff (operation : Operation) (rules : List Rule) (filter : String) :
    filter ∈ candidates operation rules ↔ ∃ rule ∈ rules, rule.filter = filter ∧
      (rule.permission = operation.permission ∨ rule.permission = .readWrite) := by
  simp [candidates, and_comm, and_left_comm]

section Compares

variable {covers : Matcher} {topic : String}

/-- A filter that does not cover the topic is compared and left behind. -/
theorem Compares.cons {filters : List String} {decision : Decision}
    (later : Compares covers topic filters decision) {filter : String}
    (passed : covers topic filter = false) :
    Compares covers topic (filter :: filters) ⟨decision.allowed, filter :: decision.asked⟩ := by
  cases later with
  | @stopped before after found split passed' covered =>
    have longer : filter :: filters = (filter :: before) ++ found :: after := by
      rw [split, List.cons_append]
    exact .stopped longer (List.forall_mem_cons.mpr ⟨passed, passed'⟩) covered
  | exhausted passed' => exact .exhausted (List.forall_mem_cons.mpr ⟨passed, passed'⟩)

theorem Compares.allowed_iff {filters : List String} {decision : Decision}
    (compares : Compares covers topic filters decision) :
    decision.allowed = true ↔ ∃ filter ∈ filters, covers topic filter = true := by
  cases compares with
  | @stopped before after filter split _ covered =>
    have member : filter ∈ filters := by simp [split]
    exact ⟨fun _ => ⟨filter, member, covered⟩, fun _ => rfl⟩
  | exhausted passed =>
    constructor
    · intro allowed
      cases allowed
    · rintro ⟨filter, member, covered⟩
      cases (passed filter member).symm.trans covered

/-- Nothing but the filters is compared. -/
theorem Compares.asked_subset {filters : List String} {decision : Decision}
    (compares : Compares covers topic filters decision) : decision.asked ⊆ filters := by
  cases compares with
  | stopped split =>
    rw [split]
    simp
  | exhausted => exact List.Subset.refl _

end Compares

/-- The search goes through the filters of the rules that grant the operation. -/
theorem search_compares (covers : Matcher) (operation : Operation) (topic : String)
    (rules : List Rule) : Compares covers topic (candidates operation rules)
      (search covers operation topic rules) := by
  induction rules with
  | nil => exact .exhausted (by simp [candidates])
  | cons rule rest ih =>
    unfold search
    by_cases granted : rule.permission = operation.permission ∨ rule.permission = .readWrite
    · have counted : candidates operation (rule :: rest) =
          rule.filter :: candidates operation rest := by
        simp [candidates, granted]
      have grants : rule.permission.grants operation.permission = true :=
        (Permission.grants_iff _ _).mpr granted
      rw [counted, if_pos grants]
      by_cases covered : covers topic rule.filter = true
      · have first : rule.filter :: candidates operation rest =
            [] ++ rule.filter :: candidates operation rest := rfl
        rw [if_pos covered]
        exact .stopped first (by simp) covered
      · rw [if_neg covered]
        exact ih.cons (by simpa using covered)
    -- A rule that does not grant the operation is no candidate, and the search passes it over.
    · have skipped : candidates operation (rule :: rest) = candidates operation rest := by
        simp [candidates, granted]
      have refuses : ¬rule.permission.grants operation.permission = true :=
        fun grants => granted ((Permission.grants_iff _ _).mp grants)
      rw [skipped, if_neg refuses]
      exact ih

/-- The search allows what some rule grants on a filter that covers the topic. -/
theorem search_allowed_iff (covers : Matcher) (operation : Operation) (topic : String)
    (rules : List Rule) : (search covers operation topic rules).allowed = true ↔
      ∃ rule ∈ rules, rule.permission.grants operation.permission = true ∧
        covers topic rule.filter = true := by
  simp only [(search_compares covers operation topic rules).allowed_iff, mem_candidates_iff,
    Permission.grants_iff]
  constructor
  · rintro ⟨filter, ⟨rule, held, rfl, granted⟩, covered⟩
    exact ⟨rule, held, granted, covered⟩
  · rintro ⟨rule, held, granted, covered⟩
    exact ⟨rule.filter, ⟨rule, held, rfl, granted⟩, covered⟩

/-- A decision by rules: some rule grants the operation on a filter that covers the topic, and such
rules were looked for in the order of the rules, with no comparison for a rule that does not grant
the operation. -/
structure ByFirstMatch (covers : Matcher) (operation : Operation) (topic : String)
    (rules : List Rule) (decision : Decision) : Prop where
  allowed : decision.allowed = true ↔ ∃ rule ∈ rules,
    (rule.permission = operation.permission ∨ rule.permission = .readWrite) ∧
      covers topic rule.filter = true
  compares : Compares covers topic (candidates operation rules) decision
  spared : ∀ filter ∈ decision.asked, ∃ rule ∈ rules, rule.filter = filter ∧
    (rule.permission = operation.permission ∨ rule.permission = .readWrite)

theorem byFirstMatch_search (covers : Matcher) (operation : Operation) (topic : String)
    (rules : List Rule) :
    ByFirstMatch covers operation topic rules (search covers operation topic rules) := by
  have compares := search_compares covers operation topic rules
  refine ⟨?_, compares, ?_⟩
  · simp only [search_allowed_iff, Permission.grants_iff]
  · intro filter asked
    exact (mem_candidates_iff _ _ _).mp (compares.asked_subset asked)

end Decision

namespace RuleStore

/-! ### The rules that are looked at -/

/-- The rules that are looked at for a user: those for anonymous clients where the name is missing
or empty, and otherwise what is stored under the name. -/
def consulted (store : RuleStore) : Option String → List Rule
  | none => store.anonymous
  | some name => if name = "" then store.anonymous else store.rulesUnder name

theorem rulesOf_ofUser (store : RuleStore) (user : Option String) :
    store.rulesOf (.ofUser user) = store.consulted user := by
  cases user with
  | none => rfl
  | some name => by_cases empty : name = "" <;> simp [Principal.ofUser, consulted, rulesOf, empty]

/-- Of the lists given for a name the last one is stored under it, be it empty, and be the name. -/
theorem rulesUnder_ofLists (anonymous : List Rule) (users : List (String × List Rule))
    (name : String) :
    (ofLists anonymous users).rulesUnder name = (users.reverse.lookup name).getD [] := by
  have stored : ∀ held, (users.foldl (fun held entry => replaceFor entry.1 entry.2 held) held).lookup
      name = (users.reverse.lookup name).or (held.lookup name) := by
    -- A list that is stored later hides what is held, so the fold is taken from any start.
    induction users with
    | nil => simp
    | cons entry rest ih =>
      intro held
      rw [List.foldl_cons, ih, List.reverse_cons, List.lookup_append, lookup_replaceFor,
        List.lookup_cons]
      by_cases same : name = entry.1
      · cases rest.reverse.lookup name <;> simp [same]
      · have differs : (name == entry.1) = false := by simp [same]
        cases rest.reverse.lookup name <;> simp [same, differs]
  rw [rulesUnder, rulesUnder?, ofLists, stored]
  simp

/-- A question about access is answered by the rules that are looked at for the user. -/
theorem answer_access (store : RuleStore) (covers : Matcher) (operation : Operation)
    (topic : String) (user : Option String) : store.answer covers (.access operation topic user) =
      .decision (Decision.search covers operation topic (store.consulted user)) := by
  rw [answer, decision_eq, rulesOf_ofUser]

/-- **First match.** Whatever a store holds, and whether the question is put to the store, to the
collector of a session or to rules frozen in it: an operation is allowed to a user exactly when some
rule looked at for the user grants it on a filter that covers the topic, and the filters of the
rules that grant it are compared in order up to the first one that covers the topic, or all of them.
A store put together from lists holds the last list of each name, and what any store holds under the
empty name makes no difference. -/
theorem decision_exact (covers : Matcher) (operation : Operation) (topic : String)
    (user : Option String) :
    let question := Query.access operation topic user
    (∀ store : RuleStore, ∃ decision, store.answer covers question = .decision decision ∧
      decision.ByFirstMatch covers operation topic (store.consulted user)) ∧
    (∀ (anonymous : List Rule) (users : List (String × List Rule)),
      (ofLists anonymous users).anonymous = anonymous ∧ ∀ name,
        (ofLists anonymous users).rulesUnder name = (users.reverse.lookup name).getD []) ∧
    (∀ session : Collector.Session, ∃ decision,
      session.answer covers none question = .ok (.decision decision) ∧
      decision.ByFirstMatch covers operation topic (session.collector.store.consulted user)) ∧
    (∀ (session : Collector.Session) (index : Nat) (store : RuleStore),
      session.frozen[index]? = some store → ∃ decision,
        session.answer covers (some index) question = .ok (.decision decision) ∧
        decision.ByFirstMatch covers operation topic (store.consulted user)) ∧
    ∀ store other : RuleStore, other.anonymous = store.anonymous →
      (∀ name, name ≠ "" → other.rulesUnder name = store.rulesUnder name) →
      other.answer covers question = store.answer covers question := by
  intro question
  have decided := fun rules => Decision.byFirstMatch_search covers operation topic rules
  refine ⟨?_, ?_, ?_, ?_, ?_⟩
  · intro store
    exact ⟨_, store.answer_access covers operation topic user, decided _⟩
  · intro anonymous users
    exact ⟨rfl, rulesUnder_ofLists anonymous users⟩
  · intro session
    refine ⟨_, ?_, decided _⟩
    simp only [Collector.Session.answer, Collector.answer, Collector.decision_eq, decision_eq,
      rulesOf_ofUser, Except.mapError, question]
  · intro session index store frozen
    refine ⟨_, ?_, decided _⟩
    rw [← answer_access]
    simp only [Collector.Session.answer, frozen, question]
  -- The empty name is that of no principal, so it is not looked up.
  · intro store other anonymous named
    have same : other.consulted user = store.consulted user := by
      cases user with
      | none => exact anonymous
      | some name =>
        by_cases empty : name = ""
        · simp [consulted, empty, anonymous]
        · simp [consulted, empty, named name empty]
    rw [answer_access, answer_access, same]

/-- Rules under the empty name and a user without rules. The rule for writing is passed over, and
the comparisons end before the last rule. -/
theorem decision_exact_empty_name :
    let store := ofLists [⟨"c", .write⟩, ⟨"b", .read⟩, ⟨"+", .readWrite⟩, ⟨"c", .read⟩]
      [("", [⟨"#", .readWrite⟩]), ("bob", [])]
    store.answer Topic.covers (.access .read "c" (some "")) = .decision ⟨true, ["b", "+"]⟩ ∧
      Decision.ByFirstMatch Topic.covers .read "c" store.anonymous ⟨true, ["b", "+"]⟩ ∧
      store.answer Topic.covers (.access .read "c" (some "bob")) = .decision ⟨false, []⟩ := by
  intro store
  have asked : store.answer Topic.covers (.access .read "c" (some "")) =
      .decision ⟨true, ["b", "+"]⟩ := by decide
  have denied : store.answer Topic.covers (.access .read "c" (some "bob")) =
      .decision ⟨false, []⟩ := by decide
  obtain ⟨decision, answered, decided⟩ :=
    (decision_exact Topic.covers .read "c" (some "")).1 store
  cases asked.symm.trans answered
  exact ⟨asked, decided, denied⟩

end RuleStore

end TopicAccess
