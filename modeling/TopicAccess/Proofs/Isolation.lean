import TopicAccess.Proofs.Loading
import TopicAccess.Query

/-!
# Isolation between principals

Rule text is divided into sections by the lines that enter one. `EditedOutside` relates two texts
that differ in the bodies of sections of other principals only, however many of them are rewritten.
Each section gives a principal the same rules before and after such an edit, and the edit cannot
reach beyond the line that enters the next one. The main result, `load_isolated`, compares the two
loads.
-/
namespace TopicAccess.RuleText

open Directive (rulesFor ownerAfter)

/-! ### Sections -/

/-- The name of the section that a line enters, if it enters one. -/
def entered? (line : String) : Option String :=
  (directive? line).bind Directive.user?

theorem entered?_eq_some_iff (line name : String) :
    entered? line = some name ↔ directive? line = some (.enter name) := by
  unfold entered?
  cases directive? line with
  | none => simp
  | some directive => cases directive <;> simp

/-- Lines that enter no section say no `user` directive. -/
theorem user?_eq_none_of_mem_directives {lines : List String}
    (plain : ∀ line ∈ lines, entered? line = none) :
    ∀ directive ∈ directives lines, directive.user? = none := by
  intro directive member
  obtain ⟨line, found, states⟩ := List.mem_filterMap.mp member
  have silent := plain line found
  rwa [entered?, states, Option.bind_some] at silent

/-- The rules of a text are those of its first section and those of what follows, read in the
section that is entered there. -/
theorem rulesFor_section (principal owner : Principal) {body : List String} {line name : String}
    (plain : ∀ line ∈ body, entered? line = none) (enters : entered? line = some name)
    (rest : List String) : rulesFor principal owner (directives (body ++ line :: rest)) =
      rulesFor principal owner (directives body) ++
        rulesFor principal (.named name) (directives rest) := by
  have head : directives (line :: rest) = .enter name :: directives rest :=
    List.filterMap_cons_some ((entered?_eq_some_iff line name).mp enters)
  have owned : ownerAfter owner (directives body) = owner :=
    Directive.ownerAfter_of_forall_user?_eq_none (user?_eq_none_of_mem_directives plain) owner
  rw [directives_append, Directive.rulesFor_append, owned, head, Directive.rulesFor_cons]
  simp

/-! ### Edits -/

/-- The body of a section before and after an edit that spares a principal. Neither of them enters
another section, and the body of a section of the principal stays. -/
structure SectionEdit (principal owner : Principal) (body edited : List String) : Prop where
  plain : ∀ line ∈ body, entered? line = none
  plain' : ∀ line ∈ edited, entered? line = none
  own : owner = principal → edited = body

/-- Two texts, read from the section of an owner on, that differ only in the bodies of sections that
do not belong to a principal. -/
inductive EditedOutside (principal : Principal) : Principal → List String → List String → Prop
  | last {owner : Principal} {body edited : List String}
      (edit : SectionEdit principal owner body edited) : EditedOutside principal owner body edited
  | next {owner : Principal} {body edited rest rest' : List String} {line name : String}
      (edit : SectionEdit principal owner body edited) (enters : entered? line = some name)
      (later : EditedOutside principal (.named name) rest rest') :
      EditedOutside principal owner (body ++ line :: rest) (edited ++ line :: rest')

theorem SectionEdit.cons {principal owner : Principal} {body edited : List String}
    (edit : SectionEdit principal owner body edited) {line : String}
    (silent : entered? line = none) :
    SectionEdit principal owner (line :: body) (line :: edited) where
  plain := List.forall_mem_cons.mpr ⟨silent, edit.plain⟩
  plain' := List.forall_mem_cons.mpr ⟨silent, edit.plain'⟩
  own same := by rw [edit.own same]

/-- An edit may leave any line of a section in its place. -/
theorem EditedOutside.cons {principal owner : Principal} {lines edited : List String}
    (edit : EditedOutside principal owner lines edited) {line : String}
    (silent : entered? line = none) :
    EditedOutside principal owner (line :: lines) (line :: edited) := by
  cases edit with
  | last edit => exact .last (edit.cons silent)
  | next edit enters later => exact .next (edit.cons silent) enters later

/-- Every text has sections, and may be left as it is. -/
theorem EditedOutside.refl (principal owner : Principal) (lines : List String) :
    EditedOutside principal owner lines lines := by
  have empty : ∀ owner, SectionEdit principal owner [] [] := fun _ => ⟨by simp, by simp, by simp⟩
  induction lines generalizing owner with
  | nil => exact .last (empty owner)
  | cons line rest ih =>
    cases entered : entered? line with
    | none => exact (ih owner).cons entered
    | some name => exact .next (empty owner) entered (ih (.named name))

/-! ### What an edit leaves alone -/

/-- In a section of another principal there is no rule to lose or to gain. -/
theorem SectionEdit.rulesFor_eq {principal owner : Principal} {body edited : List String}
    (edit : SectionEdit principal owner body edited) :
    rulesFor principal owner (directives body) = rulesFor principal owner (directives edited) := by
  -- The own section is the same text; any other section holds no rules of the principal.
  by_cases same : owner = principal
  · rw [edit.own same]
  · rw [Directive.rulesFor_of_forall_user?_eq_none (user?_eq_none_of_mem_directives edit.plain),
      Directive.rulesFor_of_forall_user?_eq_none (user?_eq_none_of_mem_directives edit.plain'),
      if_neg same, if_neg same]

/-- An edit outside the sections of a principal leaves its rules and their order as they are. -/
theorem EditedOutside.rulesFor_eq {principal owner : Principal} {lines edited : List String}
    (edit : EditedOutside principal owner lines edited) :
    rulesFor principal owner (directives lines) = rulesFor principal owner (directives edited) := by
  -- Both texts enter the next section by the same line, so they go on with the same owner.
  induction edit with
  | last edit => exact edit.rulesFor_eq
  | next edit enters _ ih =>
    rw [rulesFor_section _ _ edit.plain enters, rulesFor_section _ _ edit.plain' enters,
      edit.rulesFor_eq, ih]

/-- **Isolation.** Where the bodies of any sections that do not belong to a principal are replaced,
lenient loading gives the principal the same rules in the same order, and every question about what
the principal may do has the same answer and compares the same filters with the topic, in the same
order. -/
theorem load_isolated (principal : Principal) (lines edited : List String)
    (edit : EditedOutside principal .anonymous lines edited) :
    ∃ store store', (load false lines).outcome = .ok store ∧
      (load false edited).outcome = .ok store' ∧
      store.rulesOf principal = store'.rulesOf principal ∧
      ∀ (covers : Matcher) (operation : Operation) (topic : String) (user : Option String),
        Principal.ofUser user = principal →
        store.answer covers (.access operation topic user) =
          store'.answer covers (.access operation topic user) := by
  have gathered := Collector.Collected.empty.applyAll (directives lines)
  have gathered' := Collector.Collected.empty.applyAll (directives edited)
  refine ⟨_, _, loadFrom_lenient 1 rfl lines, loadFrom_lenient 1 rfl edited, ?_⟩
  have same : (Collector.empty.applyAll (directives lines)).store.rulesOf principal =
      (Collector.empty.applyAll (directives edited)).store.rulesOf principal :=
    calc (Collector.empty.applyAll (directives lines)).store.rulesOf principal
        = rulesFor principal .anonymous (directives lines) := gathered.rules principal
      _ = rulesFor principal .anonymous (directives edited) := edit.rulesFor_eq
      _ = (Collector.empty.applyAll (directives edited)).store.rulesOf principal :=
        (gathered'.rules principal).symm
  refine ⟨same, ?_⟩
  intro covers operation topic user asks
  simp only [RuleStore.answer, RuleStore.decision_eq, asks, same]

/-- A rule of another user gives way to a rejected line and a comment. -/
theorem load_isolated_other_user :
    let lines := ["topic a", "user eve", "topic write #", "user bob", "topic b"]
    let edited := ["topic a", "user eve", "nonsense", "# topic b", "user bob", "topic b"]
    EditedOutside (.named "bob") .anonymous lines edited ∧
    ∃ store store', (load false lines).outcome = .ok store ∧
      (load false edited).outcome = .ok store' ∧
      store.rulesOf (.named "bob") = store'.rulesOf (.named "bob") := by
  intro lines edited
  have eve : SectionEdit (.named "bob") (.named "eve") ["topic write #"] ["nonsense", "# topic b"] :=
    ⟨by decide, by decide, by decide⟩
  have enters : entered? "user eve" = some "eve" := rfl
  have leaves : entered? "user bob" = some "bob" := rfl
  have later : EditedOutside (.named "bob") (.named "eve")
      ["topic write #", "user bob", "topic b"] ["nonsense", "# topic b", "user bob", "topic b"] :=
    .next eve leaves (.refl _ _ ["topic b"])
  have opening : SectionEdit (.named "bob") .anonymous ["topic a"] ["topic a"] :=
    ⟨by decide, by decide, by decide⟩
  have edit : EditedOutside (.named "bob") .anonymous lines edited :=
    .next opening enters later
  obtain ⟨store, store', loaded, loaded', same, _⟩ := load_isolated (.named "bob") lines edited edit
  exact ⟨edit, store, store', loaded, loaded', same⟩

end TopicAccess.RuleText
