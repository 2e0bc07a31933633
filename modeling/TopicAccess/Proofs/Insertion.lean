import TopicAccess.Proofs.Selection

/-!
# One more rule

A line that states a rule is put between the lines of a rule file, wherever it may be. It is taken
over in the section that is in force there, so the owner of that section has the rule in addition
and everybody else has the rules of before (`RuleText.mem_rulesFor_insert_iff`). The line is not
rejected, so the text is loaded if it was loaded without the line (`RuleText.exists_load_insert`),
and it still has rules for anonymous clients if it had them, so that its rules still decide. The
main result, `Authorizer.insertion_exact`, compares the answers.
-/
namespace TopicAccess

namespace RuleText

open Directive (rulesFor ownerAfter)

/-- A line by itself that states a rule, indented or not. -/
structure States (line : String) (rule : Rule) : Prop where
  endless : ∀ c ∈ line.toList, Text.isLineEnd c = false
  read : ∃ (indent : List Char) (content : String), line.toList = indent ++ content.toList ∧
    (∀ c ∈ indent, Text.isIndent c = true) ∧ Directive.ofLine content = .ok (.grant rule)

theorem States.directive?_eq {line : String} {rule : Rule} (states : States line rule) :
    directive? line = some (.grant rule) := by
  obtain ⟨indent, content, split, blank, read⟩ := states.read
  exact directive?_of_ofLine states.endless split blank read

section Insert

variable {before after : List String} {line : String} {rule : Rule} (states : States line rule)

include states

/-- The owner of the section has the rule in addition, and nobody else's rules change. -/
theorem mem_rulesFor_insert_iff (principal : Principal) (other : Rule) :
    other ∈ rulesFor principal .anonymous (directives (before ++ line :: after)) ↔
      other ∈ rulesFor principal .anonymous (directives (before ++ after)) ∨
        (ownerAfter .anonymous (directives before) = principal ∧ other = rule) := by
  -- The line leaves the reader in its section, so the lines behind it belong to the same owners.
  have inserted : rulesFor principal .anonymous (directives (before ++ line :: after)) =
      rulesFor principal .anonymous (directives before) ++
        ((if ownerAfter .anonymous (directives before) = principal then [rule] else []) ++
          rulesFor principal (ownerAfter .anonymous (directives before)) (directives after)) := by
    rw [directives_append, directives_cons, states.directive?_eq, Option.toList_some,
      List.singleton_append, Directive.rulesFor_append, Directive.rulesFor_cons,
      Directive.rulesFor_singleton, Directive.ownerAfter_grant, Directive.rule?_grant,
      Option.toList_some]
  rw [inserted, directives_append, Directive.rulesFor_append]
  by_cases own : ownerAfter .anonymous (directives before) = principal
  · simp only [own, if_true, List.mem_append, List.mem_singleton, true_and]
    tauto
  · simp [own]

/-- The text is still loaded, and the rules in the store are those of before and the new one. -/
theorem exists_load_insert {strict : Bool} {store : RuleStore}
    (loaded : (load strict (before ++ after)).outcome = .ok store) :
    ∃ store', (load strict (before ++ line :: after)).outcome = .ok store' ∧
      ∀ principal other, other ∈ store'.rulesOf principal ↔ other ∈ store.rulesOf principal ∨
        (ownerAfter .anonymous (directives before) = principal ∧ other = rule) := by
  have accepted : ¬(strict = true ∧ ∃ found ∈ before ++ after, Rejected found) := by
    rw [← exists_problem_iff, loaded]
    simp
  have still : ¬(strict = true ∧ ∃ found ∈ before ++ line :: after, Rejected found) := by
    rintro ⟨isStrict, found, member, rejected⟩
    rcases List.mem_append.mp member with earlier | later
    · exact accepted ⟨isStrict, found, List.mem_append_left _ earlier, rejected⟩
    rcases List.mem_cons.mp later with rfl | later
    · exact not_rejected_of_directive? states.directive?_eq rejected
    · exact accepted ⟨isStrict, found, List.mem_append_right _ later, rejected⟩
  cases outcome : (load strict (before ++ line :: after)).outcome with
  | error problem => exact absurd ((exists_problem_iff _ _).mp ⟨problem, outcome⟩) still
  | ok store' =>
    obtain ⟨collector, collected, rfl⟩ := collected_of_load_ok loaded
    obtain ⟨collector', collected', rfl⟩ := collected_of_load_ok outcome
    refine ⟨_, rfl, fun principal other => ?_⟩
    rw [collected.rules, collected'.rules]
    exact mem_rulesFor_insert_iff states principal other

end Insert

end RuleText

namespace RuleStore

/-- Where a principal has one more rule, it is allowed what it was allowed and what that rule
grants. -/
theorem decision_allowed_of_insert {store store' : RuleStore} {owner : Principal} {rule : Rule}
    (inserted : ∀ principal other, other ∈ store'.rulesOf principal ↔
      other ∈ store.rulesOf principal ∨ (owner = principal ∧ other = rule))
    (covers : Matcher) (operation : Operation) (topic : String) (principal : Principal) :
    (store'.decision covers operation topic principal).allowed = true ↔
      (store.decision covers operation topic principal).allowed = true ∨
        (owner = principal ∧
          (rule.permission = operation.permission ∨ rule.permission = .readWrite) ∧
          covers topic rule.filter = true) := by
  simp only [decision_eq, Decision.search_allowed_iff, Permission.grants_iff, inserted]
  constructor
  · rintro ⟨other, held | ⟨own, rfl⟩, granted⟩
    · exact .inl ⟨other, held, granted⟩
    · exact .inr ⟨own, granted⟩
  · rintro (⟨other, held, granted⟩ | ⟨own, granted⟩)
    · exact ⟨other, .inl held, granted⟩
    · exact ⟨rule, .inr ⟨own, rfl⟩, granted⟩

end RuleStore

namespace RuleFile

/-- The text that lines make when line feeds stand between them. -/
def textOf (lines : List String) : List Char :=
  ['\n'].intercalate (lines.map String.toList)

theorem linesOf_textOf {lines : List String} (nonempty : lines ≠ [])
    (endless : ∀ line ∈ lines, ∀ c ∈ line.toList, Text.isLineEnd c = false) :
    linesOf (textOf lines) = lines := by
  have pieces : Text.lines (textOf lines) = lines.map String.toList := by
    apply Text.lines_intercalate
    · simpa using nonempty
    · intro piece member
      obtain ⟨line, found, rfl⟩ := List.mem_map.mp member
      exact endless line found
  rw [linesOf, pieces]
  simp [Function.comp_def]

end RuleFile

namespace Authorizer

/-- Rules that are loaded from the text of a file decide if some of them are for anonymous
clients. -/
theorem exists_select_rules {strict : Bool} {files : FileTree} {name : Text.Loose}
    {text : List Char} {store : RuleStore} (named : name ≠ [])
    (reads : RuleFile.Reads files name text)
    (loaded : (RuleText.load strict (RuleFile.linesOf text)).outcome = .ok store)
    (held : store.isEmpty = false) :
    ∃ selection, select strict files (some name) = .ok selection ∧
      selection.authorizer = .rules store := by
  refine ⟨_, by simp only [select, named, if_false, reads.load]; rfl, ?_⟩
  simp [ofLoading, loaded, authorizer_ofStore, held]

/-- **One more rule.** Where the rules of a file decide, a line that states a rule can be put
between its lines, wherever it may be, and in any file with these lines the rules decide again. They
allow an operation on a topic to a user exactly when it was allowed before, or when the user owns
the section that is in force at the place of the line, and the rule grants the operation on a filter
that covers the topic. -/
theorem insertion_exact (strict : Bool) (files : FileTree) (path : Option Text.Loose)
    (selection : Selection) (store : RuleStore)
    (selected : select strict files path = .ok selection)
    (decides : selection.authorizer = .rules store) :
    ∃ name text, path = some name ∧ RuleFile.Reads files name text ∧
      ∀ (before after : List String) (line : String) (rule : Rule),
        RuleFile.linesOf text = before ++ after → RuleText.States line rule →
        (∃ text', RuleFile.linesOf text' = before ++ line :: after) ∧
        ∀ (edited : FileTree) (text' : List Char), RuleFile.Reads edited name text' →
          RuleFile.linesOf text' = before ++ line :: after →
          ∃ selection' store', select strict edited path = .ok selection' ∧
            selection'.authorizer = .rules store' ∧
            ∀ (covers : Matcher) (operation : Operation) (topic : String) (user : Option String),
              ∃ old new,
                selection.authorizer.answer covers (.access operation topic user) =
                  .ok (.decision old) ∧
                selection'.authorizer.answer covers (.access operation topic user) =
                  .ok (.decision new) ∧
                (new.allowed = true ↔ old.allowed = true ∨
                  (Directive.ownerAfter .anonymous (RuleText.directives before) = .ofUser user ∧
                    (rule.permission = operation.permission ∨ rule.permission = .readWrite) ∧
                    covers topic rule.filter = true)) := by
  obtain ⟨name, text, rfl, holds, loaded, full⟩ := select_rules selected decides
  refine ⟨name, text, rfl, (RuleFile.holdsText_iff_reads _ _ _).mp holds, ?_⟩
  intro before after line rule split states
  rw [split] at loaded
  obtain ⟨store', loaded', inserted⟩ := RuleText.exists_load_insert states loaded
  constructor
  · refine ⟨_, RuleFile.linesOf_textOf (by simp) fun found member => ?_⟩
    have old : found = line ∨ found ∈ RuleFile.linesOf text := by
      rw [split]
      simp only [List.mem_append, List.mem_cons] at member ⊢
      tauto
    rcases old with rfl | old
    · exact states.endless
    · exact RuleFile.endless_of_mem_linesOf old
  · intro edited text' reads' lines'
    -- Some rule is for anonymous clients already, and no rule is lost.
    have full' : store'.isEmpty = false := by
      simp only [RuleStore.isEmpty, List.isEmpty_eq_false_iff] at full ⊢
      obtain ⟨other, held⟩ := List.exists_mem_of_ne_nil _ full
      exact List.ne_nil_of_mem ((inserted .anonymous other).mpr (.inl held))
    have named : name ≠ [] := by
      rintro rfl
      cases selected
      cases decides
    rw [← lines'] at loaded'
    obtain ⟨selection', selected', decides'⟩ := exists_select_rules named reads' loaded' full'
    refine ⟨selection', store', selected', decides', fun covers operation topic user => ?_⟩
    rw [decides, decides']
    exact ⟨store.decision covers operation topic (.ofUser user),
      store'.decision covers operation topic (.ofUser user), rfl, rfl,
      RuleStore.decision_allowed_of_insert inserted covers operation topic (.ofUser user)⟩

/-- In strict loading, an indented line with capitals behind the line that enters the section of a
user. -/
theorem insertion_exact_user_section :
    let text := "topic read a\nuser bob\ntopic b".toList
    let text' := "topic read a\nuser bob\n\tTopic WRITE  c\ntopic b".toList
    let holding (text : List Char) : FileTree :=
      FileTree.writeFile {} (.ofText "rules") (Text.Utf8.encode text)
    ∃ selection store selection' store',
      select true (holding text) (some "rules") = .ok selection ∧
      selection.authorizer = .rules store ∧
      select true (holding text') (some "rules") = .ok selection' ∧
      selection'.authorizer = .rules store' ∧
      ∃ new, selection'.authorizer.answer Topic.covers (.access .write "c" (some "bob")) =
        .ok (.decision new) ∧ new.allowed = true := by
  intro text text' holding
  have reads : RuleFile.Reads (holding text) "rules" text := rfl
  have reads' : RuleFile.Reads (holding text') "rules" text' := rfl
  have lines : RuleFile.linesOf text = ["topic read a", "user bob"] ++ ["topic b"] := by
    decide +kernel
  have lines' : RuleFile.linesOf text' =
      ["topic read a", "user bob"] ++ "\tTopic WRITE  c" :: ["topic b"] := by
    decide +kernel
  have states : RuleText.States "\tTopic WRITE  c" ⟨"c", .write⟩ :=
    ⟨Text.forall_of_any (by decide), ['\t'], "Topic WRITE  c", rfl, by simp [Text.isIndent],
      by decide +kernel⟩
  have selected : select true (holding text) (some "rules") = .ok (ofLoading "rules"
      (RuleFile.loadBytes true (.ofText "rules") (Text.Utf8.encode text))) := rfl
  have decides : (ofLoading "rules" (RuleFile.loadBytes true (.ofText "rules")
      (Text.Utf8.encode text))).authorizer =
        .rules ⟨[⟨"a", .read⟩], [("bob", [⟨"b", .readWrite⟩])]⟩ := by
    decide +kernel
  obtain ⟨name, found, named, read, effect⟩ :=
    insertion_exact true (holding text) (some "rules") _ _ selected decides
  cases named
  cases read.unique reads
  obtain ⟨-, compared⟩ := effect _ _ _ _ lines states
  obtain ⟨selection', store', selected', decides', answers⟩ :=
    compared (holding text') text' reads' lines'
  obtain ⟨old, new, -, answer, allowed⟩ := answers Topic.covers .write "c" (some "bob")
  refine ⟨_, _, selection', store', selected, decides, selected', decides', new, answer, ?_⟩
  exact allowed.mpr (.inr ⟨by decide +kernel, .inl rfl, by decide +kernel⟩)

end Authorizer
end TopicAccess
