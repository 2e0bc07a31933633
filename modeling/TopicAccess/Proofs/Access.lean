import TopicAccess.Authorizer
import TopicAccess.Proofs.FirstMatch
import TopicAccess.Proofs.Loading

/-!
# What a rule file allows

The main result, `Authorizer.access_exact`, reads a decision off the lines of the file. It joins the
inversion of the choice of an authorizer (`Authorizer.select_rules`), the rules that loading gives
and the search for a rule that covers the topic (`Decision.search_allowed_iff`).
-/
namespace TopicAccess

/-- A section decides for a user when the last `user` directive names that user, and the opening
decides for whoever gives no name. -/
theorem Directive.ownerAfter_eq_ofUser_iff (directives : List Directive) (user : Option String) :
    ownerAfter .anonymous directives = .ofUser user ↔
      lastUser directives = user.filter (· ≠ "") := by
  unfold ownerAfter
  cases user with
  | none => cases lastUser directives <;> simp [Principal.ofUser]
  | some name =>
    by_cases empty : name = ""
    · cases lastUser directives <;> simp [Principal.ofUser, Option.filter, empty]
    · cases lastUser directives <;> simp [Principal.ofUser, Option.filter, empty]

namespace RuleFile

/-- The file that a name leads to can be read and is the UTF-8 form of a text. -/
def HoldsText (files : FileTree) (name : Text.Loose) (text : List Char) : Prop :=
  ∃ bytes, files.read (.ofText name) = .ok (.ok bytes) ∧ Text.Utf8.decode bytes = .ok text

/-- A line of a file holds no character that ends a line. -/
theorem endless_of_mem_linesOf {text : List Char} {line : String} (member : line ∈ linesOf text) :
    ∀ c ∈ line.toList, Text.isLineEnd c = false := by
  obtain ⟨chars, found, rfl⟩ := List.mem_map.mp member
  simpa using Text.isLineEnd_of_mem_lines found

/-- The rules of a file are those of its lines, each a rule of the principal in whose section the
lines before it end. -/
theorem mem_rulesFor_linesOf_iff (principal : Principal) (text : List Char) (rule : Rule) :
    rule ∈ Directive.rulesFor principal .anonymous (RuleText.directives (linesOf text)) ↔
      ∃ before line after content, linesOf text = before ++ line :: after ∧
        RuleText.Says line.toList content ∧
        Directive.ofLine (String.ofList content) = .ok (.grant rule) ∧
        Directive.ownerAfter .anonymous (RuleText.directives before) = principal := by
  -- The lines of a file hold no line ends, so only their indentation is left out.
  have spoken : ∀ line ∈ linesOf text, ∀ content, RuleText.content? line.toList = some content ↔
      RuleText.Says line.toList content := by
    intro line member
    exact RuleText.content?_eq_some_iff (endless_of_mem_linesOf member)
  have inside : ∀ before line after, linesOf text = before ++ line :: after →
      line ∈ linesOf text := by
    intro before line after split
    rw [split]
    exact List.mem_append_right _ List.mem_cons_self
  simp only [RuleText.mem_rulesFor_directives_iff, RuleText.directive?_eq_some_iff]
  constructor
  · rintro ⟨before, line, after, split, ⟨content, stands, read⟩, owned⟩
    have said := (spoken line (inside before line after split) content).mp stands
    exact ⟨before, line, after, content, split, said, read, owned⟩
  · rintro ⟨before, line, after, content, split, said, read, owned⟩
    have stands := (spoken line (inside before line after split) content).mpr said
    exact ⟨before, line, after, split, ⟨content, stands, read⟩, owned⟩

end RuleFile

namespace Authorizer

/-- Rules decide only when they come from a file that holds text, by a load that succeeded, and some
of them are for anonymous clients. -/
theorem select_rules {strict : Bool} {files : FileTree} {path : Option Text.Loose}
    {selection : Selection} {store : RuleStore}
    (selected : select strict files path = .ok selection)
    (decides : selection.authorizer = .rules store) :
    ∃ name text, path = some name ∧ RuleFile.HoldsText files name text ∧
      (RuleText.load strict (RuleFile.linesOf text)).outcome = .ok store ∧
      store.isEmpty = false := by
  -- Wherever the choice falls on another authorizer, `decides` is refuted.
  cases path with
  | none =>
    cases selected
    cases decides
  | some name =>
    simp only [select] at selected
    split at selected
    · cases selected
      cases decides
    · cases read : files.read (.ofText name) with
      | error fault => simp [RuleFile.load, read, Except.map] at selected
      | ok result =>
        cases result with
        | error fault =>
          simp only [RuleFile.load, read, Except.map, Except.ok.injEq] at selected
          subst selected
          cases decides
        | ok bytes =>
          simp only [RuleFile.load, read, Except.map, Except.ok.injEq] at selected
          subst selected
          cases decoded : Text.Utf8.decode bytes with
          | error fault => simp [ofLoading, RuleFile.loadBytes, decoded] at decides
          | ok text =>
            refine ⟨name, text, rfl, ⟨bytes, read, decoded⟩, ?_⟩
            cases loaded : (RuleText.load strict (RuleFile.linesOf text)).outcome with
            | error problem => simp [ofLoading, RuleFile.loadBytes, decoded, loaded] at decides
            | ok found =>
              simp only [ofLoading, RuleFile.loadBytes, decoded, RuleText.Loading.outcome_noting,
                loaded, ofStore] at decides
              split at decides
              · split at decides <;> cases decides
              next full =>
                cases decides
                exact ⟨rfl, by simpa using full⟩

/-- **Meaning of a rule file.** Where the rules of a file decide, an operation on a topic is allowed
to a user exactly when some line of the file that is neither blank nor a comment states a rule that
grants the operation on a filter covering the topic, and the last `user` directive before that line
names the user; for a user without a name there must be no `user` directive before the line. -/
theorem access_exact (strict : Bool) (files : FileTree) (path : Option Text.Loose)
    (selection : Selection) (store : RuleStore)
    (selected : select strict files path = .ok selection)
    (decides : selection.authorizer = .rules store) :
    ∃ name text, path = some name ∧ RuleFile.HoldsText files name text ∧
      ∀ (covers : Matcher) (operation : Operation) (topic : String) (user : Option String),
        (∃ asked, selection.authorizer.answer covers (.access operation topic user) =
          .ok (.decision ⟨true, asked⟩)) ↔
        ∃ before line after content rule,
          RuleFile.linesOf text = before ++ line :: after ∧
          RuleText.Says line.toList content ∧
          Directive.ofLine (String.ofList content) = .ok (.grant rule) ∧
          (rule.permission = operation.permission ∨ rule.permission = .readWrite) ∧
          covers topic rule.filter = true ∧
          Directive.lastUser (RuleText.directives before) = user.filter (· ≠ "") := by
  obtain ⟨name, text, named, holds, loaded, _⟩ := select_rules selected decides
  refine ⟨name, text, named, holds, ?_⟩
  intro covers operation topic user
  obtain ⟨collector, collected, rfl⟩ := RuleText.collected_of_load_ok loaded
  -- Of the answer only the verdict counts, not the filters that were compared on the way.
  have asked : (∃ asked, selection.authorizer.answer covers (.access operation topic user) =
      .ok (.decision ⟨true, asked⟩)) ↔
      (collector.store.decision covers operation topic (.ofUser user)).allowed = true := by
    rw [decides]
    simp only [answer, RuleStore.answer, Except.ok.injEq, Answer.decision.injEq]
    constructor
    · rintro ⟨asked, same⟩
      rw [same]
    · intro allowed
      exact ⟨_, by rw [← allowed]⟩
  rw [asked, RuleStore.decision_eq, collected.rules, Decision.search_allowed_iff]
  simp only [RuleFile.mem_rulesFor_linesOf_iff, Permission.grants_iff,
    Directive.ownerAfter_eq_ofUser_iff]
  constructor
  · rintro ⟨rule, ⟨before, line, after, content, split, said, read, owned⟩, granted, covered⟩
    exact ⟨before, line, after, content, rule, split, said, read, granted, covered, owned⟩
  · rintro ⟨before, line, after, content, rule, split, said, read, granted, covered, owned⟩
    exact ⟨rule, ⟨before, line, after, content, split, said, read, owned⟩, granted, covered⟩

/-- An indented line in the section of a user, behind a comment and a line that is rejected. -/
theorem access_exact_user_section :
    let text := "topic read a\nuser bob\n# b\nnonsense\n\ttopic write b\n"
    let files : FileTree := FileTree.writeFile {} (.ofText "rules") (Text.Utf8.encode text.toList)
    ∃ selection store, select false files (some "rules") = .ok selection ∧
      selection.authorizer = .rules store ∧
      ∃ asked, selection.authorizer.answer Topic.covers (.access .write "b" (some "bob")) =
        .ok (.decision ⟨true, asked⟩) := by
  intro text files
  have selected : select false files (some "rules") = .ok (ofLoading "rules"
      (RuleFile.loadBytes false (.ofText "rules") (Text.Utf8.encode text.toList))) := rfl
  have decides : (ofLoading "rules" (RuleFile.loadBytes false (.ofText "rules")
      (Text.Utf8.encode text.toList))).authorizer =
        .rules ⟨[⟨"a", .read⟩], [("bob", [⟨"b", .write⟩])]⟩ := by
    decide +kernel
  refine ⟨_, _, selected, decides, ?_⟩
  obtain ⟨name, found, named, ⟨bytes, read, decoded⟩, meaning⟩ :=
    access_exact false files (some "rules") _ _ selected decides
  cases named
  cases read
  have same : Text.Utf8.decode (Text.Utf8.encode text.toList) = .ok text.toList := by
    decide +kernel
  cases decoded.symm.trans same
  have lines : RuleFile.linesOf text.toList =
      ["topic read a", "user bob", "# b", "nonsense"] ++ "\ttopic write b" :: [""] := by
    decide +kernel
  refine (meaning _ _ _ _).mpr ⟨_, _, _, "topic write b".toList, ⟨"b", .write⟩, lines, ?_, rfl,
    .inl rfl, rfl, rfl⟩
  exact ⟨⟨['\t'], rfl, by simp [Text.isIndent]⟩, 't', rfl, rfl, by decide⟩

end Authorizer
end TopicAccess
