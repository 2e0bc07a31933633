import Mathlib.Data.List.Induction
import TopicAccess.Proofs.Selection

/-!
# The line that a rule comes from

`user` lines divide a text, and the nearest one before a `topic` line says whose rule the line
states. It makes a difference whether a `user` line without a name counts. Such a line is rejected,
and a line that is rejected changes nothing, so the rules behind it go to the section that was
entered before it.

`DeclaredAt` attributes a rule to a line for any class of dividing lines. The main result,
`load_attributed`, takes the `user` lines that are not rejected. With all lines that begin with the
keyword the attribution fails for lenient loading (`load_not_attributed`), and holds for strict
loading (`attributed_of_strict`).
-/
namespace TopicAccess

namespace Directive

theorem ruleOf_ne_missingUser (line : List Char) (operands : List Text.Word) :
    ruleOf line operands ≠ .error .missingUser := by
  unfold ruleOf
  split
  · simp
  · simp
  · split <;> simp

/-- A line lacks the name of a user only behind the keyword `user`. -/
theorem ofChars_eq_missingUser {line : List Char} (read : ofChars line = .error .missingUser) :
    ∃ word rest, line = word ++ rest ∧ Spells .user word ∧ Text.EndsWord rest := by
  by_cases starts : Text.StartsWord line
  · obtain ⟨word, rest, rfl, isWord, ends⟩ := Text.exists_word_split starts
    cases found : Keyword.ofWord? word with
    | none => simp [ofChars, wordsOf_word isWord ends, found] at read
    | some keyword =>
      have known : Spells keyword word := ⟨isWord, (Keyword.ofWord?_eq_some_iff _ _).mp found⟩
      rw [ofChars_spells known ends] at read
      cases keyword with
      | topic =>
        cases result : ruleOf (word ++ rest) (Text.wordsFrom word.length rest) with
        | ok rule => simp [ofOperands, result, Except.map] at read
        | error fault =>
          have same : fault = .missingUser := by simpa [ofOperands, result, Except.map] using read
          exact absurd (same ▸ result) (ruleOf_ne_missingUser _ _)
      | user => exact ⟨word, rest, rfl, known, ends⟩
      | pattern => cases read
  · rw [ofChars, wordsOf_endsWord ((Text.not_startsWord_iff line).mp starts)] at read
    cases read

end Directive

namespace RuleText

open Directive (rulesFor ownerAfter)

/-! ### `user` lines -/

/-- A line that is neither blank nor a comment and whose first word is `user`, up to case, whether
or not a name follows. -/
def BeginsWithUser (line : String) : Prop :=
  ∃ word rest, Tells line.toList (word ++ rest) ∧ Spells .user word ∧ Text.EndsWord rest

/-- A line with the keyword `user` enters a section, or it is rejected because it has no name. -/
theorem beginsWithUser_iff (line : String) : BeginsWithUser line ↔
    (∃ user, directive? line = some (.enter user)) ∨
      ∃ content, rejection? line = some (content, .missingUser) := by
  constructor
  · rintro ⟨word, rest, tells, known, ends⟩
    have said := (content?_eq_some_iff_tells _ _).mpr tells
    have read := Directive.ofChars_spells known ends
    -- The words behind the keyword decide which of the two it is.
    cases operands : Text.wordsFrom word.length rest with
    | nil =>
      rw [operands] at read
      refine .inr ⟨String.ofList (word ++ rest), ?_⟩
      rw [rejection?_eq_some_iff]
      exact ⟨by simpa using said, by simpa [Directive.ofLine, Directive.ofOperands] using read⟩
    | cons name others =>
      rw [operands] at read
      refine .inl ⟨String.ofList name.text, ?_⟩
      rw [directive?_eq_some_iff]
      exact ⟨word ++ rest, said, by simpa [Directive.ofLine, Directive.ofOperands] using read⟩
  · rintro (⟨user, enters⟩ | ⟨content, rejected⟩)
    · obtain ⟨content, said, read⟩ := (directive?_eq_some_iff _ _).mp enters
      obtain ⟨form, written⟩ := (Directive.ofChars_eq_ok_iff content _).mp
        (by simpa [Directive.ofLine] using read)
      cases written with
      | @user keyword gap name rest known apart isName ends =>
        exact ⟨keyword, gap ++ (name ++ rest), (content?_eq_some_iff_tells _ _).mp said, known,
          apart.endsWord_append _⟩
    · obtain ⟨said, read⟩ := (rejection?_eq_some_iff _ _ _).mp rejected
      obtain ⟨word, rest, split, known, ends⟩ := Directive.ofChars_eq_missingUser read
      rw [split] at said
      exact ⟨word, rest, (content?_eq_some_iff_tells _ _).mp said, known, ends⟩

/-- A `user` line that is not rejected. -/
def EntersSection (line : String) : Prop := BeginsWithUser line ∧ ¬Rejected line

theorem entersSection_iff (line : String) :
    EntersSection line ↔ ∃ user, directive? line = some (.enter user) := by
  rw [EntersSection, beginsWithUser_iff]
  constructor
  · rintro ⟨enters | ⟨content, rejected⟩, accepted⟩
    · exact enters
    · simp [rejected_iff, rejected] at accepted
  · rintro ⟨user, enters⟩
    exact ⟨.inl ⟨user, enters⟩, not_rejected_of_directive? enters⟩

/-! ### Attribution -/

/-- To whose section lines lead when the lines of a class divide them: the last line of the class
names the principal, and where there is none the principal is an anonymous client. -/
inductive LeadsTo (divides : String → Prop) (lines : List String) : Principal → Prop
  | opening (undivided : ∀ line ∈ lines, ¬divides line) : LeadsTo divides lines .anonymous
  | named {before after : List String} {line user : String}
      (split : lines = before ++ line :: after) (names : Means line (.enter user))
      (undivided : ∀ later ∈ after, ¬divides later) :
      LeadsTo divides lines (.named user)

/-- The line at a place states a rule, and the lines before it lead to a principal. -/
structure DeclaredAt (divides : String → Prop) (lines : List String) (principal : Principal)
    (place : Nat) (rule : Rule) : Prop where
  states : ∃ line, lines[place]? = some line ∧ Means line (.grant rule)
  leads : LeadsTo divides (lines.take place) principal

/-- Each of the rules of a principal comes from a line of its own, in the order of the lines. -/
def Attributed (divides : String → Prop) (lines : List String) (principal : Principal)
    (rules : List Rule) : Prop :=
  ∃ places : List Nat, places.Pairwise (· < ·) ∧
    List.Forall₂ (DeclaredAt divides lines principal) places rules

theorem LeadsTo.concat {divides : String → Prop} {lines : List String} {principal : Principal}
    (leads : LeadsTo divides lines principal) {line : String} (undivided : ¬divides line) :
    LeadsTo divides (lines ++ [line]) principal := by
  have extended : ∀ {part : List String}, (∀ other ∈ part, ¬divides other) →
      ∀ other ∈ part ++ [line], ¬divides other := by
    intro part free other member
    rcases List.mem_append.mp member with old | new
    · exact free other old
    · rwa [List.mem_singleton.mp new]
  cases leads with
  | opening free => exact .opening (extended free)
  | named split names free =>
    exact .named (by rw [split, List.append_assoc, List.cons_append]) names (extended free)

theorem DeclaredAt.place_lt {divides : String → Prop} {lines : List String} {principal : Principal}
    {place : Nat} {rule : Rule} (declared : DeclaredAt divides lines principal place rule) :
    place < lines.length := by
  obtain ⟨line, found, _⟩ := declared.states
  exact (List.getElem?_eq_some_iff.mp found).1

theorem DeclaredAt.append {divides : String → Prop} {lines : List String} {principal : Principal}
    {place : Nat} {rule : Rule} (declared : DeclaredAt divides lines principal place rule)
    (more : List String) : DeclaredAt divides (lines ++ more) principal place rule := by
  have bound := declared.place_lt
  refine ⟨?_, ?_⟩
  · rw [List.getElem?_append_left bound]
    exact declared.states
  · rw [List.take_append_of_le_length (Nat.le_of_lt bound)]
    exact declared.leads

/-- Lines that follow take nothing from what is attributed. -/
theorem Attributed.concat {divides : String → Prop} {lines : List String} {principal : Principal}
    {rules : List Rule} (attributed : Attributed divides lines principal rules) (line : String) :
    Attributed divides (lines ++ [line]) principal rules := by
  obtain ⟨places, ascending, declared⟩ := attributed
  exact ⟨places, ascending, declared.imp fun _ _ here => here.append [line]⟩

/-- A line that states a rule makes that rule the last one that is attributed. -/
theorem Attributed.concat_rule {divides : String → Prop} {lines : List String}
    {principal : Principal} {rules : List Rule}
    (attributed : Attributed divides lines principal rules) {line : String} {rule : Rule}
    (states : Means line (.grant rule)) (leads : LeadsTo divides lines principal) :
    Attributed divides (lines ++ [line]) principal (rules ++ [rule]) := by
  obtain ⟨places, ascending, declared⟩ := attributed
  have here : DeclaredAt divides (lines ++ [line]) principal lines.length rule := by
    refine ⟨⟨line, by simp, states⟩, ?_⟩
    rwa [List.take_left]
  -- The new line is the last one, so its place is behind all others.
  have before := ((List.forall₂_and_left places rules).mp
    (declared.imp fun _ _ placed => ⟨placed.place_lt, placed⟩)).1
  refine ⟨places ++ [lines.length], ?_,
    List.rel_append (declared.imp fun _ _ placed => placed.append [line]) (.cons here .nil)⟩
  refine List.pairwise_append.mpr ⟨ascending, List.pairwise_singleton _ _, ?_⟩
  intro place member last found
  rw [List.mem_singleton.mp found]
  exact before place member

/-- Only what divides the lines themselves counts. -/
theorem LeadsTo.congr {divides divides' : String → Prop} {lines : List String}
    {principal : Principal} (leads : LeadsTo divides lines principal)
    (same : ∀ line ∈ lines, divides line ↔ divides' line) : LeadsTo divides' lines principal := by
  cases leads with
  | opening undivided =>
    exact .opening fun line member => mt (same line member).mpr (undivided line member)
  | named split names undivided =>
    refine .named split names ?_
    intro later member
    have inside : later ∈ lines := by simp [split, member]
    exact mt (same later inside).mpr (undivided later member)

theorem Attributed.congr {divides divides' : String → Prop} {lines : List String}
    {principal : Principal} {rules : List Rule}
    (attributed : Attributed divides lines principal rules)
    (same : ∀ line ∈ lines, divides line ↔ divides' line) :
    Attributed divides' lines principal rules := by
  obtain ⟨places, ascending, declared⟩ := attributed
  refine ⟨places, ascending, declared.imp fun place rule here => ⟨here.states, ?_⟩⟩
  exact here.leads.congr fun line member => same line (List.mem_of_mem_take member)

/-- Behind a dividing line that names nobody the lines lead to no principal. -/
theorem not_leadsTo_concat {divides : String → Prop} {line : String} (divided : divides line)
    (nameless : ∀ user, ¬Means line (.enter user)) (lines : List String) (principal : Principal) :
    ¬LeadsTo divides (lines ++ [line]) principal := by
  intro leads
  cases leads with
  | opening undivided => exact undivided line (by simp) divided
  -- The line that names a principal would be the last one, or the last one would not divide.
  | @named before after divider user split names undivided =>
    rcases List.eq_nil_or_concat after with rfl | ⟨rest, last, rfl⟩
    · obtain ⟨_, rfl⟩ := List.append_singleton_inj.mp split
      exact nameless user names
    · rw [List.concat_eq_append, ← List.cons_append, ← List.append_assoc] at split
      obtain ⟨_, rfl⟩ := List.append_singleton_inj.mp split
      exact undivided line (by simp) divided

/-! ### Lines that are not rejected -/

theorem directives_concat (lines : List String) (line : String) :
    directives (lines ++ [line]) = directives lines ++ (directive? line).toList := by
  rw [directives_append, directives_cons]
  simp [directives]

theorem user?_eq_none_of_not_entersSection {lines : List String}
    (undivided : ∀ line ∈ lines, ¬EntersSection line) :
    ∀ directive ∈ directives lines, directive.user? = none := by
  intro directive member
  obtain ⟨line, found, said⟩ := List.mem_filterMap.mp member
  cases directive with
  | enter user => exact absurd ((entersSection_iff line).mpr ⟨user, said⟩) (undivided line found)
  | grant | reserved => rfl

/-- Lines lead to the principal whose section the last `user` line that is not rejected enters. -/
theorem leadsTo_iff (lines : List String) (principal : Principal) :
    LeadsTo EntersSection lines principal ↔
      ownerAfter .anonymous (directives lines) = principal := by
  constructor
  · intro leads
    cases leads with
    | opening undivided =>
      exact Directive.ownerAfter_of_forall_user?_eq_none
        (user?_eq_none_of_not_entersSection undivided) .anonymous
    | named split names undivided =>
      rw [split, directives_append, directives_cons,
        (directive?_eq_some_iff_means _ _).mpr names, Directive.ownerAfter_append,
        Directive.ownerAfter_append]
      exact Directive.ownerAfter_of_forall_user?_eq_none
        (user?_eq_none_of_not_entersSection undivided) _
  · rintro rfl
    induction lines using List.reverseRecOn with
    | nil => exact .opening (by simp)
    | append_singleton lines line ih =>
      rw [directives_concat, Directive.ownerAfter_append]
      by_cases enters : EntersSection line
      · obtain ⟨user, said⟩ := (entersSection_iff line).mp enters
        rw [said]
        exact .named rfl ((directive?_eq_some_iff_means _ _).mp said) (by simp)
      · have silent : ∀ directive ∈ (directive? line).toList, directive.user? = none := by
          have alone : ∀ other ∈ [line], ¬EntersSection other := by simpa using enters
          simpa [directives_cons, directives] using user?_eq_none_of_not_entersSection alone
        rw [Directive.ownerAfter_of_forall_user?_eq_none silent]
        exact ih.concat enters

theorem rulesFor_toList (principal owner : Principal) (directive : Option Directive) :
    rulesFor principal owner directive.toList =
      if owner = principal then (directive.bind Directive.rule?).toList else [] := by
  cases directive with
  | none => simp [rulesFor]
  | some directive => simp

theorem bind_rule?_eq_some_iff (line : String) (rule : Rule) :
    (directive? line).bind Directive.rule? = some rule ↔ Means line (.grant rule) := by
  rw [← directive?_eq_some_iff_means, Option.bind_eq_some_iff]
  constructor
  · rintro ⟨directive, said, states⟩
    cases directive with
    | grant =>
      cases states
      exact said
    | enter | reserved => cases states
  · intro said
    exact ⟨_, said, rfl⟩

/-- The rules that lenient loading gives a principal are attributed one by one. -/
theorem attributed_rulesFor (principal : Principal) (lines : List String) :
    Attributed EntersSection lines principal
      (rulesFor principal .anonymous (directives lines)) := by
  induction lines using List.reverseRecOn with
  | nil => exact ⟨[], .nil, .nil⟩
  | append_singleton lines line ih =>
    rw [directives_concat, Directive.rulesFor_append, rulesFor_toList]
    -- There is one more rule only where the line states one in the section of the principal.
    by_cases owned : ownerAfter .anonymous (directives lines) = principal
    · cases states : (directive? line).bind Directive.rule? with
      | none => simpa [owned] using ih.concat line
      | some rule =>
        have means := (bind_rule?_eq_some_iff line rule).mp states
        simpa [owned] using ih.concat_rule means ((leadsTo_iff lines principal).mpr owned)
    · simpa [owned] using ih.concat line

theorem mem_rulesFor_iff_declaredAt (principal : Principal) (lines : List String) (rule : Rule) :
    rule ∈ rulesFor principal .anonymous (directives lines) ↔
      ∃ place, DeclaredAt EntersSection lines principal place rule := by
  rw [mem_rulesFor_directives_iff]
  constructor
  · rintro ⟨before, line, after, rfl, said, owned⟩
    refine ⟨before.length, ⟨line, by simp, (directive?_eq_some_iff_means _ _).mp said⟩, ?_⟩
    rw [List.take_left]
    exact (leadsTo_iff before principal).mpr owned
  · rintro ⟨place, ⟨line, found, states⟩, leads⟩
    obtain ⟨bound, here⟩ := List.getElem?_eq_some_iff.mp found
    refine ⟨lines.take place, line, lines.drop (place + 1), ?_,
      (directive?_eq_some_iff_means _ _).mpr states, (leadsTo_iff _ _).mp leads⟩
    rw [← here, ← List.drop_eq_getElem_cons bound, List.take_append_drop]

/-- **Attribution.** Lenient loading attributes each rule to a line of its own, and the nearest
`user` line before it that is not rejected names the principal of the rule; for anonymous clients
there is none. No line that states a rule is passed over. -/
theorem load_attributed (lines : List String) :
    ∃ store, (load false lines).outcome = .ok store ∧ ∀ principal,
      Attributed EntersSection lines principal (store.rulesOf principal) ∧
      ∀ rule, rule ∈ store.rulesOf principal ↔
        ∃ place, DeclaredAt EntersSection lines principal place rule := by
  have fresh : Collector.empty.isSealed = false := rfl
  have lenient := loadFrom_lenient 1 fresh lines
  refine ⟨_, lenient, ?_⟩
  intro principal
  obtain ⟨collector, collected, same⟩ := collected_of_load_ok lenient
  rw [← same, collected.rules]
  exact ⟨attributed_rulesFor principal lines, mem_rulesFor_iff_declaredAt principal lines⟩

/-- Strict loading succeeds only where every `user` line has a name, so there the nearest line that
begins with the keyword names the principal. -/
theorem attributed_of_strict {lines : List String} {store : RuleStore}
    (loaded : (load true lines).outcome = .ok store) (principal : Principal) :
    Attributed BeginsWithUser lines principal (store.rulesOf principal) := by
  have accepted : ∀ line ∈ lines, ¬Rejected line := by
    intro line member rejected
    obtain ⟨problem, failed⟩ := (exists_problem_iff true lines).mpr ⟨rfl, line, member, rejected⟩
    cases failed.symm.trans loaded
  obtain ⟨collector, collected, rfl⟩ := collected_of_load_ok loaded
  rw [collected.rules]
  exact (attributed_rulesFor principal lines).congr fun line member =>
    ⟨And.left, fun begins => ⟨begins, accepted line member⟩⟩

/-- A `user` line without a name, at the beginning and again in the section of a user. The section
before it stays in force, and a rule of either principal comes from no line whose nearest `user`
line is one for that principal. -/
theorem load_not_attributed :
    let lines := ["user", "topic a", "user bob", "user", "topic b"]
    ∃ store, (load false lines).outcome = .ok store ∧
      (∃ rule ∈ store.rulesOf .anonymous,
        ¬∃ place, DeclaredAt BeginsWithUser lines .anonymous place rule) ∧
      ∃ rule ∈ store.rulesOf (.named "bob"),
        ¬∃ place, DeclaredAt BeginsWithUser lines (.named "bob") place rule := by
  intro lines
  have store : (Collector.empty.applyAll (directives lines)).store =
      ⟨[⟨"a", .readWrite⟩], [("bob", [⟨"b", .readWrite⟩])]⟩ := by
    decide +kernel
  have begins : BeginsWithUser "user" :=
    (beginsWithUser_iff "user").mpr (.inr ⟨"user", by decide +kernel⟩)
  have silent : directive? "user" = none := by decide +kernel
  have enters : directive? "user bob" = some (.enter "bob") := by decide +kernel
  have nameless : ∀ user, ¬Means "user" (.enter user) := by
    intro user means
    cases silent.symm.trans ((directive?_eq_some_iff_means _ _).mpr means)
  -- Only two lines state a rule, and each of them stands behind a line without a name.
  have nowhere : ∀ principal place rule, ¬DeclaredAt BeginsWithUser lines principal place rule := by
    rintro principal place rule ⟨⟨line, found, states⟩, leads⟩
    have said := (directive?_eq_some_iff_means _ _).mpr states
    match place with
    | 0 | 3 =>
      cases found
      cases silent.symm.trans said
    | 1 => exact not_leadsTo_concat begins nameless [] principal leads
    | 2 =>
      cases found
      cases enters.symm.trans said
    | 4 => exact not_leadsTo_concat begins nameless (lines.take 3) principal leads
    | _ + 5 => simp [lines] at found
  rw [load, loadFrom_lenient 1 rfl, store]
  refine ⟨_, rfl, ⟨⟨"a", .readWrite⟩, by decide, ?_⟩, ⟨⟨"b", .readWrite⟩, by decide, ?_⟩⟩
  · rintro ⟨place, declared⟩
    exact nowhere _ place _ declared
  · rintro ⟨place, declared⟩
    exact nowhere _ place _ declared

end RuleText
end TopicAccess
