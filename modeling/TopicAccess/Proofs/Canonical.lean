import TopicAccess.Proofs.Selection
import TopicAccess.Proofs.WellFormed

/-!
# The canonical text of a store

A store can be written down: the rules for anonymous clients first, then the section of each user,
one directive in each line. Written so, a directive is read back (`Directive.directive?_line`), the
lines of the text are those that were written (`RuleFile.linesOf_canonicalText`), and their
directives make the same store of an empty collector (`RuleStore.applyAll_declarations`). All of
this rests on what a store can hold once it has come from a file. The main result is
`RuleFile.load_canonical`.
-/
namespace TopicAccess

open Text

namespace Directive

/-- A directive as a line of rule text. -/
def line : Directive → String
  | grant rule => "topic " ++ rule.permission.name ++ " " ++ rule.filter
  | enter user => "user " ++ user
  | reserved => "pattern"

end Directive

namespace RuleStore

/-- The directives that declare what a store holds, the names in their order. -/
def declarations (store : RuleStore) : List Directive :=
  store.anonymous.map .grant ++
    store.userNames.flatMap fun name => .enter name :: (store.rulesUnder name).map .grant

/-- The text with one line for each declaration. -/
def canonicalText (store : RuleStore) : List Char :=
  store.declarations.flatMap fun directive => directive.line.toList ++ ['\n']

end RuleStore

/-- A rule that fits into a line behind other words: the filter begins with a character that is not
blank, and it has no character that ends a line. -/
structure Rule.FitsLine (rule : Rule) : Prop where
  begins : StartsWord rule.filter.toList
  endless : ∀ c ∈ rule.filter.toList, isLineEnd c = false

namespace Directive

/-! ### Lines that are read back -/

theorem capitals_name (permission : Permission) :
    Text.upper permission.name.toList = permission.capitals := by
  cases permission <;> decide

theorem isSeparator_space : IsSeparator [' '] :=
  ⟨by simp, by simp [IsGap, isBlank, isIndent]⟩

theorem spells_text (keyword : Keyword) : Spells keyword keyword.text where
  isWord := by cases keyword <;> exact ⟨by decide, forall_of_any (by decide)⟩
  lower := by cases keyword <;> decide

theorem toList_line_grant (rule : Rule) : (grant rule).line.toList = Keyword.topic.text ++
    ([' '] ++ (rule.permission.name.toList ++ ([' '] ++ rule.filter.toList))) := by
  simp [line, Keyword.text]

theorem toList_line_enter (user : String) :
    (enter user).line.toList = Keyword.user.text ++ ([' '] ++ (user.toList ++ [])) := by
  simp [line, Keyword.text]

theorem toList_line_reserved : reserved.line.toList = Keyword.pattern.text ++ [] := by
  simp [line, Keyword.text]

/-- What fits into a line is written in one of the ways to write it. -/
theorem written_line {directive : Directive} (fits : directive.Fits Rule.FitsLine) :
    ∃ form, Written form directive.line.toList directive := by
  have ends : EndsWord [] := by simp [EndsWord]
  cases directive with
  | grant rule =>
    have isToken : IsWord rule.permission.name.toList := by
      cases rule.permission <;> exact ⟨by decide, forall_of_any (by decide)⟩
    have written := Written.permittedTopic (spells_text .topic) isSeparator_space isToken
      (capitals_name rule.permission) isSeparator_space (fits.rule rule rfl).begins
    rw [String.ofList_toList] at written
    rw [toList_line_grant]
    exact ⟨_, written⟩
  | enter user =>
    have written := Written.user (spells_text .user) isSeparator_space (fits.name user rfl) ends
    rw [String.ofList_toList] at written
    rw [toList_line_enter]
    exact ⟨_, written⟩
  | reserved =>
    rw [toList_line_reserved]
    exact ⟨_, .pattern (spells_text .pattern) ends⟩

/-- A directive takes up a single line. -/
theorem isLineEnd_of_mem_line {directive : Directive} (fits : directive.Fits Rule.FitsLine) :
    ∀ c ∈ directive.line.toList, isLineEnd c = false := by
  cases directive with
  | grant rule =>
    have named : ∀ c ∈ rule.permission.name.toList, isLineEnd c = false := by
      cases rule.permission <;> exact forall_of_any (by decide)
    simp only [toList_line_grant, List.forall_mem_append]
    exact ⟨forall_of_any (by decide), forall_of_any (by decide), named,
      forall_of_any (by decide), (fits.rule rule rfl).endless⟩
  | enter user =>
    have solid : ∀ c ∈ user.toList, isLineEnd c = false := by
      intro c member
      have solid := (fits.name user rfl).solid c member
      simp only [isBlank, Bool.or_eq_false_iff] at solid
      exact solid.2
    simp only [toList_line_enter, List.forall_mem_append]
    exact ⟨forall_of_any (by decide), forall_of_any (by decide), solid, by simp⟩
  | reserved =>
    simp only [toList_line_reserved, List.forall_mem_append]
    exact ⟨forall_of_any (by decide), by simp⟩

/-- A directive that is written down is read back. -/
theorem directive?_line {directive : Directive} (fits : directive.Fits Rule.FitsLine) :
    RuleText.directive? directive.line = some directive := by
  obtain ⟨form, written⟩ := written_line fits
  exact RuleText.directive?_of_ofLine (isLineEnd_of_mem_line fits) (List.nil_append _).symm (by simp)
    (ofChars_written written)

end Directive

/-! ### The store that declarations make -/

namespace RuleStore

def addAll (store : RuleStore) (principal : Principal) (rules : List Rule) : RuleStore :=
  rules.foldl (fun store rule => store.add principal rule) store

theorem addAll_anonymous (store : RuleStore) (rules : List Rule) :
    store.addAll .anonymous rules = { store with anonymous := store.anonymous ++ rules } := by
  induction rules generalizing store with
  | nil => simp [addAll]
  | cons rule rest ih =>
    refine (ih (store.add .anonymous rule)).trans ?_
    simp [add]

/-- A rule for the name that stands last, or for a new name, goes to the end. -/
theorem appendFor_concat {name : String} {users : List (String × List Rule)}
    (new : name ∉ users.map (·.1)) (rules : List Rule) (rule : Rule) :
    appendFor name rule (users ++ [(name, rules)]) = users ++ [(name, rules ++ [rule])] := by
  induction users with
  | nil => simp [appendFor]
  | cons entry rest ih =>
    simp only [List.map_cons, List.mem_cons, not_or] at new
    rw [List.cons_append, appendFor, if_neg (Ne.symm new.1), ih new.2, List.cons_append]

theorem appendFor_of_not_mem {name : String} {users : List (String × List Rule)}
    (new : name ∉ users.map (·.1)) (rule : Rule) :
    appendFor name rule users = users ++ [(name, [rule])] := by
  induction users with
  | nil => rfl
  | cons entry rest ih =>
    simp only [List.map_cons, List.mem_cons, not_or] at new
    rw [appendFor, if_neg (Ne.symm new.1), ih new.2, List.cons_append]

/-- The rules of a new name become its entry, behind all others. -/
theorem addAll_named {store : RuleStore} {name : String} (new : name ∉ store.userNames)
    {rules : List Rule} (nonempty : rules ≠ []) : store.addAll (.named name) rules =
      { store with users := store.users ++ [(name, rules)] } := by
  obtain ⟨first, rest, rfl⟩ := List.exists_cons_of_ne_nil nonempty
  -- The first rule makes the entry, and the others lengthen it.
  have lengthened : ∀ held, addAll { store with users := store.users ++ [(name, held)] }
      (.named name) rest = { store with users := store.users ++ [(name, held ++ rest)] } := by
    induction rest with
    | nil => simp [addAll]
    | cons rule rest ih =>
      intro held
      have step : addAll { store with users := store.users ++ [(name, held)] } (.named name)
          (rule :: rest) = addAll { store with users := store.users ++ [(name, held ++ [rule])] }
            (.named name) rest := by
        rw [← appendFor_concat new]
        rfl
      rw [step, ih (by simp), List.append_assoc, List.singleton_append]
  have entered : store.addAll (.named name) (first :: rest) =
      addAll { store with users := store.users ++ [(name, [first])] } (.named name) rest := by
    rw [← appendFor_of_not_mem new]
    rfl
  rw [entered, lengthened, List.singleton_append]

end RuleStore

namespace Collector

open Directive (grant enter)

theorem applyAll_map_grant (collector : Collector) (rules : List Rule) :
    collector.applyAll (rules.map grant) =
      { collector with store := collector.store.addAll collector.current rules } := by
  induction rules generalizing collector with
  | nil => rfl
  | cons rule rest ih => exact ih (collector.apply (grant rule))

/-- Sections with rules, under new names, become entries behind all others. -/
theorem applyAll_sections (sections : List (String × List Rule)) (collector : Collector)
    (distinct : (collector.store.userNames ++ sections.map (·.1)).Nodup)
    (nonempty : ∀ entry ∈ sections, entry.2 ≠ []) :
    (collector.applyAll (sections.flatMap fun entry =>
      enter entry.1 :: entry.2.map grant)).store =
      { collector.store with users := collector.store.users ++ sections } := by
  induction sections generalizing collector with
  | nil => simp [applyAll]
  | cons entry rest ih =>
    obtain ⟨name, rules⟩ := entry
    -- Nobody has the name yet, so its rules make one entry, behind those that stand already.
    have new : name ∉ collector.store.userNames := by
      intro held
      have apart := (List.nodup_append.mp distinct).2.2 name held name (by simp)
      exact apart rfl
    have here : collector.applyAll (enter name :: rules.map grant) =
        { collector with
          current := .named name
          store.users := collector.store.users ++ [(name, rules)] } := by
      have entered := applyAll_map_grant (collector.apply (enter name)) rules
      rw [← RuleStore.addAll_named new (nonempty (name, rules) List.mem_cons_self)]
      exact entered
    rw [List.flatMap_cons, applyAll_append, here, ih]
    · simp
    · simpa [RuleStore.userNames] using distinct
    · exact fun other member => nonempty other (List.mem_cons_of_mem _ member)

end Collector

namespace RuleStore

theorem declarations_eq {admits : Rule → Prop} {store : RuleStore}
    (formed : store.WellFormed admits) : store.declarations = store.anonymous.map .grant ++
      store.users.flatMap fun entry => .enter entry.1 :: entry.2.map .grant := by
  rw [declarations, userNames, List.flatMap_map]
  congr 1
  apply List.flatMap_congr
  intro entry member
  rw [formed.rulesUnder_eq member]

/-- The declarations of a store make that store of an empty collector. -/
theorem applyAll_declarations {admits : Rule → Prop} {store : RuleStore}
    (formed : store.WellFormed admits) :
    (Collector.empty.applyAll store.declarations).store = store := by
  have opening : Collector.empty.applyAll (store.anonymous.map .grant) =
      { store := { anonymous := store.anonymous } } := by
    rw [Collector.applyAll_map_grant]
    exact congrArg (Collector.mk .anonymous · false) (addAll_anonymous {} store.anonymous)
  rw [declarations_eq formed, Collector.applyAll_append, opening, Collector.applyAll_sections]
  · rfl
  · exact formed.distinct
  · exact formed.nonempty

theorem fits_of_mem_declarations {store : RuleStore} (formed : store.WellFormed Rule.FitsLine) :
    ∀ directive ∈ store.declarations, directive.Fits Rule.FitsLine := by
  have granted : ∀ rule, rule.FitsLine → (Directive.grant rule).Fits Rule.FitsLine := by
    intro rule fits
    exact ⟨by rintro _ ⟨⟩; exact fits, by rintro _ ⟨⟩⟩
  rw [declarations_eq formed]
  intro directive member
  rcases List.mem_append.mp member with opening | section'
  · obtain ⟨rule, held, rfl⟩ := List.mem_map.mp opening
    exact granted rule (formed.anonymous rule held)
  · obtain ⟨entry, found, inside⟩ := List.mem_flatMap.mp section'
    rcases List.mem_cons.mp inside with rfl | stated
    · exact ⟨by rintro _ ⟨⟩, by rintro _ ⟨⟩; exact formed.isWord entry found⟩
    · obtain ⟨rule, held, rfl⟩ := List.mem_map.mp stated
      exact granted rule (formed.users entry found rule held)

end RuleStore

namespace RuleText

/-- Where no line is rejected, strict and lenient loading give the same and report nothing. -/
theorem load_of_forall_not_rejected {lines : List String}
    (accepted : ∀ line ∈ lines, ¬Rejected line) (strict : Bool) :
    (load strict lines).outcome = .ok (Collector.empty.applyAll (directives lines)).store ∧
      (load strict lines).reported = [] := by
  have fresh : Collector.empty.isSealed = false := rfl
  have lenient := loadFrom_lenient 1 fresh lines
  have silent : (loadFrom false 1 .empty lines).reported = [] := by
    rw [reported_loadFrom 1 fresh, reportsFrom_eq_nil_iff]
    exact accepted
  cases strict with
  | false => exact ⟨lenient, silent⟩
  | true =>
    obtain ⟨same, none⟩ := (loadFrom_agrees 1 fresh lines).clean silent
    exact ⟨same.trans lenient, none⟩

end RuleText

namespace RuleFile

/-! ### Texts of files -/

/-- What the lines of a file say fits into lines. -/
theorem fits_of_mem_directives {text : List Char} :
    ∀ directive ∈ RuleText.directives (linesOf text), directive.Fits Rule.FitsLine := by
  intro directive member
  obtain ⟨line, found, said⟩ := List.mem_filterMap.mp member
  obtain ⟨content, stands, read⟩ := (RuleText.directive?_eq_some_iff _ _).mp said
  have endless := endless_of_mem_linesOf found
  rw [RuleText.content?_eq_some_iff endless] at stands
  -- What is read is a part of the line, so it has no character that ends a line either.
  obtain ⟨indent, split, _⟩ := stands.indented
  rw [Directive.ofLine, String.toList_ofList, Directive.ofChars_eq_ok_iff] at read
  obtain ⟨form, written⟩ := read
  constructor
  · rintro rule rfl
    refine ⟨written.startsWord, fun c held => endless c ?_⟩
    rw [split]
    exact List.mem_append_right _ (written.filter_subset held)
  · rintro name rfl
    exact written.isWord

section Canonical

variable {store : RuleStore} (formed : store.WellFormed Rule.FitsLine)

include formed

theorem linesOf_canonicalText :
    linesOf store.canonicalText = store.declarations.map Directive.line ++ [""] := by
  have endless : ∀ piece ∈ store.declarations.map fun directive => directive.line.toList,
      ∀ c ∈ piece, isLineEnd c = false := by
    intro piece member
    obtain ⟨directive, declared, rfl⟩ := List.mem_map.mp member
    exact Directive.isLineEnd_of_mem_line (store.fits_of_mem_declarations formed directive declared)
  have split := lines_flatMap endless
  rw [List.flatMap_map] at split
  rw [linesOf, RuleStore.canonicalText, split]
  simp [Function.comp_def]

theorem directives_canonicalText :
    RuleText.directives (linesOf store.canonicalText) = store.declarations := by
  -- The last line feed leaves an empty line behind it, and that line states nothing.
  have blank : RuleText.directives [""] = [] := rfl
  have readBack : store.declarations.filterMap (RuleText.directive? ∘ Directive.line) =
      store.declarations.filterMap some := by
    apply List.filterMap_congr
    intro directive declared
    exact Directive.directive?_line (store.fits_of_mem_declarations formed directive declared)
  rw [linesOf_canonicalText formed, RuleText.directives_append, blank, List.append_nil,
    RuleText.directives, List.filterMap_map, readBack, List.filterMap_some]

/-- No line of the text is rejected. -/
theorem not_rejected_of_mem_canonicalText :
    ∀ line ∈ linesOf store.canonicalText, ¬RuleText.Rejected line := by
  rw [linesOf_canonicalText formed]
  intro line member
  rcases List.mem_append.mp member with stated | last
  · obtain ⟨directive, declared, rfl⟩ := List.mem_map.mp stated
    have fits := store.fits_of_mem_declarations formed directive declared
    exact RuleText.not_rejected_of_directive? (Directive.directive?_line fits)
  · rw [List.mem_singleton.mp last]
    decide

/-- However it is loaded, the canonical text of a store gives that store and reports nothing. -/
theorem load_linesOf_canonicalText (strict : Bool) :
    (RuleText.load strict (linesOf store.canonicalText)).outcome = .ok store ∧
      (RuleText.load strict (linesOf store.canonicalText)).reported = [] := by
  obtain ⟨loaded, silent⟩ :=
    RuleText.load_of_forall_not_rejected (not_rejected_of_mem_canonicalText formed) strict
  rw [directives_canonicalText formed, RuleStore.applyAll_declarations formed] at loaded
  exact ⟨loaded, silent⟩

end Canonical

/-- A file that is loaded holds text, and what it gives is what its lines give. -/
theorem exists_reads_of_load_ok {strict : Bool} {files : FileTree} {name : Loose}
    {loading : RuleText.Loading} (loaded : load strict files name = .ok loading)
    {store : RuleStore} (succeeded : loading.outcome = .ok store) :
    ∃ text, Reads files name text ∧ (RuleText.load strict (linesOf text)).outcome = .ok store := by
  rcases load_cases loaded with ⟨text, reads, rfl⟩ | ⟨_, _, problem, failed⟩
  · exact ⟨text, reads, succeeded⟩
  · cases succeeded.symm.trans failed

/-- **Canonical texts.** Whatever a file has given, however it was loaded: a file that holds the
canonical text of it gives the same rules and names in the same order, so that every question has
the same answer, and no line of that file is reported even when loading is strict. -/
theorem load_canonical (strict strict' : Bool) (files files' : FileTree) (name name' : Text.Loose)
    (loading : RuleText.Loading) (store : RuleStore) (loaded : load strict files name = .ok loading)
    (succeeded : loading.outcome = .ok store)
    (written : Reads files' name' store.canonicalText) :
    ∃ again, load strict' files' name' = .ok again ∧ again.outcome = .ok store ∧
      again.reported = [] := by
  obtain ⟨text, _, gave⟩ := exists_reads_of_load_ok loaded succeeded
  have formed := RuleText.wellFormed_of_load_ok gave fits_of_mem_directives
  exact ⟨_, written.load strict', load_linesOf_canonicalText formed strict'⟩

/-- Filters that begin with `#`, that are names of directives and permissions, and that end in a
tab, in a file with a line that is rejected. -/
theorem load_canonical_odd_filters :
    let text := "user\ntopic  #\nTopic WRITE  read \t\nuser #b c\r\n topic user\ntopic read a\u2028 b".toList
    let canonical := "topic readwrite #\ntopic write read \t\nuser #b\ntopic readwrite user\n" ++
      "topic read a\u2028 b\n"
    let holding (text : List Char) : FileTree :=
      FileTree.writeFile {} (.ofText "rules") (Utf8.encode text)
    let store : RuleStore := ⟨[⟨"#", .readWrite⟩, ⟨"read \t", .write⟩],
      [("#b", [⟨"user", .readWrite⟩, ⟨"a\u2028 b", .read⟩])]⟩
    store.canonicalText = canonical.toList ∧
      ∃ loading again, load false (holding text) "rules" = .ok loading ∧
        loading.outcome = .ok store ∧ load true (holding canonical.toList) "rules" = .ok again ∧
        again.outcome = .ok store := by
  intro text canonical holding store
  have reads : Reads (holding text) "rules" text := rfl
  have canonicalReads : Reads (holding canonical.toList) "rules" canonical.toList := rfl
  have written : store.canonicalText = canonical.toList := by decide +kernel
  have made : (Collector.empty.applyAll (RuleText.directives (linesOf text))).store = store := by
    decide +kernel
  obtain ⟨loading, loads, outcome⟩ : ∃ loading, load false (holding text) "rules" = .ok loading ∧
      loading.outcome = .ok store := by
    refine ⟨_, reads.load false, ?_⟩
    rw [RuleText.Loading.outcome_noting, RuleText.load, RuleText.loadFrom_lenient 1 rfl, made]
  obtain ⟨again, loads', outcome', _⟩ := load_canonical false true (holding text)
    (holding canonical.toList) "rules" "rules" loading store loads outcome
    (written ▸ canonicalReads)
  exact ⟨written, loading, again, loads, outcome, loads', outcome'⟩

end RuleFile

end TopicAccess
