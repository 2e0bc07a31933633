import TopicAccess.Proofs.Access
import TopicAccess.Proofs.Encoding
import TopicAccess.Proofs.Paths
import TopicAccess.Proofs.Reporting

/-!
# Which authorizer is chosen

A file fails, or its rules are loaded, as a whole. Which of the two happens and whether anonymous
clients have any rule then can be read off the bytes of the file (`RuleFile.load_exact`), and
nothing else counts for the choice (`Authorizer.ChosenFor`). Neither depends on what the sections of
users say, as long as no line becomes or ceases to be rejected (`RuleText.EditedBehindUser`). The
main result is `Authorizer.select_exact`. Where the path cannot be looked up there is no choice at
all (`Authorizer.select_unencodable`).
-/
namespace TopicAccess

open Text (Loose)

namespace RuleText

open Directive (rulesFor ownerAfter)

/-! ### Lines before the first section of a user -/

/-- A line that is neither blank nor a comment, and the directive that it says. -/
def Means (line : String) (directive : Directive) : Prop :=
  ∃ content : String, Tells line.toList content.toList ∧ Directive.ofLine content = .ok directive

theorem directive?_eq_some_iff_means (line : String) (directive : Directive) :
    directive? line = some directive ↔ Means line directive := by
  rw [directive?_eq_some_iff]
  constructor
  · rintro ⟨content, said, read⟩
    exact ⟨String.ofList content, by simpa [content?_eq_some_iff_tells] using said, read⟩
  · rintro ⟨content, tells, read⟩
    exact ⟨content.toList, (content?_eq_some_iff_tells _ _).mpr tells, by simpa using read⟩

/-- Some line states a rule before any line enters the section of a user. -/
def OpensWithRule (lines : List String) : Prop :=
  ∃ before line after rule, lines = before ++ line :: after ∧ Means line (.grant rule) ∧
    ∀ earlier ∈ before, ∀ user, ¬Means earlier (.enter user)

/-- No line has entered a section when the owner is still that of the opening. -/
theorem ownerAfter_directives_eq_anonymous_iff (lines : List String) :
    ownerAfter .anonymous (directives lines) = .anonymous ↔
      ∀ line ∈ lines, ∀ user, ¬Means line (.enter user) := by
  rw [Directive.ownerAfter_anonymous_eq_anonymous_iff]
  constructor
  · intro plain line member user means
    have said := (directive?_eq_some_iff_means line _).mpr means
    cases plain _ (List.mem_filterMap.mpr ⟨line, member, said⟩)
  · intro plain directive member
    obtain ⟨line, found, said⟩ := List.mem_filterMap.mp member
    cases directive with
    | enter user =>
      exact absurd ((directive?_eq_some_iff_means _ _).mp said) (plain line found user)
    | grant | reserved => rfl

theorem opensWithRule_iff (lines : List String) :
    OpensWithRule lines ↔ rulesFor .anonymous .anonymous (directives lines) ≠ [] := by
  have stated : ∀ rule, rule ∈ rulesFor .anonymous .anonymous (directives lines) ↔
      ∃ before line after, lines = before ++ line :: after ∧ Means line (.grant rule) ∧
        ∀ earlier ∈ before, ∀ user, ¬Means earlier (.enter user) := by
    intro rule
    simp only [mem_rulesFor_directives_iff, ownerAfter_directives_eq_anonymous_iff,
      directive?_eq_some_iff_means]
  constructor
  · rintro ⟨before, line, after, rule, found⟩
    exact List.ne_nil_of_mem ((stated rule).mpr ⟨before, line, after, found⟩)
  · intro nonempty
    obtain ⟨rule, member⟩ := List.exists_mem_of_ne_nil _ nonempty
    obtain ⟨before, line, after, found⟩ := (stated rule).mp member
    exact ⟨before, line, after, rule, found⟩

/-- A load fails when it is strict and a line is rejected. -/
theorem exists_problem_iff (strict : Bool) (lines : List String) :
    (∃ problem, (load strict lines).outcome = .error problem) ↔
      strict = true ∧ ∃ line ∈ lines, Rejected line := by
  have fresh : Collector.empty.isSealed = false := rfl
  have lenient := loadFrom_lenient 1 fresh lines
  cases strict with
  | false => simp [load, lenient]
  | true =>
    -- Strict loading fails when lenient loading of the same lines has something to report.
    have agrees := loadFrom_agrees 1 fresh lines
    have silent := reportsFrom_eq_nil_iff 1 lines
    rw [← reported_loadFrom 1 fresh lines] at silent
    cases reported : (loadFrom false 1 .empty lines).reported with
    | nil =>
      have accepted := silent.mp reported
      rw [load, (agrees.clean reported).1, lenient]
      simpa using accepted
    | cons first rest =>
      have rejected : ∃ line ∈ lines, Rejected line := by
        by_contra none
        push Not at none
        rw [silent.mpr none] at reported
        cases reported
      exact ⟨fun _ => ⟨rfl, rejected⟩, fun _ => ⟨first, (agrees.failed first rest reported).1⟩⟩

/-- Rules that are loaded count as empty when the text does not open with one. -/
theorem isEmpty_of_load_ok {strict : Bool} {lines : List String} {store : RuleStore}
    (loaded : (load strict lines).outcome = .ok store) :
    store.isEmpty = false ↔ OpensWithRule lines := by
  obtain ⟨collector, collected, rfl⟩ := collected_of_load_ok loaded
  rw [opensWithRule_iff, ← collected.rules]
  simp [RuleStore.isEmpty, RuleStore.rulesOf]

/-! ### Edits -/

/-- Two texts that are the same up to a line that enters the section of a user. Behind it lines that
are not rejected may be changed, added and removed. -/
inductive EditedBehindUser : List String → List String → Prop
  | intro {before after edited : List String} {line user : String}
      (enters : Means line (.enter user))
      (same : (after.filter fun line => Rejected line) = edited.filter fun line => Rejected line) :
      EditedBehindUser (before ++ line :: after) (before ++ line :: edited)

theorem EditedBehindUser.exists_rejected_iff {lines edited : List String}
    (edit : EditedBehindUser lines edited) :
    (∃ line ∈ lines, Rejected line) ↔ ∃ line ∈ edited, Rejected line := by
  -- The edit is known by the lines that are rejected, so both sides are said of them.
  have found : ∀ lines : List String,
      (∃ line ∈ lines, Rejected line) ↔ (lines.filter fun line => Rejected line) ≠ [] := by
    intro lines
    simp [List.filter_eq_nil_iff]
  cases edit with
  | intro enters same => simp only [found, List.filter_append, List.filter_cons, same]

theorem EditedBehindUser.opensWithRule_iff {lines edited : List String}
    (edit : EditedBehindUser lines edited) : OpensWithRule lines ↔ OpensWithRule edited := by
  cases edit with
  | @intro before _ _ line user enters =>
    -- Behind the line nothing is stated for anonymous clients any more.
    have same : ∀ rest, rulesFor .anonymous .anonymous (directives (before ++ line :: rest)) =
        rulesFor .anonymous .anonymous (directives before) := by
      intro rest
      rw [directives_append, directives_cons, (directive?_eq_some_iff_means line _).mpr enters,
        Option.toList_some, List.singleton_append, Directive.rulesFor_append,
        Directive.rulesFor_cons, Directive.ownerAfter_enter, Directive.rulesFor_anonymous_named]
      simp
    simp only [RuleText.opensWithRule_iff, same]

end RuleText

namespace RuleFile

/-- The file that a name leads to can be read, and its bytes are the UTF-8 form of a text. -/
def Reads (files : FileTree) (name : Loose) (text : List Char) : Prop :=
  files.read (.ofText name) = .ok (.ok (Text.Utf8.encode text))

theorem holdsText_iff_reads (files : FileTree) (name : Loose) (text : List Char) :
    HoldsText files name text ↔ Reads files name text := by
  simp [HoldsText, Reads, Text.Utf8.decode_eq_ok_iff]

/-- The file that a name leads to cannot be loaded: it cannot be read, it is not the UTF-8 form of
any text, or loading is strict and a line of it is rejected. -/
inductive Unloadable (strict : Bool) (files : FileTree) (name : Loose) : Prop
  | unreadable {fault : FileTree.ReadFault}
      (failed : files.read (.ofText name) = .ok (.error fault))
  | malformed {bytes : List UInt8} (found : files.read (.ofText name) = .ok (.ok bytes))
      (foreign : ∀ text, bytes ≠ Text.Utf8.encode text)
  | rejected {text : List Char} {line : String} (isStrict : strict = true)
      (reads : Reads files name text) (member : line ∈ linesOf text)
      (rejected : RuleText.Rejected line)

/-- The file that a name leads to states a rule before it enters the section of a user. -/
def OpensWithRule (files : FileTree) (name : Loose) : Prop :=
  ∃ text, Reads files name text ∧ RuleText.OpensWithRule (linesOf text)

section Reads

variable {files : FileTree} {name : Loose} {text : List Char} (reads : Reads files name text)

include reads

/-- A file is the UTF-8 form of one text only. -/
theorem Reads.unique {other : List Char} (reads' : Reads files name other) : other = text := by
  obtain ⟨bytes, read, decoded⟩ := (holdsText_iff_reads files name text).mpr reads
  obtain ⟨bytes', read', decoded'⟩ := (holdsText_iff_reads files name other).mpr reads'
  cases read.symm.trans read'
  exact Except.ok.inj (decoded'.symm.trans decoded)

theorem Reads.unloadable_iff (strict : Bool) : Unloadable strict files name ↔
    strict = true ∧ ∃ line ∈ linesOf text, RuleText.Rejected line := by
  constructor
  -- A file that holds text was read and decoded, so only its lines can be the cause.
  · rintro (⟨failed⟩ | ⟨found, foreign⟩ | ⟨isStrict, reads', member, rejected⟩)
    · cases failed.symm.trans reads
    · cases found.symm.trans reads
      exact absurd rfl (foreign text)
    · rw [reads.unique reads'] at member
      exact ⟨isStrict, _, member, rejected⟩
  · rintro ⟨isStrict, line, member, rejected⟩
    exact .rejected isStrict reads member rejected

theorem Reads.opensWithRule_iff :
    OpensWithRule files name ↔ RuleText.OpensWithRule (linesOf text) := by
  constructor
  · rintro ⟨other, reads', opens⟩
    rwa [reads.unique reads'] at opens
  · intro opens
    exact ⟨text, reads, opens⟩

theorem Reads.load (strict : Bool) : load strict files name =
    .ok ((RuleText.load strict (linesOf text)).noting
      (.fileRead (FileTree.Path.ofText name).text)) := by
  obtain ⟨bytes, read, decoded⟩ := (holdsText_iff_reads files name text).mpr reads
  simp only [RuleFile.load, read, loadBytes, decoded]

end Reads

/-- A file that is looked up holds a text, whose lines are loaded, or it fails without a report. -/
theorem load_cases {strict : Bool} {files : FileTree} {name : Loose} {loading : RuleText.Loading}
    (loaded : load strict files name = .ok loading) :
    (∃ text, Reads files name text ∧ loading = (RuleText.load strict (linesOf text)).noting
      (.fileRead (FileTree.Path.ofText name).text)) ∨
    (∀ text, ¬Reads files name text) ∧ loading.reported = [] ∧
      ∃ problem, loading.outcome = .error problem := by
  by_cases reads : ∃ text, Reads files name text
  · obtain ⟨text, reads⟩ := reads
    exact .inl ⟨text, reads, Except.ok.inj (loaded.symm.trans (reads.load strict))⟩
  refine .inr ⟨not_exists.mp reads, ?_⟩
  simp only [load] at loaded
  split at loaded
  next fault _ => cases loaded
  next fault _ =>
    cases loaded
    exact ⟨rfl, _, rfl⟩
  next bytes read =>
    cases loaded
    cases decoded : Text.Utf8.decode bytes with
    | error fault => simp [loadBytes, decoded]
    | ok text =>
      exact absurd ⟨text, (holdsText_iff_reads files name text).mp ⟨bytes, read, decoded⟩⟩ reads

/-- A file is loaded or fails as a whole, and its rules are for named principals only unless it
states a rule before it enters the section of a user. -/
theorem load_exact (strict : Bool) (files : FileTree) {name : Loose} (encodable : name.Encodable)
    (nullFree : .char '\x00' ∉ name) : ∃ loading, load strict files name = .ok loading ∧
      ((∃ problem, loading.outcome = .error problem) ↔ Unloadable strict files name) ∧
      ∀ store, loading.outcome = .ok store →
        (store.isEmpty = false ↔ OpensWithRule files name) := by
  have read := files.read_ofText encodable nullFree
  -- One case for each way to fail as a whole, and one for a file that holds text.
  cases found : files.lookUp (.ofText name) with
  | error fault =>
    rw [found] at read
    refine ⟨_, by simp only [load, read]; rfl, ?_, by simp⟩
    exact ⟨fun _ => .unreadable read, fun _ => ⟨_, rfl⟩⟩
  | ok bytes =>
    rw [found] at read
    cases decoded : Text.Utf8.decode bytes with
    | error fault =>
      have foreign : ∀ text, bytes ≠ Text.Utf8.encode text := by
        intro text same
        cases decoded.symm.trans ((Text.Utf8.decode_eq_ok_iff bytes text).mpr same)
      refine ⟨_, by simp only [load, read, loadBytes, decoded]; rfl, ?_, by simp⟩
      exact ⟨fun _ => .malformed read foreign, fun _ => ⟨_, rfl⟩⟩
    | ok text =>
      have reads := (holdsText_iff_reads files name text).mp ⟨bytes, read, decoded⟩
      refine ⟨_, reads.load strict, ?_, ?_⟩
      · rw [reads.unloadable_iff, ← RuleText.exists_problem_iff, RuleText.Loading.outcome_noting]
      · intro store loaded
        rw [reads.opensWithRule_iff]
        exact RuleText.isEmpty_of_load_ok loaded

end RuleFile

namespace Authorizer

/-! ### The choice -/

/-- Which authorizer is chosen where a name is configured: a file that cannot be loaded denies, one
that does not open with a rule permits, and any other decides by its rules. -/
structure ChosenFor (strict : Bool) (files : FileTree) (name : Loose) (authorizer : Authorizer) :
    Prop where
  denies : authorizer = .denyAll ↔ RuleFile.Unloadable strict files name
  permits : authorizer = .permitAll ↔
    ¬RuleFile.Unloadable strict files name ∧ ¬RuleFile.OpensWithRule files name
  decides : (∃ store, authorizer = .rules store) ↔
    ¬RuleFile.Unloadable strict files name ∧ RuleFile.OpensWithRule files name
  anonymous : ∀ store, authorizer = .rules store → store.anonymous ≠ []

theorem authorizer_ofStore (path : Loose) (store : RuleStore) :
    (ofStore path store).1 = if store.isEmpty then .permitAll else .rules store := by
  unfold ofStore
  split
  · split <;> rfl
  · rfl

theorem chosenFor_ofLoading {strict : Bool} {files : FileTree} {name : Loose}
    {loading : RuleText.Loading}
    (failed : (∃ problem, loading.outcome = .error problem) ↔ RuleFile.Unloadable strict files name)
    (opens : ∀ store, loading.outcome = .ok store →
      (store.isEmpty = false ↔ RuleFile.OpensWithRule files name)) :
    ChosenFor strict files name (ofLoading name loading).authorizer := by
  cases outcome : loading.outcome with
  | error problem =>
    have unloadable := failed.mp ⟨problem, outcome⟩
    have chosen : (ofLoading name loading).authorizer = .denyAll := by simp [ofLoading, outcome]
    rw [chosen]
    constructor <;> simp [unloadable]
  | ok store =>
    have loadable : ¬RuleFile.Unloadable strict files name := by
      rw [← failed, outcome]
      simp
    have opens := opens store outcome
    have chosen : (ofLoading name loading).authorizer =
        if store.isEmpty then .permitAll else .rules store := by
      rw [← authorizer_ofStore name]
      simp [ofLoading, outcome]
    rw [chosen]
    -- What the sections of users hold does not count here: `isEmpty` asks for anonymous rules.
    cases empty : store.isEmpty with
    | true =>
      have silent : ¬RuleFile.OpensWithRule files name := by simp [← opens, empty]
      constructor <;> simp [loadable, silent]
    | false =>
      have opening := opens.mp empty
      have held : store.anonymous ≠ [] := by simpa [RuleStore.isEmpty] using empty
      constructor <;> simp [loadable, opening, held]

section Named

variable (strict : Bool) (files : FileTree) {name : Loose} (named : name ≠ [])
include named

theorem select_chosenFor (encodable : name.Encodable) (nullFree : .char '\x00' ∉ name) :
    ∃ selection, select strict files (some name) = .ok selection ∧
      ChosenFor strict files name selection.authorizer := by
  obtain ⟨loading, loaded, failed, opens⟩ := RuleFile.load_exact strict files encodable nullFree
  exact ⟨_, by simp only [select, named, if_false, loaded]; rfl, chosenFor_ofLoading failed opens⟩

/-- Where the name cannot be encoded no file is looked for. -/
theorem select_fault_of_not_encodable (lost : ¬name.Encodable) :
    ∃ lone, select strict files (some name) = .error (.unencodable lone) := by
  obtain ⟨lone, faulty⟩ := (FileTree.Path.exists_unencodable_iff name).mpr lost
  have failed : RuleFile.load strict files name = .error (.unencodable lone) := by
    simp [RuleFile.load, FileTree.read, faulty]
  exact ⟨lone, by simp only [select, named, if_false, failed]; rfl⟩

end Named

theorem mode_eq_of_iff {chosen other : Authorizer} (denies : chosen = .denyAll ↔ other = .denyAll)
    (permits : chosen = .permitAll ↔ other = .permitAll) : chosen.mode = other.mode := by
  cases chosen <;> cases other <;> simp_all [mode]

/-- The mode depends on two things only: whether the file fails, and whether it opens with a
rule. -/
theorem ChosenFor.mode_eq {strict : Bool} {files edited : FileTree} {name : Loose}
    {chosen other : Authorizer} (first : ChosenFor strict files name chosen)
    (second : ChosenFor strict edited name other)
    (fails : RuleFile.Unloadable strict files name ↔ RuleFile.Unloadable strict edited name)
    (opens : RuleFile.OpensWithRule files name ↔ RuleFile.OpensWithRule edited name) :
    chosen.mode = other.mode := by
  apply mode_eq_of_iff
  · rw [first.denies, second.denies, fails]
  · rw [first.permits, second.permits, fails, opens]

/-- **Which authorizer is chosen.** Without a path the authorizer permits everything, and no file
matters. With a path, of which only null characters are left out here, there is a choice exactly
when each half of a surrogate pair in it stands for a byte; otherwise the fault of the text is all
that comes of it. The choice is to deny everything exactly when the file cannot be read, is not
UTF-8 or, in strict loading, holds a line that is rejected. Otherwise it is to permit everything
exactly when no rule is stated before the first `user` directive, and to decide by the rules of the
file, some of which are for anonymous clients, when one is. So in strict loading no edit behind a
`user` directive that leaves the rejected lines as they are changes the mode. -/
theorem select_exact (strict : Bool) (files : FileTree) (path : Option Loose)
    (nullFree : ∀ name, path = some name → .char '\x00' ∉ name) :
    (path = none ∨ path = some [] → ∀ others,
      select strict others path = .ok ⟨.permitAll, [], [.noFile]⟩) ∧
    ∀ name, path = some name → name ≠ [] →
      ((∃ selection, select strict files path = .ok selection) ↔ name.Encodable) ∧
      (¬name.Encodable → ∃ lone, select strict files path = .error (.unencodable lone)) ∧
      ∀ selection, select strict files path = .ok selection →
        ChosenFor strict files name selection.authorizer ∧
        ∀ edited text text', strict = true →
          RuleFile.Reads files name text → RuleFile.Reads edited name text' →
          RuleText.EditedBehindUser (RuleFile.linesOf text) (RuleFile.linesOf text') →
          ∃ selection', select strict edited path = .ok selection' ∧
            selection'.authorizer.mode = selection.authorizer.mode := by
  constructor
  · rintro (rfl | rfl) others <;> rfl
  · rintro name rfl named
    have lost := select_fault_of_not_encodable strict files named
    -- Every tree has its choice, so that of the edited one is at hand as well.
    have chosen : name.Encodable → ∀ tree, ∃ selection,
        select strict tree (some name) = .ok selection ∧
        ChosenFor strict tree name selection.authorizer :=
      fun encodable tree => select_chosenFor strict tree named encodable (nullFree name rfl)
    have encodable_of_ok : ∀ selection, select strict files (some name) = .ok selection →
        name.Encodable := by
      intro selection selected
      by_contra other
      obtain ⟨lone, failed⟩ := lost other
      cases selected.symm.trans failed
    refine ⟨⟨fun ⟨selection, selected⟩ => encodable_of_ok selection selected, ?_⟩, lost, ?_⟩
    · intro encodable
      obtain ⟨selection, selected, _⟩ := chosen encodable files
      exact ⟨selection, selected⟩
    · intro selection selected
      have chosen := chosen (encodable_of_ok selection selected)
      obtain ⟨_, selected', choice⟩ := chosen files
      cases selected.symm.trans selected'
      refine ⟨choice, fun edited text text' isStrict reads reads' edit => ?_⟩
      obtain ⟨selection', selected', choice'⟩ := chosen edited
      refine ⟨selection', selected', choice'.mode_eq choice ?_ ?_⟩
      · rw [reads.unloadable_iff, reads'.unloadable_iff, edit.exists_rejected_iff]
      · rw [reads.opensWithRule_iff, reads'.opensWithRule_iff, edit.opensWithRule_iff]

/-- Whatever is said behind the line that enters the section of a user, the rules decide. -/
theorem select_exact_behind_user :
    let text := "topic a\nuser bob\ntopic write b\n".toList
    let text' := "topic a\nuser bob\n# b\nuser eve\n\ttopic read c".toList
    let holding (text : List Char) : FileTree :=
      FileTree.writeFile {} (.ofText "rules") (Text.Utf8.encode text)
    ∃ selection selection' store,
      select true (holding text) (some "rules") = .ok selection ∧
      select true (holding text') (some "rules") = .ok selection' ∧
      selection.authorizer = .rules store ∧
      selection'.authorizer.mode = selection.authorizer.mode := by
  intro text text' holding
  have reads : RuleFile.Reads (holding text) "rules" text := rfl
  have reads' : RuleFile.Reads (holding text') "rules" text' := rfl
  have lines : RuleFile.linesOf text = ["topic a"] ++ "user bob" :: ["topic write b", ""] := by
    decide +kernel
  have lines' : RuleFile.linesOf text' =
      ["topic a"] ++ "user bob" :: ["# b", "user eve", "\ttopic read c"] := by
    decide +kernel
  have enters : RuleText.Means "user bob" (.enter "bob") :=
    (RuleText.directive?_eq_some_iff_means _ _).mp (by decide +kernel)
  have states : RuleText.Means "topic a" (.grant ⟨"a", .readWrite⟩) :=
    (RuleText.directive?_eq_some_iff_means _ _).mp (by decide +kernel)
  have edit : RuleText.EditedBehindUser (RuleFile.linesOf text) (RuleFile.linesOf text') := by
    rw [lines, lines']
    exact .intro enters (by decide +kernel)
  obtain ⟨exists_iff, _, configured⟩ := (select_exact true (holding text)
    (some "rules") (by rintro _ ⟨⟩; decide)).2 "rules" rfl (by decide)
  obtain ⟨selection, selected⟩ := exists_iff.mpr (Loose.encodable_ofString "rules")
  obtain ⟨choice, later⟩ := configured selection selected
  obtain ⟨selection', selected', same⟩ := later (holding text') text text' rfl reads reads' edit
  have loadable : ¬RuleFile.Unloadable true (holding text) "rules" := by
    rw [reads.unloadable_iff, lines]
    decide +kernel
  have opens : RuleFile.OpensWithRule (holding text) "rules" := by
    rw [reads.opensWithRule_iff, lines]
    exact ⟨[], _, _, _, rfl, states, by simp⟩
  obtain ⟨store, decides⟩ := choice.decides.mpr ⟨loadable, opens⟩
  exact ⟨selection, selection', store, selected, selected', decides, same⟩

/-- A path that cannot be looked up has no authorizer, not even one that denies everything: nothing
comes of it but the fault of its text. -/
theorem select_unencodable :
    select true {} (some [.half 0]) = .error (.unencodable ⟨0, [0xD800]⟩) ∧
    ¬∀ (strict : Bool) (files : FileTree) (path : Option Loose),
      (∀ name, path = some name → .char '\x00' ∉ name) →
      ∃ selection, select strict files path = .ok selection := by
  have failed : select true {} (some [.half 0]) = .error (.unencodable ⟨0, [0xD800]⟩) := by
    rfl
  refine ⟨failed, fun every => ?_⟩
  obtain ⟨selection, selected⟩ := every true {} (some [.half 0]) (by rintro _ ⟨⟩; decide)
  cases selected.symm.trans failed

end Authorizer
end TopicAccess
