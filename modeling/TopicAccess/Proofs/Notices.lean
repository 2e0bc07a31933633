import TopicAccess.Proofs.Selection

/-!
# What is noted of a load

Of every line that is not skipped one thing is noted: what the line says, or that it is rejected.
The notices of a load that succeeds are those of its lines, in order, and one more when all lines
have been read (`RuleText.notices_load_of_ok`); a load that fails has the notices of the lines
before the one that stops it (`RuleText.notices_load_of_error`).

So the directives that are taken over can be told from the notices
(`RuleText.directives_noticesFrom`), and each rule is noted for the principal whose section was
noted last (`RuleText.sectioned_noticesFrom`). What is noted of the choice of an authorizer comes
after these notices, and is about no section (`Authorizer.exists_notices_select`).
-/
namespace TopicAccess

open Directive (ownerAfter ownedFrom lastUser)

theorem filterMap_cons_toList {α β : Type} (f : α → Option β) (x : α) (rest : List α) :
    (x :: rest).filterMap f = (f x).toList ++ rest.filterMap f := by
  rw [List.filterMap_eq_flatMap_toList, List.filterMap_eq_flatMap_toList, List.flatMap_cons]

namespace Notice

/-! ### What a notice tells -/

/-- The directive that a notice tells of. -/
def directive? : Notice → Option Directive
  | ruleAdded _ rule => some (.grant rule)
  | sectionEntered user => some (.enter user)
  | patternIgnored _ => some .reserved
  | _ => none

/-- The rule that a notice tells of, with the principal that it was added for. -/
def added? : Notice → Option (Principal × Rule)
  | ruleAdded principal rule => some (principal, rule)
  | _ => none

/-- The user whose section a notice is about. -/
def section? : Notice → Option String
  | ruleAdded principal _ => principal.user?
  | sectionEntered user => some user
  | _ => none

/-- The number of the line that a notice tells to be skipped, and why it is. -/
def skipped? : Notice → Option (Nat × Text.Loose)
  | lineSkipped number _ message => some (number, message)
  | _ => none

/-- Whether a notice tells that all lines have been read. -/
def isClosing : Notice → Bool
  | rulesLoaded .. => true
  | _ => false

theorem section?_of_isClosing {notice : Notice} (closes : notice.isClosing = true) :
    notice.section? = none := by
  cases notice <;> first | rfl | cases closes

theorem added?_of_isClosing {notice : Notice} (closes : notice.isClosing = true) :
    notice.added? = none := by
  cases notice <;> first | rfl | cases closes

/-- Every rule is noted for the principal whose section was noted last, the section of an owner
being entered at the beginning. -/
def Sectioned (owner : Principal) : List Notice → Prop
  | [] => True
  | notice :: rest => (∀ added, notice.added? = some added → added.1 = owner) ∧
      Sectioned (ownerAfter owner notice.directive?.toList) rest

theorem Sectioned.append {owner : Principal} {notices more : List Notice}
    (sectioned : Sectioned owner notices)
    (later : Sectioned (ownerAfter owner (notices.filterMap directive?)) more) :
    Sectioned owner (notices ++ more) := by
  induction notices generalizing owner with
  | nil => exact later
  | cons notice rest ih =>
    refine ⟨sectioned.1, ih sectioned.2 ?_⟩
    rwa [filterMap_cons_toList, Directive.ownerAfter_append] at later

/-- Notices that are sectioned are so from any place on. -/
theorem Sectioned.owner_eq {owner : Principal} {before after : List Notice} {notice : Notice}
    (sectioned : Sectioned owner (before ++ notice :: after)) {added : Principal × Rule}
    (adds : notice.added? = some added) :
    added.1 = ownerAfter owner (before.filterMap directive?) := by
  induction before generalizing owner with
  | nil => exact sectioned.1 added adds
  | cons first rest ih =>
    rw [filterMap_cons_toList, Directive.ownerAfter_append]
    exact ih sectioned.2

/-- The section that a rule is noted in is the one that was entered last. -/
theorem Sectioned.section?_eq {before after : List Notice} {notice : Notice}
    (sectioned : Sectioned .anonymous (before ++ notice :: after)) {added : Principal × Rule}
    (adds : notice.added? = some added) :
    notice.section? = lastUser (before.filterMap directive?) := by
  have owned := sectioned.owner_eq adds
  cases notice with
  | ruleAdded principal rule =>
    cases adds
    have owner : principal = _ := owned
    rw [section?, owner, ownerAfter]
    cases lastUser (before.filterMap directive?) <;> rfl
  | _ => cases adds

/-- A section that is noted has been entered. -/
theorem Sectioned.enter_mem {notices : List Notice} (sectioned : Sectioned .anonymous notices)
    {notice : Notice} (member : notice ∈ notices) {user : String}
    (about : notice.section? = some user) :
    Directive.enter user ∈ notices.filterMap directive? := by
  cases notice with
  | sectionEntered entered =>
    cases about
    exact List.mem_filterMap.mpr ⟨_, member, rfl⟩
  -- The section of a rule is the one that was entered last, so it was entered before the rule.
  | ruleAdded principal rule =>
    obtain ⟨before, after, rfl⟩ := List.append_of_mem member
    rw [sectioned.section?_eq rfl, lastUser] at about
    obtain ⟨directive, said, enters⟩ := List.mem_filterMap.mp (List.mem_of_getLast? about)
    obtain rfl : directive = .enter user := by
      cases directive <;> simp_all [Directive.user?]
    rw [List.filterMap_append]
    exact List.mem_append_left _ said
  | _ => cases about

/-- What is noted to be added is what the directives add that are told. -/
theorem Sectioned.added_eq {owner : Principal} {notices : List Notice}
    (sectioned : Sectioned owner notices) :
    notices.filterMap added? = ownedFrom owner (notices.filterMap directive?) := by
  induction notices generalizing owner with
  | nil => rfl
  | cons notice rest ih =>
    obtain ⟨here, later⟩ := sectioned
    rw [filterMap_cons_toList, filterMap_cons_toList, Directive.ownedFrom_append, ← ih later]
    -- Only a notice of a rule tells of something owned, and it names the owner of its place.
    cases notice with
    | ruleAdded principal rule =>
      obtain rfl : principal = owner := here (principal, rule) rfl
      simp [added?, directive?, Directive.ownedFrom_singleton]
    | _ => simp [added?, directive?, Directive.ownedFrom_singleton]

end Notice

namespace RuleText

/-! ### What is noted of a line -/

/-- What is noted of a line. Nothing is noted of blank lines and comments. -/
def noticesOf (number : Nat) (collector : Collector) (line : String) : List Notice :=
  match content? line.toList with
  | none => []
  | some content =>
    match Directive.ofLine (String.ofList content) with
    | .ok directive => [collector.notice (String.ofList content) directive]
    | .error fault => [.lineSkipped number (String.ofList (withoutEnd line.toList))
        (fault.message (String.ofList content))]

/-- What is noted of lines, the first one having a given number, while a collector is fed them. -/
def noticesFrom (number : Nat) (collector : Collector) : List String → List Notice
  | [] => []
  | line :: rest => noticesOf number collector line ++
      noticesFrom (number + 1) (collector.applyAll (directive? line).toList) rest

section Line

variable (number : Nat) (collector : Collector) (line : String)

theorem directives_noticesOf :
    (noticesOf number collector line).filterMap Notice.directive? =
      (directive? line).toList := by
  unfold noticesOf directive?
  cases content? line.toList with
  | none => rfl
  | some content =>
    cases read : Directive.ofLine (String.ofList content) with
    -- A line that is rejected is noted, but it tells no directive.
    | error fault => simp [Notice.directive?, read, Except.toOption]
    | ok directive => cases directive <;>
        simp [Collector.notice, Notice.directive?, read, Except.toOption]

theorem sectioned_noticesOf :
    Notice.Sectioned collector.current (noticesOf number collector line) := by
  unfold noticesOf
  split
  · trivial
  · split
    next directive read =>
      cases directive <;> simp [Notice.Sectioned, Notice.added?, Collector.notice]
    · simp [Notice.Sectioned, Notice.added?]

theorem skipped_noticesOf :
    (noticesOf number collector line).filterMap Notice.skipped? =
      ((rejection? line).map fun rejection =>
        (number, .ofString (rejection.2.message rejection.1))).toList := by
  unfold noticesOf rejection?
  cases content? line.toList with
  | none => rfl
  | some content =>
    cases read : Directive.ofLine (String.ofList content) with
    | error fault => simp [Notice.skipped?, read]
    | ok directive => cases directive <;> simp [Collector.notice, Notice.skipped?, read]

theorem isClosing_of_mem_noticesOf :
    ∀ notice ∈ noticesOf number collector line, notice.isClosing = false := by
  unfold noticesOf
  split
  · simp
  · split
    next directive read => cases directive <;> simp [Collector.notice, Notice.isClosing]
    · simp [Notice.isClosing]

end Line

/-! ### What is noted of lines -/

theorem current_applyAll (collector : Collector) (directives : List Directive) :
    (collector.applyAll directives).current = ownerAfter collector.current directives := by
  induction directives generalizing collector with
  | nil => rfl
  | cons directive rest ih =>
    rw [Collector.applyAll, List.foldl_cons]
    rw [← List.singleton_append, Directive.ownerAfter_append, ← Collector.current_apply]
    exact ih (collector.apply directive)

section Lines

variable (number : Nat) (collector : Collector) (lines : List String)

theorem directives_noticesFrom :
    (noticesFrom number collector lines).filterMap Notice.directive? = directives lines := by
  induction lines generalizing number collector with
  | nil => rfl
  | cons line rest ih =>
    rw [noticesFrom, List.filterMap_append, ih, directives_noticesOf, directives_cons]

theorem sectioned_noticesFrom :
    Notice.Sectioned collector.current (noticesFrom number collector lines) := by
  induction lines generalizing number collector with
  | nil => trivial
  | cons line rest ih =>
    apply (sectioned_noticesOf number collector line).append
    -- The rest begins in the section that the line leaves the collector in.
    rw [directives_noticesOf, ← current_applyAll]
    exact ih (number + 1) _

/-- Every line that is noted to be skipped is reported, under its number and with its message. -/
theorem skipped_noticesFrom :
    ((noticesFrom number collector lines).filterMap Notice.skipped?).map
      (fun skipped => (some (Json.nat skipped.1), some (Json.ofLoose skipped.2))) =
    (reportsFrom number lines).map fun problem =>
      (problem.lineNumber?.map Json.int, some (Json.ofLoose problem.message)) := by
  induction lines generalizing number collector with
  | nil => rfl
  | cons line rest ih =>
    rw [noticesFrom, List.filterMap_append, List.map_append, ih, skipped_noticesOf, reportsFrom]
    cases rejection? line <;> rfl

theorem isClosing_of_mem_noticesFrom :
    ∀ notice ∈ noticesFrom number collector lines, notice.isClosing = false := by
  induction lines generalizing number collector with
  | nil => simp [noticesFrom]
  | cons line rest ih =>
    intro notice member
    rcases List.mem_append.mp member with here | later
    · exact isClosing_of_mem_noticesOf number collector line notice here
    · exact ih (number + 1) _ notice later

end Lines

/-! ### What is noted of a load -/

section Load

variable {collector : Collector} (unsealed : collector.isSealed = false) (number : Nat)

include unsealed

/-- Unless a line stops a load, its notices come first. -/
theorem notices_loadFrom_cons {strict : Bool} {line : String}
    (goesOn : strict = true → ¬Rejected line) (rest : List String) :
    (loadFrom strict number collector (line :: rest)).notices =
      noticesOf number collector line ++
        (loadFrom strict (number + 1) (collector.applyAll (directive? line).toList) rest).notices := by
  rw [rejected_iff] at goesOn
  cases said : content? line.toList with
  | none => simp [loadFrom, noticesOf, directive?, said, Collector.applyAll]
  | some content =>
    cases read : Directive.ofLine (String.ofList content) with
    | ok directive =>
      have fed := (collector.feed_eq_ok_iff (String.ofList content) _ _).mpr
        ⟨unsealed, directive, read, rfl, rfl⟩
      simp [loadFrom, noticesOf, directive?, said, fed, read, Loading.noting, Except.toOption,
        Collector.applyAll]
    -- A line that is rejected is noted by a load that goes on, and only such a load is lenient.
    | error fault =>
      have fed := (collector.feed_eq_error_iff (String.ofList content) _ _).mpr
        ⟨rfl, .inr ⟨unsealed, fault, read, rfl⟩⟩
      have lenient : strict = false := by
        simpa [rejection?, said, read] using goesOn
      simp [loadFrom, noticesOf, directive?, said, fed, read, lenient, Loading.noting,
        Loading.reporting, Except.toOption, Collector.applyAll, LineFault.problem, Problem.atLine,
        Problem.message]

theorem notices_loadFrom {strict : Bool} {lines : List String}
    (goesOn : strict = true → ∀ line ∈ lines, ¬Rejected line) :
    (loadFrom strict number collector lines).notices = noticesFrom number collector lines ++
      [loadedNotice (collector.applyAll (directives lines)).store] := by
  induction lines generalizing number collector with
  | nil => rfl
  | cons line rest ih =>
    have here := notices_loadFrom_cons unsealed number
      (fun strict => goesOn strict line List.mem_cons_self) rest
    have unsealed' : (collector.applyAll (directive? line).toList).isSealed = false := by
      simpa using unsealed
    have later := ih unsealed' (number + 1)
      fun strict other member => goesOn strict other (List.mem_cons_of_mem line member)
    rw [here, later, noticesFrom, directives_cons, Collector.applyAll_append, List.append_assoc]

/-- A line that is rejected stops a strict load, and nothing is noted of it. -/
theorem notices_loadFrom_stopped {before : List String} {line : String}
    (accepted : ∀ earlier ∈ before, ¬Rejected earlier) (rejected : Rejected line)
    (after : List String) : (loadFrom true number collector (before ++ line :: after)).notices =
      noticesFrom number collector before := by
  induction before generalizing number collector with
  | nil =>
    rw [rejected_iff, Option.isSome_iff_exists] at rejected
    obtain ⟨⟨content, fault⟩, rejected⟩ := rejected
    obtain ⟨said, read⟩ := (rejection?_eq_some_iff _ _ _).mp rejected
    have fed := (collector.feed_eq_error_iff content _ _).mpr
      ⟨rfl, .inr ⟨unsealed, fault, read, rfl⟩⟩
    simp [loadFrom, said, fed, noticesFrom]
  | cons first rest ih =>
    have goesOn : true = true → ¬Rejected first := fun _ => accepted first List.mem_cons_self
    have unsealed' : (collector.applyAll (directive? first).toList).isSealed = false := by
      simpa using unsealed
    have later := ih unsealed' (number + 1)
      fun other member => accepted other (List.mem_cons_of_mem first member)
    rw [List.cons_append, notices_loadFrom_cons unsealed number goesOn, later, noticesFrom]

end Load

section Outcome

variable {strict : Bool} {lines : List String}

/-- Lines of which none is rejected load. -/
theorem exists_store_of_accepted (accepted : ∀ line ∈ lines, ¬Rejected line) :
    ∃ store, (load strict lines).outcome = .ok store := by
  cases came : (load strict lines).outcome with
  | ok store => exact ⟨store, rfl⟩
  | error problem =>
    obtain ⟨_, line, member, rejected⟩ := (exists_problem_iff strict lines).mp ⟨problem, came⟩
    exact absurd rejected (accepted line member)

theorem notices_load_of_ok {store : RuleStore} (loaded : (load strict lines).outcome = .ok store) :
    (load strict lines).notices = noticesFrom 1 .empty lines ++ [loadedNotice store] := by
  have goesOn : strict = true → ∀ line ∈ lines, ¬Rejected line := by
    intro isStrict line member rejected
    obtain ⟨problem, failed⟩ := (exists_problem_iff strict lines).mpr
      ⟨isStrict, line, member, rejected⟩
    cases failed.symm.trans loaded
  rw [← store_of_load_ok loaded]
  exact notices_loadFrom rfl 1 goesOn

/-- A load that fails has noted the lines before the first one that is rejected. -/
theorem notices_load_of_error {problem : Problem}
    (failed : (load strict lines).outcome = .error problem) :
    ∃ before line after, lines = before ++ line :: after ∧ Rejected line ∧
      (∀ earlier ∈ before, ¬Rejected earlier) ∧
      (load strict lines).notices = noticesFrom 1 .empty before := by
  obtain ⟨rfl, rejects⟩ := (exists_problem_iff strict lines).mp ⟨problem, failed⟩
  -- The line that stops the load is the first one that is rejected.
  have any : (lines.find? fun line => Rejected line).isSome = true := by simpa using rejects
  obtain ⟨line, found⟩ := Option.isSome_iff_exists.mp any
  obtain ⟨rejected, before, after, rfl, accepted⟩ := List.find?_eq_some_iff_append.mp found
  replace rejected : Rejected line := by simpa using rejected
  replace accepted : ∀ earlier ∈ before, ¬Rejected earlier := by simpa using accepted
  exact ⟨before, line, after, rfl, rejected, accepted,
    notices_loadFrom_stopped rfl 1 accepted rejected after⟩

/-- Whatever comes of a load, it has noted some of the first lines, and all of them if it succeeds.
Only the closing notice follows. -/
theorem exists_notices_load (strict : Bool) (lines : List String) : ∃ before after rest,
    lines = before ++ after ∧ (load strict lines).notices = noticesFrom 1 .empty before ++ rest ∧
      (∀ notice ∈ rest, notice.isClosing = true) ∧
      ∀ store, (load strict lines).outcome = .ok store → after = [] := by
  cases came : (load strict lines).outcome with
  | ok store =>
    refine ⟨lines, [], _, (List.append_nil lines).symm, notices_load_of_ok came, ?_, by simp⟩
    simp [loadedNotice, Notice.isClosing]
  | error problem =>
    obtain ⟨before, line, after, split, _, _, notices⟩ := notices_load_of_error came
    exact ⟨before, line :: after, [], split, notices.trans (List.append_nil _).symm, by simp,
      by simp⟩

end Outcome

/-- A section that a load has noted something about is entered by one of the lines. -/
theorem exists_enter_of_section {strict : Bool} {lines : List String} {notice : Notice}
    (member : notice ∈ (load strict lines).notices) {user : String}
    (about : notice.section? = some user) : ∃ line ∈ lines, Means line (.enter user) := by
  obtain ⟨before, after, rest, rfl, notices, closing, _⟩ := exists_notices_load strict lines
  rw [notices] at member
  rcases List.mem_append.mp member with noted | closes
  · have sectioned : Notice.Sectioned .anonymous (noticesFrom 1 .empty before) :=
      sectioned_noticesFrom 1 .empty before
    have entered := sectioned.enter_mem noted about
    rw [directives_noticesFrom] at entered
    obtain ⟨line, among, said⟩ := List.mem_filterMap.mp entered
    exact ⟨line, List.mem_append_left after among, (directive?_eq_some_iff_means _ _).mp said⟩
  · cases (Notice.section?_of_isClosing (closing notice closes)).symm.trans about

end RuleText

/-! ### What is noted on the way to an authorizer -/

/-- Of a file that holds no text nothing is noted. -/
theorem RuleFile.notices_of_not_reads {strict : Bool} {files : FileTree} {name : Text.Loose}
    {loading : RuleText.Loading} (loaded : load strict files name = .ok loading)
    (unread : ∀ text, ¬Reads files name text) : loading.notices = [] := by
  simp only [load] at loaded
  split at loaded
  · cases loaded
  · cases loaded
    rfl
  next bytes read =>
    cases loaded
    cases decoded : Text.Utf8.decode bytes with
    | error fault => simp [loadBytes, decoded]
    | ok text =>
      exact absurd ((holdsText_iff_reads files name text).mp ⟨bytes, read, decoded⟩) (unread text)

namespace Authorizer

/-- What is noted of the choice itself comes after the notices of the load. -/
theorem exists_notices_ofLoading (path : Text.Loose) (loading : RuleText.Loading) : ∃ chosen,
    (ofLoading path loading).notices = loading.notices ++ chosen ∧
      ∀ notice ∈ chosen, notice.added? = none ∧ notice.section? = none := by
  cases came : loading.outcome with
  | error problem =>
    refine ⟨[.loadFailed path problem], by simp [ofLoading, came], ?_⟩
    simp [Notice.added?, Notice.section?]
  | ok store =>
    refine ⟨(ofStore path store).2, by simp [ofLoading, came], ?_⟩
    unfold ofStore
    split
    · split <;> simp [Notice.added?, Notice.section?]
    · simp

variable {strict : Bool} {files : FileTree} {path : Text.Loose} {selection : Selection}

/-- What is chosen by a file that holds a text has the notices of its lines first. -/
theorem exists_notices_select (named : path ≠ [])
    (selected : select strict files (some path) = .ok selection) {text : List Char}
    (reads : RuleFile.Reads files path text) : ∃ chosen,
    selection.notices = .fileRead (FileTree.Path.ofText path).text ::
        (RuleText.load strict (RuleFile.linesOf text)).notices ++ chosen ∧
      ∀ notice ∈ chosen, notice.added? = none ∧ notice.section? = none := by
  simp only [select, named, if_false, reads.load strict, Except.map] at selected
  cases selected
  exact exists_notices_ofLoading path _

/-- A section that is noted on the way to an authorizer is entered by a line of the file. -/
theorem exists_enter_of_select (named : path ≠ [])
    (selected : select strict files (some path) = .ok selection) {notice : Notice}
    (member : notice ∈ selection.notices) {user : String} (about : notice.section? = some user) :
    ∃ text, RuleFile.Reads files path text ∧
      ∃ line ∈ RuleFile.linesOf text, RuleText.Means line (.enter user) := by
  by_cases read : ∃ text, RuleFile.Reads files path text
  · obtain ⟨text, reads⟩ := read
    refine ⟨text, reads, ?_⟩
    obtain ⟨chosen, notices, others⟩ := exists_notices_select named selected reads
    rw [notices] at member
    rcases List.mem_append.mp member with loaded | choice
    · rcases List.mem_cons.mp loaded with rfl | noted
      · cases about
      · exact RuleText.exists_enter_of_section noted about
    · cases (others notice choice).2.symm.trans about
  -- Of a file without a text only the choice is noted, and that is about no section.
  · simp only [select, named, if_false] at selected
    cases loaded : RuleFile.load strict files path with
    | error fault =>
      rw [loaded] at selected
      cases selected
    | ok loading =>
      rw [loaded] at selected
      cases selected
      obtain ⟨chosen, notices, others⟩ := exists_notices_ofLoading path loading
      rw [notices, RuleFile.notices_of_not_reads loaded (not_exists.mp read)] at member
      cases (others notice member).2.symm.trans about

end Authorizer

end TopicAccess
