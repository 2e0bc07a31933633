import Mathlib.Data.List.Nodup
import TopicAccess.Proofs.Loading

/-!
# Stores that rule text gives

A directive that can be written has a filter that begins with a word, or the name of a user that is
a word (`Written.startsWord`, `Written.isWord`). What a store holds has come from directives, so it
has no more than that in it: its names are words without repetition, each has a rule, and each rule
is one that a directive states. `RuleStore.WellFormed` is kept by every directive
(`Collector.WellFormed.apply`), and so it holds of whatever a load gives
(`RuleText.wellFormed_of_load_ok`).
-/
namespace TopicAccess

open Text

/-! ### What can be written -/

/-- A filter begins with a character that is not blank. -/
theorem Written.startsWord {form : Form} {line : List Char} {rule : Rule}
    (written : Written form line (.grant rule)) : StartsWord rule.filter.toList := by
  cases written with
  | bareTopic known apart isFilter blank => simpa using isFilter.startsWord_append []
  | permittedTopic known apart isToken named apart' isFilter => simpa using isFilter

/-- A filter has no characters but those of its line. -/
theorem Written.filter_subset {form : Form} {line : List Char} {rule : Rule}
    (written : Written form line (.grant rule)) : rule.filter.toList ⊆ line := by
  intro c
  cases written with
  | bareTopic => simp +contextual
  | permittedTopic => simp +contextual

theorem Written.isWord {form : Form} {line : List Char} {name : String}
    (written : Written form line (.enter name)) : IsWord name.toList := by
  cases written with
  | user known apart isName ends => simpa using isName

/-- The rule that a directive states is of a kind, and the name in it is a word. -/
structure Directive.Fits (admits : Rule → Prop) (directive : Directive) : Prop where
  rule : ∀ rule, directive = .grant rule → admits rule
  name : ∀ name, directive = .enter name → IsWord name.toList

namespace RuleStore

/-! ### Stores -/

/-- A store whose rules are of a kind, and whose names are words that occur once and have a rule. -/
structure WellFormed (admits : Rule → Prop) (store : RuleStore) : Prop where
  anonymous : ∀ rule ∈ store.anonymous, admits rule
  distinct : store.userNames.Nodup
  isWord : ∀ entry ∈ store.users, IsWord entry.1.toList
  nonempty : ∀ entry ∈ store.users, entry.2 ≠ []
  users : ∀ entry ∈ store.users, ∀ rule ∈ entry.2, admits rule

/-- Adding a rule leaves an entry as it was or puts the rule at its end. -/
theorem mem_appendFor {name : String} {rule : Rule} {users : List (String × List Rule)}
    {entry : String × List Rule} (member : entry ∈ appendFor name rule users) :
    entry ∈ users ∨ entry = (name, [rule]) ∨
      ∃ rules, (name, rules) ∈ users ∧ entry = (name, rules ++ [rule]) := by
  induction users with
  | nil => exact .inr (.inl (List.mem_singleton.mp member))
  | cons first rest ih =>
    obtain ⟨held, rules⟩ := first
    unfold appendFor at member
    split at member
    next found =>
      subst found
      rcases List.mem_cons.mp member with rfl | later
      · exact .inr (.inr ⟨rules, List.mem_cons_self, rfl⟩)
      · exact .inl (List.mem_cons_of_mem _ later)
    · rcases List.mem_cons.mp member with rfl | later
      · exact .inl List.mem_cons_self
      · rcases ih later with old | new | ⟨rules, old, same⟩
        · exact .inl (List.mem_cons_of_mem _ old)
        · exact .inr (.inl new)
        · exact .inr (.inr ⟨rules, List.mem_cons_of_mem _ old, same⟩)

theorem WellFormed.add {admits : Rule → Prop} {store : RuleStore} (formed : store.WellFormed admits)
    {principal : Principal} (known : ∀ name, principal = .named name → IsWord name.toList)
    {rule : Rule} (admitted : admits rule) : (store.add principal rule).WellFormed admits := by
  -- A name is added only if it is not there yet.
  have distinct : (store.add principal rule).userNames.Nodup := by
    rw [userNames_add]
    cases principal with
    | anonymous => exact formed.distinct
    | named name =>
      dsimp only
      split
      · exact formed.distinct
      next new => simpa using List.Nodup.concat new formed.distinct
  cases principal with
  | anonymous =>
    refine ⟨?_, distinct, formed.isWord, formed.nonempty, formed.users⟩
    intro other member
    rcases List.mem_append.mp member with old | new
    · exact formed.anonymous other old
    · rwa [List.mem_singleton.mp new]
  | named name =>
    refine ⟨formed.anonymous, distinct, ?_, ?_, ?_⟩
    · intro entry member
      rcases mem_appendFor member with old | rfl | ⟨rules, old, rfl⟩
      · exact formed.isWord entry old
      · exact known name rfl
      · exact known name rfl
    · intro entry member
      rcases mem_appendFor member with old | rfl | ⟨rules, old, rfl⟩
      · exact formed.nonempty entry old
      · simp
      · simp
    · intro entry member other found
      rcases mem_appendFor member with old | rfl | ⟨rules, old, rfl⟩
      · exact formed.users entry old other found
      · rwa [List.mem_singleton.mp found]
      · rcases List.mem_append.mp found with old' | new
        · exact formed.users _ old other old'
        · rwa [List.mem_singleton.mp new]

/-- Where names occur once, every entry is found under its name. -/
theorem WellFormed.rulesUnder_eq {admits : Rule → Prop} {store : RuleStore}
    (formed : store.WellFormed admits) {entry : String × List Rule} (member : entry ∈ store.users) :
    store.rulesUnder entry.1 = entry.2 := by
  obtain ⟨before, after, split⟩ := List.append_of_mem member
  have distinct := formed.distinct
  rw [userNames, split, List.map_append, List.map_cons, List.nodup_append] at distinct
  -- The look-up ends at the first entry with the name, so no earlier entry may have it.
  have apart : ∀ other ∈ before, (entry.1 != other.1) = true := by
    intro other earlier
    have differs := distinct.2.2 other.1 (List.mem_map_of_mem earlier) entry.1 List.mem_cons_self
    simpa using Ne.symm differs
  have found : store.users.lookup entry.1 = some entry.2 :=
    List.lookup_eq_some_iff.mpr ⟨before, after, split, apart⟩
  rw [rulesUnder, rulesUnder?, found, Option.getD_some]

end RuleStore

namespace Collector

/-- A collector with a well-formed store, in a section whose name is a word. -/
structure WellFormed (admits : Rule → Prop) (collector : Collector) : Prop where
  store : collector.store.WellFormed admits
  current : ∀ name, collector.current = .named name → IsWord name.toList

theorem WellFormed.empty (admits : Rule → Prop) : WellFormed admits .empty where
  store := ⟨by simp [Collector.empty], by simp [Collector.empty, RuleStore.userNames],
    by simp [Collector.empty], by simp [Collector.empty], by simp [Collector.empty]⟩
  current name same := by cases same

theorem WellFormed.apply {admits : Rule → Prop} {collector : Collector}
    (formed : collector.WellFormed admits) {directive : Directive} (fits : directive.Fits admits) :
    (collector.apply directive).WellFormed admits := by
  cases directive with
  | grant rule => exact ⟨formed.store.add formed.current (fits.rule rule rfl), formed.current⟩
  | enter user =>
    refine ⟨formed.store, ?_⟩
    rintro name ⟨⟩
    exact fits.name user rfl
  | reserved => exact formed

theorem WellFormed.applyAll {admits : Rule → Prop} {collector : Collector}
    (formed : collector.WellFormed admits) {directives : List Directive}
    (fits : ∀ directive ∈ directives, directive.Fits admits) :
    (collector.applyAll directives).WellFormed admits := by
  induction directives generalizing collector with
  | nil => exact formed
  | cons directive rest ih =>
    exact ih (formed.apply (fits directive List.mem_cons_self))
      fun other member => fits other (List.mem_cons_of_mem _ member)

end Collector

namespace RuleText

/-- Whatever load succeeds gives a well-formed store, if its lines say what fits. -/
theorem wellFormed_of_load_ok {admits : Rule → Prop} {strict : Bool} {lines : List String}
    {store : RuleStore} (loaded : (load strict lines).outcome = .ok store)
    (fits : ∀ directive ∈ directives lines, directive.Fits admits) : store.WellFormed admits := by
  rw [← store_of_load_ok loaded]
  exact ((Collector.WellFormed.empty admits).applyAll fits).store

end RuleText
end TopicAccess
