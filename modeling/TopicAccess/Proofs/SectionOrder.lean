import TopicAccess.Proofs.Attribution
import TopicAccess.Proofs.FirstMatch

/-!
# The order of sections

A line that enters the section of a user forgets what section was left, so the rules of a text are
put together from those of its blocks wherever a block begins with such a line (`rulesFor_blocks`).
When two neighbouring blocks change places, the rules of a user are only put in another order, and
the order of rules is not seen in what they allow (`Decision.search_allowed_congr`). The main result
is `load_reordered`.
-/
namespace TopicAccess

namespace Directive

theorem rulesFor_enter (principal owner : Principal) (user : String) (rest : List Directive) :
    rulesFor principal owner (enter user :: rest) = rulesFor principal (.named user) rest := by
  rw [rulesFor_cons]
  simp

/-- A name is among the owners when it owns a rule. -/
theorem mem_namesFrom_iff (owner : Principal) (directives : List Directive) (name : String) :
    name ∈ namesFrom owner directives ↔ rulesFor (.named name) owner directives ≠ [] := by
  constructor
  · intro member
    obtain ⟨⟨principal, rule⟩, held, named⟩ := List.mem_filterMap.mp member
    cases principal with
    | anonymous => cases named
    | named =>
      cases named
      exact List.ne_nil_of_mem ((mem_rulesFor_iff _ _ _ rule).mpr
        ((mem_ownedFrom_iff _ _ _ _).mp held))
  · intro nonempty
    obtain ⟨rule, held⟩ := List.exists_mem_of_ne_nil _ nonempty
    have owned := (mem_ownedFrom_iff _ _ _ _).mpr ((mem_rulesFor_iff _ _ _ _).mp held)
    exact List.mem_filterMap.mpr ⟨_, owned, rfl⟩

end Directive

/-- What is allowed does not depend on the order of the rules, nor on how often one of them
occurs. -/
theorem Decision.search_allowed_congr (covers : Matcher) (operation : Operation) (topic : String)
    {rules rules' : List Rule} (same : ∀ rule, rule ∈ rules ↔ rule ∈ rules') :
    (search covers operation topic rules).allowed =
      (search covers operation topic rules').allowed := by
  rw [Bool.eq_iff_iff]
  simp only [search_allowed_iff, same]

namespace RuleText

open Directive (rulesFor)

/-! ### Blocks -/

/-- Lines of which the first enters the section of a user. -/
inductive BeginsSection : List String → Prop
  | intro {line user : String} (enters : Means line (.enter user)) (rest : List String) :
      BeginsSection (line :: rest)

/-- Some line of a block states a rule in a section of a user that is entered in the block. -/
def StatesFor (user : String) (block : List String) : Prop :=
  ∃ place rule, DeclaredAt EntersSection block (.named user) place rule

theorem statesFor_iff (user : String) (block : List String) :
    StatesFor user block ↔ rulesFor (.named user) .anonymous (directives block) ≠ [] := by
  constructor
  · rintro ⟨place, rule, declared⟩
    exact List.ne_nil_of_mem ((mem_rulesFor_iff_declaredAt _ _ _).mpr ⟨place, declared⟩)
  · intro nonempty
    obtain ⟨rule, held⟩ := List.exists_mem_of_ne_nil _ nonempty
    obtain ⟨place, declared⟩ := (mem_rulesFor_iff_declaredAt _ _ _).mp held
    exact ⟨place, rule, declared⟩

theorem BeginsSection.append {block : List String} (begins : BeginsSection block)
    (more : List String) : BeginsSection (block ++ more) := by
  cases begins with
  | intro enters rest => exact .intro enters (rest ++ more)

/-- The directives of a block begin with the one that enters its first section. -/
theorem BeginsSection.directives_eq {block : List String} (begins : BeginsSection block) :
    ∃ user rest, directives block = .enter user :: rest := by
  cases begins with
  | @intro line user enters rest =>
    refine ⟨user, directives rest, ?_⟩
    rw [directives_cons, (directive?_eq_some_iff_means _ _).mpr enters]
    rfl

/-- A block states no rules for anonymous clients. -/
theorem BeginsSection.rulesFor_anonymous {block : List String} (begins : BeginsSection block) :
    rulesFor .anonymous .anonymous (directives block) = [] := by
  obtain ⟨user, rest, said⟩ := begins.directives_eq
  rw [said, Directive.rulesFor_enter, Directive.rulesFor_anonymous_named]

/-- Whatever section the lines before a block end in, the block is read as if nothing stood before
it. -/
theorem rulesFor_append_block (principal : Principal) (before : List String) {block : List String}
    (begins : block = [] ∨ BeginsSection block) :
    rulesFor principal .anonymous (directives (before ++ block)) =
      rulesFor principal .anonymous (directives before) ++
        rulesFor principal .anonymous (directives block) := by
  rw [directives_append, Directive.rulesFor_append]
  rcases begins with rfl | begins
  · rfl
  · obtain ⟨user, rest, said⟩ := begins.directives_eq
    rw [said, Directive.rulesFor_enter, Directive.rulesFor_enter]

section Blocks

variable (principal : Principal) (pre : List String) {first second post : List String}
  (begins : BeginsSection first) (begins' : BeginsSection second)
  (follows : post = [] ∨ BeginsSection post)

include begins begins' follows

theorem rulesFor_blocks :
    rulesFor principal .anonymous (directives (pre ++ first ++ second ++ post)) =
      rulesFor principal .anonymous (directives pre) ++
        rulesFor principal .anonymous (directives first) ++
        rulesFor principal .anonymous (directives second) ++
        rulesFor principal .anonymous (directives post) := by
  rw [rulesFor_append_block principal _ follows, rulesFor_append_block principal _ (.inr begins'),
    rulesFor_append_block principal _ (.inr begins)]

/-- When two blocks change places, the rules of a principal are put in another order. -/
theorem rulesFor_swap_perm :
    (rulesFor principal .anonymous (directives (pre ++ second ++ first ++ post))).Perm
      (rulesFor principal .anonymous (directives (pre ++ first ++ second ++ post))) := by
  rw [rulesFor_blocks principal pre begins' begins follows,
    rulesFor_blocks principal pre begins begins' follows]
  -- What stands before and behind the two blocks keeps its place.
  simp only [List.append_assoc]
  apply List.Perm.append_left
  simp only [← List.append_assoc]
  exact List.perm_append_comm.append_right _

/-- The order of the rules stays as well where one of the blocks states no rule of the principal. -/
theorem rulesFor_swap_eq (oneSided : rulesFor principal .anonymous (directives first) = [] ∨
    rulesFor principal .anonymous (directives second) = []) :
    rulesFor principal .anonymous (directives (pre ++ second ++ first ++ post)) =
      rulesFor principal .anonymous (directives (pre ++ first ++ second ++ post)) := by
  rw [rulesFor_blocks principal pre begins' begins follows,
    rulesFor_blocks principal pre begins begins' follows]
  rcases oneSided with none | none <;> simp [none]

end Blocks

/-! ### Loading -/

/-- **Order of sections.** Two neighbouring blocks of lines, each beginning with a line that enters
the section of a user, change places in a text that goes on with such a line or ends there. Lenient
loading gives anonymous clients the same rules, knows the same names, and gives each user the same
rules in an order that may be another; and whatever is asked about access, the same is allowed.
Where no user is given rules in both blocks, the order of every user's rules is the same as
well. -/
theorem load_reordered (pre first second post : List String) (begins : BeginsSection first)
    (begins' : BeginsSection second) (follows : post = [] ∨ BeginsSection post) :
    ∃ store store', (load false (pre ++ first ++ second ++ post)).outcome = .ok store ∧
      (load false (pre ++ second ++ first ++ post)).outcome = .ok store' ∧
      store'.anonymous = store.anonymous ∧
      (∀ name, name ∈ store'.userNames ↔ name ∈ store.userNames) ∧
      (∀ user, (store'.rulesUnder user).Perm (store.rulesUnder user)) ∧
      (∀ (covers : Matcher) (operation : Operation) (topic : String) (user : Option String),
        ∃ decision decision',
          store.answer covers (.access operation topic user) = .decision decision ∧
          store'.answer covers (.access operation topic user) = .decision decision' ∧
          decision'.allowed = decision.allowed) ∧
      ((∀ user, ¬(StatesFor user first ∧ StatesFor user second)) →
        ∀ user, store'.rulesUnder user = store.rulesUnder user) := by
  have gathered := Collector.Collected.empty.applyAll (directives (pre ++ first ++ second ++ post))
  have gathered' := Collector.Collected.empty.applyAll (directives (pre ++ second ++ first ++ post))
  rw [List.nil_append] at gathered gathered'
  have perm := fun principal => rulesFor_swap_perm principal pre begins begins' follows
  refine ⟨_, _, loadFrom_lenient 1 rfl _, loadFrom_lenient 1 rfl _, ?_, ?_, ?_, ?_, ?_⟩
  -- The blocks belong to users from their first line on.
  · have same := rulesFor_swap_eq .anonymous pre begins begins' follows
      (.inl begins.rulesFor_anonymous)
    rwa [← gathered.rules, ← gathered'.rules] at same
  -- The names are those with a rule, and how many rules a user has stays the same.
  · intro name
    rw [gathered.names, gathered'.names, List.mem_eraseDups, List.mem_eraseDups,
      Directive.mem_namesFrom_iff, Directive.mem_namesFrom_iff, ← List.length_pos_iff,
      ← List.length_pos_iff, (perm (.named name)).length_eq]
  · intro user
    have same := perm (.named user)
    rwa [← gathered.rules, ← gathered'.rules] at same
  -- An answer searches the rules of one principal, and only whether one allows is compared.
  · intro covers operation topic user
    refine ⟨_, _, rfl, rfl, ?_⟩
    rw [RuleStore.decision_eq, RuleStore.decision_eq]
    apply Decision.search_allowed_congr
    intro rule
    rw [gathered.rules, gathered'.rules]
    exact (perm (.ofUser user)).mem_iff
  · intro apart user
    have oneSided : rulesFor (.named user) .anonymous (directives first) = [] ∨
        rulesFor (.named user) .anonymous (directives second) = [] := by
      have missing := apart user
      rw [statesFor_iff, statesFor_iff] at missing
      tauto
    have same := rulesFor_swap_eq (.named user) pre begins begins' follows oneSided
    rwa [← gathered.rules, ← gathered'.rules] at same

/-- The sections of two users change places before a section of the first of them, the second one
being indented and with a comment in it. The names are listed in another order, the rules are
not. -/
theorem load_reordered_two_users :
    let pre := ["topic a"]
    let first := ["user bob", "topic b", "nonsense"]
    let second := ["\tuser eve", "# topic b", "topic write c"]
    let post := ["user bob", "topic read d"]
    BeginsSection first ∧ BeginsSection second ∧ BeginsSection post ∧
    (∀ user, ¬(StatesFor user first ∧ StatesFor user second)) ∧
    ∃ store store', (load false (pre ++ first ++ second ++ post)).outcome = .ok store ∧
      (load false (pre ++ second ++ first ++ post)).outcome = .ok store' ∧
      store.userNames = ["bob", "eve"] ∧ store'.userNames = ["eve", "bob"] ∧
      ∀ user, store'.rulesUnder user = store.rulesUnder user := by
  intro pre first second post
  have begins : BeginsSection first :=
    .intro ((directive?_eq_some_iff_means "user bob" (.enter "bob")).mp (by decide +kernel)) _
  have begins' : BeginsSection second :=
    .intro ((directive?_eq_some_iff_means "\tuser eve" (.enter "eve")).mp (by decide +kernel)) _
  have follows : BeginsSection post :=
    .intro ((directive?_eq_some_iff_means "user bob" (.enter "bob")).mp (by decide +kernel)) _
  have said : directives first = [.enter "bob", .grant ⟨"b", .readWrite⟩] := by decide +kernel
  have said' : directives second = [.enter "eve", .grant ⟨"c", .write⟩] := by decide +kernel
  have apart : ∀ user, ¬(StatesFor user first ∧ StatesFor user second) := by
    intro user
    rw [statesFor_iff, statesFor_iff, said, said', Directive.rulesFor_enter,
      Directive.rulesFor_enter]
    rintro ⟨bob, eve⟩
    have same : "bob" = user := by simpa using bob
    have same' : "eve" = user := by simpa using eve
    exact absurd (same.trans same'.symm) (by decide)
  obtain ⟨store, store', loaded, loaded', -, -, -, -, identical⟩ :=
    load_reordered pre first second post begins begins' (.inr follows)
  have names : store.userNames = ["bob", "eve"] := by
    rw [← store_of_load_ok loaded]
    decide +kernel
  have names' : store'.userNames = ["eve", "bob"] := by
    rw [← store_of_load_ok loaded']
    decide +kernel
  exact ⟨begins, begins', follows, apart, store, store', loaded, loaded', names, names',
    identical apart⟩

end RuleText
end TopicAccess
