import Mathlib.Data.List.Basic
import Mathlib.Tactic.Common
import TopicAccess.Directive
import TopicAccess.Principal

/-!
# Whose rule it is

The owner of a rule is fixed by the directives before it: it is the principal whom the last `user`
directive among them names. `ownedFrom` says this position by position, without a state that is
carried along. The laws for `++` make it a computation that can be cut anywhere.
-/
namespace TopicAccess.Directive

/-- The name of the section that a directive enters. -/
def user? : Directive → Option String
  | enter user => some user
  | _ => none

/-- The rule that a directive states. -/
def rule? : Directive → Option Rule
  | grant rule => some rule
  | _ => none

@[simp] theorem user?_enter (user : String) : (enter user).user? = some user := rfl
@[simp] theorem user?_grant (rule : Rule) : (grant rule).user? = none := rfl
@[simp] theorem user?_reserved : reserved.user? = none := rfl
@[simp] theorem rule?_enter (user : String) : (enter user).rule? = none := rfl
@[simp] theorem rule?_grant (rule : Rule) : (grant rule).rule? = some rule := rfl
@[simp] theorem rule?_reserved : reserved.rule? = none := rfl

/-- The name in the last `user` directive. -/
def lastUser (directives : List Directive) : Option String :=
  (directives.filterMap user?).getLast?

/-- The owner of a rule that follows the directives: the name in the last `user` directive, and
where there is none the given owner. -/
def ownerAfter (owner : Principal) (directives : List Directive) : Principal :=
  match lastUser directives with
  | some user => .named user
  | none => owner

/-- The rules of directives that begin in the section of an owner, each with its own owner. -/
def ownedFrom (owner : Principal) (directives : List Directive) : List (Principal × Rule) :=
  (List.range directives.length).filterMap fun i =>
    ((directives[i]?).bind rule?).map fun rule => (ownerAfter owner (directives.take i), rule)

/-- The rules of one principal among the rules of directives. -/
def rulesFor (principal owner : Principal) (directives : List Directive) : List Rule :=
  ((ownedFrom owner directives).filter (·.1 = principal)).map (·.2)

/-- The named owners of the rules of directives, one for each rule. -/
def namesFrom (owner : Principal) (directives : List Directive) : List String :=
  (ownedFrom owner directives).filterMap (·.1.user?)

/-! ### Owners -/

@[simp] theorem ownerAfter_nil (owner : Principal) : ownerAfter owner [] = owner := rfl

theorem ownerAfter_append (owner : Principal) (before after : List Directive) :
    ownerAfter owner (before ++ after) = ownerAfter (ownerAfter owner before) after := by
  unfold ownerAfter lastUser
  rw [List.filterMap_append, List.getLast?_append]
  cases (after.filterMap user?).getLast? <;> rfl

@[simp] theorem ownerAfter_grant (owner : Principal) (rule : Rule) :
    ownerAfter owner [grant rule] = owner := rfl

@[simp] theorem ownerAfter_enter (owner : Principal) (user : String) :
    ownerAfter owner [enter user] = .named user := rfl

@[simp] theorem ownerAfter_reserved (owner : Principal) :
    ownerAfter owner [reserved] = owner := rfl

theorem ownerAfter_of_forall_user?_eq_none {directives : List Directive}
    (plain : ∀ directive ∈ directives, directive.user? = none) (owner : Principal) :
    ownerAfter owner directives = owner := by
  have empty : directives.filterMap user? = [] := List.filterMap_eq_nil_iff.mpr plain
  simp [ownerAfter, lastUser, empty]

theorem ownerAfter_anonymous_eq_anonymous_iff (directives : List Directive) :
    ownerAfter .anonymous directives = .anonymous ↔
      ∀ directive ∈ directives, directive.user? = none := by
  unfold ownerAfter lastUser
  rw [← List.filterMap_eq_nil_iff, ← List.getLast?_eq_none_iff]
  cases (directives.filterMap user?).getLast? <;> simp

/-- There is no way back to the rules for anonymous clients. -/
theorem ownerAfter_named_ne_anonymous (name : String) (directives : List Directive) :
    ownerAfter (.named name) directives ≠ .anonymous := by
  unfold ownerAfter
  cases lastUser directives <;> simp

/-! ### Owned rules -/

@[simp] theorem ownedFrom_nil (owner : Principal) : ownedFrom owner [] = [] := rfl

theorem ownedFrom_append (owner : Principal) (before after : List Directive) :
    ownedFrom owner (before ++ after) =
      ownedFrom owner before ++ ownedFrom (ownerAfter owner before) after := by
  unfold ownedFrom
  rw [List.length_append, List.range_add, List.filterMap_append, List.filterMap_map]
  congr 1
  -- Positions in the first part are preceded by directives of that part alone.
  · apply List.filterMap_congr
    intro i member
    have bound : i < before.length := List.mem_range.mp member
    rw [List.getElem?_append_left bound, List.take_append_of_le_length (Nat.le_of_lt bound)]
  -- Positions in the second part are preceded by all of the first.
  · apply List.filterMap_congr
    intro i _
    simp only [Function.comp_apply, List.getElem?_append_right (Nat.le_add_right _ _),
      Nat.add_sub_cancel_left, List.take_length_add_append, ownerAfter_append]

theorem ownedFrom_singleton (owner : Principal) (directive : Directive) :
    ownedFrom owner [directive] = (directive.rule?.map fun rule => (owner, rule)).toList := by
  cases directive <;> rfl

theorem namesFrom_append (owner : Principal) (before after : List Directive) :
    namesFrom owner (before ++ after) =
      namesFrom owner before ++ namesFrom (ownerAfter owner before) after := by
  simp only [namesFrom, ownedFrom_append, List.filterMap_append]

theorem namesFrom_singleton (owner : Principal) (directive : Directive) :
    namesFrom owner [directive] = (directive.rule?.bind fun _ => owner.user?).toList := by
  cases directive with
  | enter | reserved => rfl
  | grant => cases owner <;> rfl

theorem ownedFrom_cons (owner : Principal) (directive : Directive) (rest : List Directive) :
    ownedFrom owner (directive :: rest) =
      (directive.rule?.map fun rule => (owner, rule)).toList ++
        ownedFrom (ownerAfter owner [directive]) rest := by
  rw [← ownedFrom_singleton, ← ownedFrom_append]
  rfl

theorem mem_ownedFrom_iff (owner : Principal) (directives : List Directive)
    (principal : Principal) (rule : Rule) : (principal, rule) ∈ ownedFrom owner directives ↔
      ∃ before after, directives = before ++ grant rule :: after ∧
        ownerAfter owner before = principal := by
  constructor
  · intro member
    obtain ⟨i, _, placed⟩ := List.mem_filterMap.mp member
    obtain ⟨stated, found, same⟩ := Option.map_eq_some_iff.mp placed
    obtain ⟨directive, here, states⟩ := Option.bind_eq_some_iff.mp found
    cases same
    cases directive with
    | enter | reserved => cases states
    | grant =>
      cases states
      obtain ⟨bound, here⟩ := List.getElem?_eq_some_iff.mp here
      refine ⟨directives.take i, directives.drop (i + 1), ?_, rfl⟩
      rw [← here, ← List.drop_eq_getElem_cons bound, List.take_append_drop]
  · rintro ⟨before, after, rfl, rfl⟩
    rw [ownedFrom_append, ownedFrom_cons]
    exact List.mem_append_right _ List.mem_cons_self

/-! ### The rules of one principal -/

theorem rulesFor_append (principal owner : Principal) (before after : List Directive) :
    rulesFor principal owner (before ++ after) =
      rulesFor principal owner before ++ rulesFor principal (ownerAfter owner before) after := by
  simp only [rulesFor, ownedFrom_append, List.filter_append, List.map_append]

theorem rulesFor_cons (principal owner : Principal) (directive : Directive)
    (rest : List Directive) : rulesFor principal owner (directive :: rest) =
      rulesFor principal owner [directive] ++
        rulesFor principal (ownerAfter owner [directive]) rest :=
  rulesFor_append principal owner [directive] rest

@[simp] theorem rulesFor_singleton (principal owner : Principal) (directive : Directive) :
    rulesFor principal owner [directive] =
      if owner = principal then directive.rule?.toList else [] := by
  cases directive <;> by_cases same : owner = principal <;>
    simp [rulesFor, ownedFrom_singleton, same]

theorem mem_rulesFor_iff (principal owner : Principal) (directives : List Directive)
    (rule : Rule) : rule ∈ rulesFor principal owner directives ↔
      ∃ before after, directives = before ++ grant rule :: after ∧
        ownerAfter owner before = principal := by
  rw [← mem_ownedFrom_iff]
  simp [rulesFor]

/-- Before the first `user` directive all rules belong to the owner, and without one nothing belongs
to anybody else. -/
theorem rulesFor_of_forall_user?_eq_none {directives : List Directive}
    (plain : ∀ directive ∈ directives, directive.user? = none) (principal owner : Principal) :
    rulesFor principal owner directives =
      if owner = principal then directives.filterMap rule? else [] := by
  induction directives with
  | nil => simp [rulesFor]
  | cons directive rest ih =>
    have first := plain directive List.mem_cons_self
    rw [rulesFor_cons, ownerAfter_of_forall_user?_eq_none (by simpa using first),
      ih fun other member => plain other (List.mem_cons_of_mem _ member)]
    cases directive with
    | enter => cases first
    | reserved => simp [List.filterMap_cons]
    | grant rule => by_cases same : owner = principal <;> simp [same]

/-- A reader in a named section states no more rules for anonymous clients. -/
theorem rulesFor_anonymous_named (name : String) (directives : List Directive) :
    rulesFor .anonymous (.named name) directives = [] := by
  apply List.eq_nil_iff_forall_not_mem.mpr
  intro rule member
  obtain ⟨before, _, _, owner⟩ := (mem_rulesFor_iff _ _ _ _).mp member
  exact ownerAfter_named_ne_anonymous name before owner

/-- The rules for anonymous clients are those stated before the first `user` directive. -/
theorem rulesFor_anonymous (directives : List Directive) :
    rulesFor .anonymous .anonymous directives =
      (directives.takeWhile (·.user?.isNone)).filterMap rule? := by
  induction directives with
  | nil => rfl
  | cons directive rest ih =>
    rw [rulesFor_cons]
    cases directive with
    -- From the first `user` directive on nothing is added, whatever follows.
    | enter user => simp [rulesFor_anonymous_named]
    | grant | reserved => simp [ih, List.takeWhile_cons, List.filterMap_cons]

end TopicAccess.Directive
