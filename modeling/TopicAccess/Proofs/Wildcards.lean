import Mathlib.Tactic.Common
import TopicAccess.Topic.Filter

/-!
# What filters cover

`Covers` says which topics the levels of a filter stand for, without regard to how the levels are
compared. Where the wildcards of a filter stand where they may, the comparison decides just that
(`levelsMatch_iff_covers`), and a filter covers itself in the sense of the relation as well
(`Covers.refl`). So the first main result, `covers_exact`, has no case apart for a topic and a
filter that are the same text.

The placement of wildcards is read position by position (`wellPlaced_iff`), which gives the ways in
which a filter can be malformed. The second main result, `covers_malformed_iff`, says what such a
filter covers: itself, and nothing else.
-/
namespace TopicAccess.Topic

/-! ### Levels that stand for levels -/

/-- The levels of a filter cover those of a topic. The level `#` covers all that remain, possibly
none, and has nothing behind it; the level `+` covers one level, whatever it is; any other level
covers a level that is the same. -/
inductive Covers : List (List Char) → List (List Char) → Prop
  | done : Covers [] []
  | remaining (topic : List (List Char)) : Covers [['#']] topic
  | single {filter topic : List (List Char)} (level : List Char) (later : Covers filter topic) :
      Covers (['+'] :: filter) (level :: topic)
  | same {filter topic : List (List Char)} {level : List Char} (notSingle : level ≠ ['+'])
      (notMulti : level ≠ ['#']) (later : Covers filter topic) :
      Covers (level :: filter) (level :: topic)

theorem covers_nil_iff (topic : List (List Char)) : Covers [] topic ↔ topic = [] := by
  constructor
  · rintro ⟨⟩
    rfl
  · rintro rfl
    exact .done

/-- Any level but `#` needs a level of the topic that it covers. -/
theorem covers_cons_iff {level : List Char} (notMulti : level ≠ ['#'])
    (filter topic : List (List Char)) : Covers (level :: filter) topic ↔
      ∃ actual others, topic = actual :: others ∧ (level = ['+'] ∨ level = actual) ∧
        Covers filter others := by
  constructor
  · intro covered
    cases covered with
    | remaining => exact absurd rfl notMulti
    | single actual later => exact ⟨actual, _, rfl, .inl rfl, later⟩
    | same _ _ later => exact ⟨level, _, rfl, .inr rfl, later⟩
  · rintro ⟨actual, others, rfl, agrees, later⟩
    by_cases single : level = ['+']
    · rw [single]
      exact .single actual later
    · obtain rfl := agrees.resolve_left single
      exact .same single notMulti later

/-! ### Where wildcards may stand -/

/-- The wildcards in a level stand where they may, with these levels behind it: `#` is a level by
itself and the last one, and `+` is a level by itself. -/
structure Placed (level : List Char) (rest : List (List Char)) : Prop where
  multi : '#' ∈ level → level = ['#'] ∧ rest = []
  single : '+' ∈ level → level = ['+']

theorem wellPlaced_cons_iff (level : List Char) (rest : List (List Char)) :
    wellPlaced (level :: rest) = true ↔ Placed level rest ∧ wellPlaced rest = true := by
  -- The two tests of the level are implications that have been written with `or`.
  have multi : (!level.contains '#' || (level == multiLevel && rest.isEmpty)) = true ↔
      ('#' ∈ level → level = ['#'] ∧ rest = []) := by
    simp [multiLevel, imp_iff_not_or]
  have single : (!level.contains '+' || level == singleLevel) = true ↔
      ('+' ∈ level → level = ['+']) := by
    simp [singleLevel, imp_iff_not_or]
  rw [wellPlaced, Bool.and_eq_true, Bool.and_eq_true, multi, single]
  constructor
  · rintro ⟨⟨multi, single⟩, later⟩
    exact ⟨⟨multi, single⟩, later⟩
  · rintro ⟨placed, later⟩
    exact ⟨⟨placed.multi, placed.single⟩, later⟩

/-- Wildcards stand where they may when they do so in every level, whatever stands before it. -/
theorem wellPlaced_iff (levels : List (List Char)) : wellPlaced levels = true ↔
    ∀ before level after, levels = before ++ level :: after → Placed level after := by
  induction levels with
  | nil => simp [wellPlaced]
  | cons first rest ih =>
    rw [wellPlaced_cons_iff, ih]
    constructor
    · rintro ⟨placed, later⟩ before level after split
      rcases List.cons_eq_append_iff.mp split with ⟨_, here⟩ | ⟨earlier, _, behind⟩
      · obtain ⟨rfl, rfl⟩ := List.cons.inj here
        exact placed
      · exact later earlier level after behind
    · intro every
      exact ⟨every [] first rest rfl, fun before level after split =>
        every (first :: before) level after (by rw [split, List.cons_append])⟩

/-- The ways in which a filter can be malformed: it is empty, `#` stands in a longer level or before
another one, or `+` stands in a longer level. -/
inductive Malformed (filter : String) : Prop
  | empty (same : filter = "")
  | multi {before after : List (List Char)} {level : List Char}
      (split : levels filter = before ++ level :: after) (held : '#' ∈ level)
      (misplaced : level ≠ ['#'] ∨ after ≠ [])
  | single {level : List Char} (member : level ∈ levels filter) (held : '+' ∈ level)
      (misplaced : level ≠ ['+'])

theorem malformed_iff (filter : String) : Malformed filter ↔ isWellFormed filter = false := by
  have wellFormed : isWellFormed filter = true ↔ filter ≠ "" ∧ ∀ before level after,
      levels filter = before ++ level :: after → Placed level after := by
    rw [isWellFormed, Bool.and_eq_true, bne_iff_ne, wellPlaced_iff]
  rw [← Bool.not_eq_true, wellFormed]
  constructor
  · rintro malformed ⟨nonempty, placed⟩
    cases malformed with
    | empty same => exact nonempty same
    | multi split held misplaced =>
      obtain ⟨alone, last⟩ := (placed _ _ _ split).multi held
      exact misplaced.elim (· alone) (· last)
    | single member held misplaced =>
      obtain ⟨before, after, split⟩ := List.append_of_mem member
      exact misplaced ((placed _ _ _ split).single held)
  -- A filter with none of the faults is placed well in each of its levels.
  · intro unfit
    by_contra faultless
    refine unfit ⟨fun same => faultless (.empty same), fun before level after split => ⟨?_, ?_⟩⟩
    · intro held
      by_contra misplaced
      exact faultless (.multi split held (by rwa [← not_and_or]))
    · intro held
      by_contra misplaced
      exact faultless (.single (by rw [split]; simp) held misplaced)

/-! ### The comparison of levels -/

theorem levelsMatch_cons_iff {level : List Char} (notMulti : level ≠ ['#'])
    (filter topic : List (List Char)) : levelsMatch (level :: filter) topic = true ↔
      ∃ actual others, topic = actual :: others ∧ (level = ['+'] ∨ level = actual) ∧
        levelsMatch filter others = true := by
  have differs : level ≠ multiLevel := notMulti
  cases topic with
  | nil => simp [levelsMatch, differs]
  | cons actual others => simp [levelsMatch, differs, singleLevel]

/-- Where its wildcards stand where they may, a filter matches the topics that it covers. Anywhere
else a level `#` would end the comparison with levels of the filter left over. -/
theorem levelsMatch_iff_covers {filter : List (List Char)} (placed : wellPlaced filter = true)
    (topic : List (List Char)) : levelsMatch filter topic = true ↔ Covers filter topic := by
  induction filter generalizing topic with
  | nil => simp [levelsMatch, covers_nil_iff]
  | cons level rest ih =>
    obtain ⟨here, later⟩ := (wellPlaced_cons_iff level rest).mp placed
    by_cases multi : level = ['#']
    · obtain ⟨_, rfl⟩ := here.multi (by simp [multi])
      rw [multi]
      exact ⟨fun _ => .remaining topic, fun _ => by simp [levelsMatch, multiLevel]⟩
    · rw [levelsMatch_cons_iff multi, covers_cons_iff multi]
      simp only [ih later]

/-- A filter whose wildcards stand where they may covers its own text. -/
theorem Covers.refl {levels : List (List Char)} (placed : wellPlaced levels = true) :
    Covers levels levels := by
  induction levels with
  | nil => exact .done
  | cons level rest ih =>
    obtain ⟨here, later⟩ := (wellPlaced_cons_iff level rest).mp placed
    by_cases multi : level = ['#']
    · obtain ⟨rfl, rfl⟩ := here.multi (by simp [multi])
      exact .remaining _
    · exact (covers_cons_iff multi rest _).mpr ⟨level, rest, rfl, .inr rfl, ih later⟩

/-- The same position by position: each level of the filter up to a level `#` needs a level of the
topic at its place, and without a level `#` there are as many levels on both sides. -/
theorem covers_iff_positions {filter : List (List Char)} (placed : wellPlaced filter = true)
    (topic : List (List Char)) : Covers filter topic ↔
      (∀ (i : Nat) (level : List Char), filter[i]? = some level → level = ['#'] ∨
        ∃ actual, topic[i]? = some actual ∧ (level = ['+'] ∨ level = actual)) ∧
      (['#'] ∈ filter ∨ filter.length = topic.length) := by
  induction filter generalizing topic with
  | nil => simp [covers_nil_iff, eq_comm]
  | cons level rest ih =>
    obtain ⟨here, later⟩ := (wellPlaced_cons_iff level rest).mp placed
    rw [← Nat.and_forall_add_one]
    by_cases multi : level = ['#']
    · obtain ⟨_, rfl⟩ := here.multi (by simp [multi])
      subst multi
      simpa using Covers.remaining topic
    -- The first position is that of the first level, and the others are those of the rest.
    · rw [covers_cons_iff multi]
      cases topic with
      | nil => simp [multi]
      | cons actual others =>
        have notHere : ['#'] ≠ level := Ne.symm multi
        simp [ih later, multi, notHere, and_assoc]

/-! ### Whole filters -/

/-- **What a well-formed filter covers.** A topic is covered exactly when its levels are covered by
those of the filter, whatever characters the topic is made of: at each place up to a level `#` of
the filter it has a level that agrees, and without a level `#` it has as many levels as the filter.
The comparison of levels alone says so, even where topic and filter are the same text. -/
theorem covers_exact (topic filter : String) (wellFormed : isWellFormed filter = true) :
    covers topic filter = levelsMatch (levels filter) (levels topic) ∧
      (covers topic filter = true ↔ Covers (levels filter) (levels topic)) ∧
      (covers topic filter = true ↔
        (∀ (i : Nat) (level : List Char), (levels filter)[i]? = some level → level = ['#'] ∨
          ∃ actual, (levels topic)[i]? = some actual ∧ (level = ['+'] ∨ level = actual)) ∧
        (['#'] ∈ levels filter ∨ (levels filter).length = (levels topic).length)) := by
  have placed : wellPlaced (levels filter) = true := by
    rw [isWellFormed, Bool.and_eq_true] at wellFormed
    exact wellFormed.2
  have compared := levelsMatch_iff_covers placed (levels topic)
  have agrees : covers topic filter = levelsMatch (levels filter) (levels topic) := by
    by_cases same : topic = filter
    -- The text is taken without a comparison, and the comparison would have taken it too.
    · subst same
      rw [compared.mpr (.refl placed)]
      simp [covers]
    · simp [covers, same, wellFormed]
  refine ⟨agrees, by rw [agrees, compared], ?_⟩
  rw [agrees, compared]
  exact covers_iff_positions placed (levels topic)

/-- A topic with wildcards in it, an empty level that `+` covers, and no level left for `#`. -/
theorem covers_exact_empty_level : isWellFormed "+/a/+/#" = true ∧
    covers "#/a/" "+/a/+/#" = true ∧ Covers (levels "+/a/+/#") (levels "#/a/") := by
  have wellFormed : isWellFormed "+/a/+/#" = true := by decide
  have covered : covers "#/a/" "+/a/+/#" = true := by decide
  exact ⟨wellFormed, covered, (covers_exact _ _ wellFormed).2.1.mp covered⟩

/-- **What a malformed filter covers.** A filter that is refused has one of three faults, and
whatever the fault, no topic is covered but the one that is the same text. -/
theorem covers_malformed_iff (topic filter : String) (refused : isWellFormed filter = false) :
    Malformed filter ∧ (covers topic filter = false ↔ topic ≠ filter) := by
  refine ⟨(malformed_iff filter).mpr refused, ?_⟩
  rw [covers, refused, Bool.false_and, Bool.or_false, beq_eq_false_iff_ne]

/-- With `#` before the last level a filter does not even cover what its first levels lead to. -/
theorem covers_malformed_inner_multi :
    isWellFormed "a/#/b" = false ∧ covers "a/c/b" "a/#/b" = false := by
  have refused : isWellFormed "a/#/b" = false := by decide
  exact ⟨refused, (covers_malformed_iff "a/c/b" "a/#/b" refused).2.mpr (by decide)⟩

/-- Malformed filters do not all cover nothing: the text of one is a topic that it covers. -/
theorem covers_malformed_itself : isWellFormed "a#" = false ∧ covers "a#" "a#" = true ∧
    ¬∀ topic filter, isWellFormed filter = false → covers topic filter = false := by
  have refused : isWellFormed "a#" = false := by decide
  have covered : covers "a#" "a#" = true := by decide
  refine ⟨refused, covered, fun nothing => ?_⟩
  cases (nothing "a#" "a#" refused).symm.trans covered

end TopicAccess.Topic
