import TopicAccess.Proofs.Lines
import TopicAccess.Proofs.Wildcards

/-!
# Filters that cover filters

A filter is a text, and so another filter can cover it as if it were a topic. Where no level of it
is `#`, every topic that it covers is then covered by the other filter as well (`covers_trans`). The
reason is in `Covers.trans`: the levels of three lists are compared at once, and a level `+` of the
middle one is covered by nothing narrower than `+`.

`Widened` says how a filter can be made to cover more. A filter without a level `#` is covered by
whatever it is widened to (`Widened.covers`), so the main result, `covers_exact_trans`, applies to
it.
-/
namespace TopicAccess.Topic

/-! ### Coverage from level to level -/

/-- Coverage is transitive if no level in the middle is `#`. Such a level is covered by `+`, which
does not cover all that it stands for. -/
theorem Covers.trans {filter middle topic : List (List Char)} (plain : ['#'] ∉ middle)
    (outer : Covers filter middle) (inner : Covers middle topic) : Covers filter topic := by
  induction outer generalizing topic with
  | done => exact inner
  | remaining => exact .remaining topic
  | single level later ih =>
    simp only [List.mem_cons, not_or] at plain
    obtain ⟨actual, others, rfl, _, behind⟩ := (covers_cons_iff (Ne.symm plain.1) _ _).mp inner
    exact .single actual (ih plain.2 behind)
  | same notSingle notMulti later ih =>
    simp only [List.mem_cons, not_or] at plain
    obtain ⟨actual, others, rfl, agrees, behind⟩ := (covers_cons_iff notMulti _ _).mp inner
    -- The level in the middle is no wildcard, so it covers itself alone.
    obtain rfl := agrees.resolve_left notSingle
    exact .same notSingle notMulti (ih plain.2 behind)

/-- A filter with more wildcards: any of its levels may have been replaced by `+`, and any run of
its last levels, possibly none, by a final `#`. -/
inductive Widened : List (List Char) → List (List Char) → Prop
  | done : Widened [] []
  | remaining (filter : List (List Char)) : Widened filter [['#']]
  | single {filter wider : List (List Char)} (level : List Char) (later : Widened filter wider) :
      Widened (level :: filter) (['+'] :: wider)
  | same {filter wider : List (List Char)} (level : List Char) (later : Widened filter wider) :
      Widened (level :: filter) (level :: wider)

theorem Widened.covers {filter wider : List (List Char)} (plain : ['#'] ∉ filter)
    (widened : Widened filter wider) : Covers wider filter := by
  induction widened with
  | done => exact .done
  | remaining filter => exact .remaining filter
  | single level later ih =>
    simp only [List.mem_cons, not_or] at plain
    exact .single level (ih plain.2)
  | same level later ih =>
    simp only [List.mem_cons, not_or] at plain
    exact (covers_cons_iff (Ne.symm plain.1) _ _).mpr ⟨level, _, rfl, .inr rfl, ih plain.2⟩

theorem Widened.wellPlaced {filter wider : List (List Char)} (plain : ['#'] ∉ filter)
    (placed : wellPlaced filter = true) (widened : Widened filter wider) :
    wellPlaced wider = true := by
  induction widened with
  | done => exact placed
  | remaining => decide
  | single level later ih =>
    simp only [List.mem_cons, not_or] at plain
    obtain ⟨_, behind⟩ := (wellPlaced_cons_iff _ _).mp placed
    exact (wellPlaced_cons_iff _ _).mpr ⟨⟨by simp, fun _ => rfl⟩, ih plain.2 behind⟩
  | same level later ih =>
    simp only [List.mem_cons, not_or] at plain
    obtain ⟨here, behind⟩ := (wellPlaced_cons_iff _ _).mp placed
    -- What stands behind a level counts only for a level `#`, and there is none.
    have free : '#' ∉ level := fun held => plain.1 (here.multi held).1.symm
    exact (wellPlaced_cons_iff _ _).mpr
      ⟨⟨fun held => absurd held free, here.single⟩, ih plain.2 behind⟩

/-! ### Coverage between texts -/

theorem levels_eq_singleton_nil_iff (text : String) : levels text = [[]] ↔ text = "" := by
  rw [levels, Text.splitAt_eq_singleton_iff]
  simp

theorem covers_eq_true_iff (topic filter : String) : covers topic filter = true ↔
    topic = filter ∨ isWellFormed filter = true ∧ Covers (levels filter) (levels topic) := by
  by_cases wellFormed : isWellFormed filter = true
  · have exact := (covers_exact topic filter wellFormed).2.1
    constructor
    · exact fun covered => .inr ⟨wellFormed, exact.mp covered⟩
    · rintro (rfl | ⟨_, covered⟩)
      · simp [Topic.covers]
      · exact exact.mpr covered
  · simp [Topic.covers, wellFormed]

theorem covers_trans {topic middle filter : String} (plain : ['#'] ∉ levels middle)
    (inner : covers topic middle = true) (outer : covers middle filter = true) :
    covers topic filter = true := by
  rw [covers_eq_true_iff] at inner outer
  -- A text that covers itself, well formed or not, can be left out of the chain.
  rcases inner with rfl | ⟨wellFormed, inner⟩
  · exact (covers_eq_true_iff _ _).mpr outer
  rcases outer with rfl | ⟨wellFormed', outer⟩
  · exact (covers_eq_true_iff _ _).mpr (.inr ⟨wellFormed, inner⟩)
  · exact (covers_eq_true_iff _ _).mpr (.inr ⟨wellFormed', outer.trans plain inner⟩)

/-- Widening makes no malformed filter of a well-formed one. -/
theorem Widened.isWellFormed {filter wider : String} (plain : ['#'] ∉ levels filter)
    (wellFormed : isWellFormed filter = true) (widened : Widened (levels filter) (levels wider)) :
    isWellFormed wider = true := by
  simp only [Topic.isWellFormed, Bool.and_eq_true, bne_iff_ne] at wellFormed ⊢
  refine ⟨?_, widened.wellPlaced plain wellFormed.2⟩
  -- The only filter that can be widened to the empty text is the empty text.
  rintro rfl
  apply wellFormed.1
  rw [show levels "" = [[]] from rfl] at widened
  generalize known : levels filter = narrow at widened
  cases widened with
  | same _ later =>
    cases later
    exact (levels_eq_singleton_nil_iff filter).mp known

/-- **Coverage between filters.** A filter covers the text of another one, no level of which is `#`,
exactly when it covers every topic that the other covers. This is so for malformed filters too, and
for topics in which wildcards occur. To widen a well-formed filter without a level `#` gives a
well-formed filter that covers every topic which it covered before. -/
theorem covers_exact_trans (middle filter : String) (plain : ['#'] ∉ levels middle) :
    (covers middle filter = true ↔
      ∀ topic, covers topic middle = true → covers topic filter = true) ∧
    (isWellFormed middle = true → Widened (levels middle) (levels filter) →
      isWellFormed filter = true ∧
        ∀ topic, covers topic middle = true → covers topic filter = true) := by
  refine ⟨⟨fun outer topic inner => covers_trans plain inner outer, fun every => ?_⟩, ?_⟩
  · exact every middle ((covers_eq_true_iff _ _).mpr (.inl rfl))
  · intro wellFormed widened
    have wellFormed' := widened.isWellFormed plain wellFormed
    have outer : covers middle filter = true :=
      (covers_eq_true_iff _ _).mpr (.inr ⟨wellFormed', widened.covers plain⟩)
    exact ⟨wellFormed', fun topic inner => covers_trans plain inner outer⟩

/-- An empty level and one that is `+` already are widened, and `#` takes the place of no level. -/
theorem covers_exact_trans_widened :
    ['#'] ∉ levels "a//+" ∧ isWellFormed "a//+" = true ∧
      Widened (levels "a//+") (levels "a/+/+/#") ∧
      covers "a//b#" "a//+" = true ∧ covers "a//b#" "a/+/+/#" = true := by
  have plain : ['#'] ∉ levels "a//+" := by decide
  have wellFormed : isWellFormed "a//+" = true := by decide
  have widened : Widened (levels "a//+") (levels "a/+/+/#") :=
    .same ['a'] (.single [] (.single ['+'] (.remaining [])))
  have covered : covers "a//b#" "a//+" = true := by decide
  obtain ⟨_, wider⟩ := (covers_exact_trans "a//+" "a/+/+/#" plain).2 wellFormed widened
  exact ⟨plain, wellFormed, widened, covered, wider "a//b#" covered⟩

-- With a level `#` in the middle a topic can be lost.
example : covers "a/b/c" "a/#" = true ∧ covers "a/#" "a/+" = true ∧
    covers "a/b/c" "a/+" = false := by
  decide

end TopicAccess.Topic
