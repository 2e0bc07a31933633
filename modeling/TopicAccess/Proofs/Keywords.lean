import Mathlib.Data.List.Basic
import Mathlib.Tactic.Common
import TopicAccess.Directive
import TopicAccess.Text.LowerCase

/-!
# Words that name something up to case

Keywords are recognised by their ASCII letters alone, and that is no restriction: no character
outside ASCII has a lower case made of the letters of a keyword. The only characters beyond ASCII
whose lower case holds an ASCII letter are the Kelvin sign, which gives `k`, and the dotted capital
`İ`, which gives `i` and a combining point.
-/
namespace TopicAccess.Text

/-- A small letter of ASCII other than `k`. -/
def IsPlainLetter (c : Char) : Prop := 0x61 ≤ c.toNat ∧ c.toNat ≤ 0x7A ∧ c ≠ 'k'

private theorem ofNat_not_plain {code : Nat} (bound : 0x7A < code) :
    ¬IsPlainLetter (Char.ofNat code) := by
  rintro ⟨low, high, _⟩
  by_cases valid : code.isValidChar
  · have same : (Char.ofNat code).toNat = code := by
      rw [Char.ofNat, dif_pos valid]
      rfl
    omega
  · have zero : (Char.ofNat code).toNat = 0 := by
      rw [Char.ofNat, dif_neg valid]
      rfl
    omega

/-- Beyond ASCII every run of capitals ends up above the small letters of ASCII, but for the Kelvin
sign. -/
private theorem lowerRuns_target : ∀ run ∈ lowerRuns, run.last < 0x80 ∨
    0x7A < run.first + run.shift ∨ run = ⟨0x212A, 0x212A, 1, -8383⟩ := by decide +kernel

private theorem lowerRuns_ascii : ∀ code < 0x80, lowerChar (Char.ofNat code) =
    [(Char.ofNat code).toLower] := by decide +kernel

theorem lowerChar_ascii {c : Char} (ascii : c.toNat < 0x80) : lowerChar c = [c.toLower] := by
  simpa only [Char.ofNat_toNat] using lowerRuns_ascii c.toNat ascii

theorem toLower_of_not_ascii {c : Char} (beyond : 0x80 ≤ c.toNat) : c.toLower = c := by
  unfold Char.toLower
  rw [dif_neg]
  rintro ⟨_, high⟩
  have bound : c.toNat ≤ 0x5A := high
  omega

private theorem target_not_plain {run : CaseRun} (member : run ∈ lowerRuns) {code : Nat}
    (beyond : 0x80 ≤ code) (covered : run.covers code = true) :
    ¬IsPlainLetter (Char.ofNat (run.target code)) := by
  simp only [CaseRun.covers, Bool.and_eq_true, decide_eq_true_eq] at covered
  obtain ⟨⟨lower, upper⟩, _⟩ := covered
  rcases lowerRuns_target run member with low | high | rfl
  · omega
  · apply ofNat_not_plain
    unfold CaseRun.target
    omega
  · have same : code = 0x212A := Nat.le_antisymm upper lower
    subst same
    exact fun plain => plain.2.2 (by decide)

/-- The lower case of a character beyond ASCII is not made of plain letters. -/
theorem exists_not_plain_lowerChar {c : Char} (beyond : 0x80 ≤ c.toNat) :
    ∃ d ∈ lowerChar c, ¬IsPlainLetter d := by
  unfold lowerChar
  split
  next codes expansion =>
    -- The dotted capital is the only expansion.
    have dotted : c.toNat = 0x130 := by
      by_contra other
      have differs : (c.toNat == 0x130) = false := by simpa using other
      simp [lowerExpansions, List.lookup_cons, differs] at expansion
    rw [dotted] at expansion
    cases expansion
    exact ⟨'\u0307', by decide, by simp [IsPlainLetter]⟩
  · split
    next run found =>
      have covered := List.find?_some found
      exact ⟨_, List.mem_singleton_self _,
        target_not_plain (List.mem_of_find?_eq_some found) beyond covered⟩
    · refine ⟨c, List.mem_singleton_self _, ?_⟩
      rintro ⟨_, high, _⟩
      omega

/-- For texts of plain letters, lower case is a matter of the ASCII capitals alone. -/
theorem lower_eq_iff {text : List Char} (plain : ∀ c ∈ text, IsPlainLetter c) (word : List Char) :
    lower word = text ↔ word.map Char.toLower = text := by
  by_cases ascii : ∀ c ∈ word, c.toNat < 0x80
  · have same : lower word = word.map Char.toLower := by
      unfold lower
      rw [List.map_eq_flatMap]
      exact List.flatMap_congr fun c member => lowerChar_ascii (ascii c member)
    rw [same]
  · simp only [not_forall, Nat.not_lt] at ascii
    obtain ⟨c, member, beyond⟩ := ascii
    -- Such a character keeps either change of case from giving plain letters throughout.
    obtain ⟨d, inLower, notPlain⟩ := exists_not_plain_lowerChar beyond
    constructor
    · intro same
      exact absurd (plain d (same ▸ List.mem_flatMap.mpr ⟨c, member, inLower⟩)) notPlain
    · intro same
      have kept : c ∈ word.map Char.toLower :=
        List.mem_map.mpr ⟨c, member, toLower_of_not_ascii beyond⟩
      obtain ⟨_, high, _⟩ := plain c (same ▸ kept)
      omega

end TopicAccess.Text

namespace TopicAccess

theorem Keyword.text_plain (keyword : Keyword) : ∀ c ∈ keyword.text, Text.IsPlainLetter c := by
  cases keyword <;> simp [Keyword.text, Text.IsPlainLetter]

/-- A word is a keyword when that is its lower case. -/
theorem Keyword.ofWord?_eq_some_iff (word : List Char) (keyword : Keyword) :
    Keyword.ofWord? word = some keyword ↔ Text.lower word = keyword.text := by
  rw [Text.lower_eq_iff keyword.text_plain]
  unfold Keyword.ofWord?
  constructor
  · intro found
    dsimp only at found
    split at found
    next same => cases found; exact same
    · split at found
      next same => cases found; exact same
      · split at found
        next same => cases found; exact same
        · cases found
  · intro same
    rw [same]
    cases keyword <;> decide

def Permission.capitals : Permission → List Char
  | read => ['R', 'E', 'A', 'D']
  | write => ['W', 'R', 'I', 'T', 'E']
  | readWrite => ['R', 'E', 'A', 'D', 'W', 'R', 'I', 'T', 'E']

/-- A token is a permission when its upper case is the name of one in capitals. -/
theorem Permission.ofToken?_eq_some_iff (token : List Char) (permission : Permission) :
    Permission.ofToken? token = some permission ↔ Text.upper token = permission.capitals := by
  unfold Permission.ofToken?
  constructor
  · intro found
    dsimp only at found
    split at found
    next same => cases found; exact same
    · split at found
      next same => cases found; exact same
      · split at found
        next same => cases found; exact same
        · cases found
  · intro same
    rw [same]
    cases permission <;> decide

end TopicAccess
