import Mathlib
import TopicAccess.Proofs.Grammar

/-!
# Spellings of permissions

A permission is named up to upper case, and that mapping reaches ASCII capitals from outside ASCII
and makes several characters of one. `upper_eq_map_iff` says what this comes to for a name without
the letters `f` and `s`: a token has as many characters as the name, and each is the letter at its
place, its capital, or a dotless `ı` where the letter is `i`. The two letters are left out because
of ligatures, the sharp `ß` and the long `ſ`, which have them in their capitals.

The main result, `Permission.ofToken_exact`, is about the names of the permissions, and about the
second word of a line.
-/
namespace TopicAccess

namespace Text

/-! ### Upper case of characters -/

/-- The upper case of a character is its expansion, or one character further along its run, or the
character itself. -/
theorem upperChar_cases (c : Char) :
    (∃ codes, (c.toNat, codes) ∈ upperExpansions ∧ upperChar c = codes.map Char.ofNat) ∨
    (∃ run ∈ upperRuns, run.first ≤ c.toNat ∧ c.toNat ≤ run.last ∧
      upperChar c = [Char.ofNat (c.toNat + run.shift).toNat]) ∨
    upperChar c = [c] := by
  unfold upperChar
  split
  next codes found =>
    obtain ⟨before, after, split, _⟩ := List.lookup_eq_some_iff.mp found
    exact .inl ⟨codes, by simp [split], rfl⟩
  · split
    next run found =>
      have covered := List.find?_some found
      simp only [CaseRun.covers, Bool.and_eq_true, decide_eq_true_eq] at covered
      exact .inr (.inl ⟨run, List.mem_of_find?_eq_some found, covered.1.1, covered.1.2, rfl⟩)
    · exact .inr (.inr rfl)

/-- A capital of ASCII other than `F` and `S`. -/
def IsPlainCapital (c : Char) : Prop := 0x41 ≤ c.toNat ∧ c.toNat ≤ 0x5A ∧ c ≠ 'F' ∧ c ≠ 'S'

instance (c : Char) : Decidable (IsPlainCapital c) := inferInstanceAs (Decidable (_ ∧ _))

private theorem upperExpansions_facts : ∀ entry ∈ upperExpansions,
    0x80 ≤ entry.1 ∧ ∃ code ∈ entry.2, ¬IsPlainCapital (Char.ofNat code) := by decide +kernel

/-- Beyond ASCII every run of small letters ends up above the capitals of ASCII, but for the dotless
`ı` and the long `ſ`. -/
private theorem upperRuns_facts : ∀ run ∈ upperRuns,
    run.first = 0x61 ∧ run.last = 0x7A ∧ run.shift = -32 ∨
    0x80 ≤ run.first ∧ (0x5A < run.first + run.shift ∨
      run.first = 0x131 ∧ run.last = 0x131 ∨
      run.first = 0x17F ∧ run.last = 0x17F ∧ run.shift = -300) := by decide +kernel

theorem ofNat_not_isPlainCapital {code : Nat} (high : 0x5A < code) :
    ¬IsPlainCapital (Char.ofNat code) := by
  rintro ⟨positive, bound, _⟩
  rw [Char.toNat_ofNat] at positive bound
  split at positive
  next valid =>
    rw [if_pos valid] at bound
    omega
  · omega

/-- Below the small letters of ASCII upper case changes nothing. -/
theorem upperChar_of_lt {c : Char} (low : c.toNat < 0x61) : upperChar c = [c] := by
  rcases upperChar_cases c with ⟨codes, member, _⟩ | ⟨run, member, first, _⟩ | same
  · have bound := (upperExpansions_facts _ member).1
    omega
  · rcases upperRuns_facts run member with ⟨lower, _⟩ | ⟨high, _⟩ <;> omega
  · exact same

theorem isLower_iff (c : Char) : c.isLower = true ↔ 0x61 ≤ c.toNat ∧ c.toNat ≤ 0x7A := by
  simp only [Char.isLower, Bool.and_eq_true, decide_eq_true_eq]
  exact Iff.rfl

theorem upperChar_of_isLower {c : Char} (small : c.isLower = true) : upperChar c = [c.toUpper] := by
  have all : ∀ code < 0x7B, 0x61 ≤ code →
      upperChar (Char.ofNat code) = [Char.ofNat (code - 0x20)] := by decide +kernel
  obtain ⟨lower, upper⟩ := (isLower_iff c).mp small
  have here := all c.toNat (by omega) lower
  rwa [Char.ofNat_toNat, ← Char.toUpper_eq_of_isLower small] at here

/-- A character whose upper case is made of plain capitals is such a capital, a small letter of
ASCII or a dotless `ı`. -/
theorem cases_of_upperChar {c : Char} (plain : ∀ d ∈ upperChar c, IsPlainCapital d) :
    upperChar c = [c] ∨ c.isLower = true ∨ c = 'ı' := by
  rcases upperChar_cases c with ⟨codes, member, expanded⟩ | ⟨run, member, first, last, moved⟩ | same
  -- An expansion has a character that is no plain capital.
  · obtain ⟨_, code, found, other⟩ := upperExpansions_facts _ member
    rw [expanded] at plain
    exact absurd (plain _ (List.mem_map_of_mem found)) other
  -- A run is that of ASCII, or it ends above the capitals, or it is one of the two exceptions.
  · rw [moved] at plain
    have capital := plain _ (List.mem_singleton_self _)
    rcases upperRuns_facts run member with
      ⟨lower, upper, _⟩ | ⟨_, high | ⟨lower, upper⟩ | ⟨lower, upper, shift⟩⟩
    · exact .inr (.inl ((isLower_iff c).mpr (by omega)))
    · exact absurd capital (ofNat_not_isPlainCapital (by omega))
    · have code : c.toNat = 0x131 := by omega
      exact .inr (.inr (by rw [← Char.ofNat_toNat c, code]))
    · have code : c.toNat = 0x17F := by omega
      rw [code, shift] at capital
      exact absurd capital (by decide)
  · exact .inl same

/-! ### Spellings -/

/-- A character can be written for a small letter: it is the letter, its ASCII capital, or a dotless
`ı` for an `i`. -/
def WrittenFor (c letter : Char) : Prop :=
  c = letter ∨ c = letter.toUpper ∨ letter = 'i' ∧ c = 'ı'

/-- A small letter of ASCII other than `f` and `s`. -/
def IsNameLetter (letter : Char) : Prop :=
  letter.isLower = true ∧ IsPlainCapital letter.toUpper

instance (letter : Char) : Decidable (IsNameLetter letter) := inferInstanceAs (Decidable (_ ∧ _))

theorem eq_of_toUpper_eq {c letter : Char} (small : c.isLower = true)
    (small' : letter.isLower = true) (same : c.toUpper = letter.toUpper) : c = letter := by
  have back := congrArg Char.toLower same
  rwa [Char.toLower_toUpper_eq_toLower, Char.toLower_toUpper_eq_toLower,
    Char.toLower_eq_of_not_isUpper (Char.not_isUpper_of_isLower small),
    Char.toLower_eq_of_not_isUpper (Char.not_isUpper_of_isLower small')] at back

theorem upperChar_dotless : upperChar 'ı' = ['I'] := by decide +kernel

/-- The characters that become the capital of a letter. -/
theorem upperChar_eq_iff {letter : Char} (named : IsNameLetter letter) (c : Char) :
    upperChar c = [letter.toUpper] ↔ WrittenFor c letter := by
  constructor
  · intro same
    have plain : ∀ d ∈ upperChar c, IsPlainCapital d := by
      rw [same]
      simpa using named.2
    rcases cases_of_upperChar plain with itself | small | rfl
    · rw [itself, List.singleton_inj] at same
      exact .inr (.inl same)
    · rw [upperChar_of_isLower small, List.singleton_inj] at same
      exact .inl (eq_of_toUpper_eq small named.1 same)
    · rw [upperChar_dotless, List.singleton_inj] at same
      have capital : 'i'.toUpper = letter.toUpper := same
      exact .inr (.inr ⟨(eq_of_toUpper_eq (by decide) named.1 capital).symm, rfl⟩)
  · rintro (rfl | rfl | ⟨rfl, rfl⟩)
    · exact upperChar_of_isLower named.1
    · obtain ⟨_, bound, _⟩ := named.2
      exact upperChar_of_lt (by omega)
    · exact upperChar_dotless

/-- Upper case makes no plain capitals of one character but a single one. -/
theorem exists_of_upperChar {c : Char} (plain : ∀ d ∈ upperChar c, IsPlainCapital d) :
    ∃ d, upperChar c = [d] := by
  rcases cases_of_upperChar plain with itself | small | rfl
  · exact ⟨_, itself⟩
  · exact ⟨_, upperChar_of_isLower small⟩
  · exact ⟨_, upperChar_dotless⟩

/-- A text has the upper case of a name when it is the name letter by letter. -/
theorem upper_eq_map_iff {name : List Char} (named : ∀ letter ∈ name, IsNameLetter letter)
    (text : List Char) :
    upper text = name.map Char.toUpper ↔ List.Forall₂ WrittenFor text name := by
  induction text generalizing name with
  | nil => cases name <;> simp [upper]
  | cons c text ih =>
    have unfolded : upper (c :: text) = upperChar c ++ upper text := List.flatMap_cons
    rw [unfolded]
    constructor
    · intro same
      -- No capital comes of two characters, so the first one is made by the first character alone.
      have plain : ∀ d ∈ upperChar c, IsPlainCapital d := by
        intro d member
        have inName : d ∈ name.map Char.toUpper := by
          rw [← same]
          exact List.mem_append_left _ member
        obtain ⟨letter, found, rfl⟩ := List.mem_map.mp inName
        exact (named letter found).2
      obtain ⟨capital, alone⟩ := exists_of_upperChar plain
      cases name with
      | nil => simp [alone] at same
      | cons letter name =>
        rw [alone, List.map_cons, List.singleton_append] at same
        obtain ⟨rfl, rest⟩ := List.cons.inj same
        have later := fun other member => named other (List.mem_cons_of_mem letter member)
        exact .cons ((upperChar_eq_iff (named letter List.mem_cons_self) c).mp alone)
          ((ih later).mp rest)
    · intro written
      cases written with
      | @cons _ letter _ name here behind =>
        have later := fun other member => named other (List.mem_cons_of_mem letter member)
        rw [(upperChar_eq_iff (named letter List.mem_cons_self) c).mpr here,
          (ih later).mpr behind]
        rfl

end Text

namespace Permission

/-! ### Tokens -/

/-- A token is a spelling of the name of a permission: it has as many characters as the name, and
each of them can be written for the letter at its place. -/
structure SpelledBy (permission : Permission) (token : List Char) : Prop where
  length : token.length = permission.name.length
  letters : ∀ (i : Nat) (c letter : Char), token[i]? = some c →
    permission.name.toList[i]? = some letter → Text.WrittenFor c letter

theorem spelledBy_iff (permission : Permission) (token : List Char) :
    permission.SpelledBy token ↔ List.Forall₂ Text.WrittenFor token permission.name.toList := by
  rw [List.forall₂_iff_get]
  constructor
  · rintro ⟨length, letters⟩
    exact ⟨by rw [String.length_toList, length],
      fun i inToken inName => letters i _ _ (by simp) (by simp)⟩
  · rintro ⟨length, letters⟩
    refine ⟨by rw [length, String.length_toList], fun i c letter here there => ?_⟩
    obtain ⟨inToken, rfl⟩ := List.getElem?_eq_some_iff.mp here
    obtain ⟨inName, rfl⟩ := List.getElem?_eq_some_iff.mp there
    exact letters i inToken inName

theorem isNameLetter_of_mem_name (permission : Permission) :
    ∀ letter ∈ permission.name.toList, Text.IsNameLetter letter := by
  cases permission <;> simp [name, Text.IsNameLetter, Text.IsPlainCapital]

theorem capitals_eq (permission : Permission) :
    permission.capitals = permission.name.toList.map Char.toUpper := by
  cases permission <;> decide

/-- The tokens that are a permission are the spellings of its name. -/
theorem ofToken?_eq_some_iff_spelledBy (token : List Char) (permission : Permission) :
    ofToken? token = some permission ↔ permission.SpelledBy token := by
  rw [ofToken?_eq_some_iff, capitals_eq, spelledBy_iff,
    Text.upper_eq_map_iff permission.isNameLetter_of_mem_name]

/-- **Which tokens name a permission.** A token is taken for a permission exactly when it is a
spelling of its name; no token is a spelling of two names, and one that is a spelling of none is
refused. In a line of three or more words that begins with the keyword `topic`, the second word is
taken for a permission under no other spelling: the line grants that permission on what stands from
the third word on, or else it is rejected. -/
theorem ofToken_exact (token : String) :
    (∀ permission, ofToken token = .ok permission ↔ permission.SpelledBy token.toList) ∧
    (∀ permission other, SpelledBy permission token.toList → SpelledBy other token.toList →
      permission = other) ∧
    (ofToken token = .error (.unknownToken token) ↔
      ∀ permission, ¬SpelledBy permission token.toList) ∧
    ∀ (line : List Char) (keyword second third : Text.Word) (others : List Text.Word),
      Directive.wordsOf line = .ok (keyword, second :: third :: others) →
      Text.lower keyword.text = Keyword.topic.text →
      (∀ permission, Directive.ofChars line =
          .ok (.grant ⟨String.ofList (line.drop third.offset), permission⟩) ↔
        permission.SpelledBy second.text) ∧
      (Directive.ofChars line = .error .badPermission ↔
        ∀ permission, ¬SpelledBy permission second.text) := by
  have refused : ∀ word, ofToken? word = none ↔ ∀ permission, ¬SpelledBy permission word := by
    intro word
    simp only [← ofToken?_eq_some_iff_spelledBy, Option.eq_none_iff_forall_not_mem, Option.mem_def]
  refine ⟨fun permission => ?_, fun permission other spelled spelled' => ?_, ?_, ?_⟩
  · rw [← ofToken?_eq_some_iff_spelledBy, ofToken]
    cases ofToken? token.toList <;> simp
  · rw [← ofToken?_eq_some_iff_spelledBy] at spelled spelled'
    exact Option.some.inj (spelled.symm.trans spelled')
  · rw [← refused, ofToken]
    cases ofToken? token.toList <;> simp
  -- In a line of three words or more the second one is tried as a permission, and nothing else is.
  · intro line keyword second third others split named
    have known := (Keyword.ofWord?_eq_some_iff keyword.text .topic).mpr named
    rw [← refused]
    simp only [Directive.ofChars, split, known, Directive.ruleOf,
      ← ofToken?_eq_some_iff_spelledBy]
    cases ofToken? second.text <;> simp [Except.map]

/-- A dotless `ı` in a token, and a ligature whose capitals are letters of no name. -/
theorem ofToken_exact_dotless :
    let line := "topic rEadwRıte a b ".toList
    ofToken "rEadwRıte" = .ok .readWrite ∧
    Directive.ofChars line = .ok (.grant ⟨"a b ", .readWrite⟩) ∧
    ofToken "wrﬁte" = .error (.unknownToken "wrﬁte") := by
  intro line
  have spelled : readWrite.SpelledBy "rEadwRıte".toList :=
    (spelledBy_iff _ _).mpr (by simp [name, Text.WrittenFor])
  have split : Directive.wordsOf line = .ok (⟨0, "topic".toList⟩,
      ⟨6, "rEadwRıte".toList⟩ :: ⟨16, ['a']⟩ :: [⟨18, ['b']⟩]) := by decide
  have unspelled : ∀ permission, ¬SpelledBy permission "wrﬁte".toList := by
    rintro permission ⟨length, letters⟩
    have ligature := letters 2 'ﬁ'
    cases permission <;> simp [name, Text.WrittenFor] at length ligature
  obtain ⟨accepted, _, _, inLine⟩ := ofToken_exact "rEadwRıte"
  refine ⟨(accepted _).mpr spelled, ?_, (ofToken_exact "wrﬁte").2.2.1.mpr unspelled⟩
  exact ((inLine line _ _ _ _ split (by decide)).1 _).mpr spelled

-- Of the joined names only `read` followed by `write` is one.
example : ofToken "writeread" = .error (.unknownToken "writeread") := by rfl

end Permission

end TopicAccess
