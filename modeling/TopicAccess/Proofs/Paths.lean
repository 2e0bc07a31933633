import Mathlib.Data.List.TakeWhile
import TopicAccess.FileTree
import TopicAccess.Proofs.Lines

/-!
# Paths that can be looked up

A text can be encoded when each half of a surrogate pair in it stands for a byte
(`Text.Loose.Encodable`). All that a path leaves out of its text are slashes and points
(`FileTree.Path.mem_text_ofText_iff`), so whether it can be looked up, and if not for which fault,
is read off the text (`FileTree.Path.fault?_ofText_eq_none_iff`,
`FileTree.Path.exists_unencodable_iff`).
-/
namespace TopicAccess

namespace Text.Loose

/-- Each half of a surrogate pair in a text is one of those that stand for the bytes 80 to FF. -/
def Encodable (text : Loose) : Prop :=
  ∀ number, .half number ∈ text → 0x480 ≤ number.val ∧ number.val < 0x500

theorem encodable_ofString (text : String) : (ofString text).Encodable := by
  intro number member
  simp [ofString] at member

theorem isSome_bytes?_iff (point : Point) : point.bytes?.isSome = true ↔
    ∀ number, point = .half number → 0x480 ≤ number.val ∧ number.val < 0x500 := by
  cases point with
  | char c => simp [Point.bytes?]
  | half number => simp [Point.bytes?]

theorem encodable_iff (text : Loose) :
    text.Encodable ↔ ∀ point ∈ text, point.bytes?.isSome = true := by
  simp only [isSome_bytes?_iff]
  constructor
  · rintro encodable _ member number rfl
    exact encodable number member
  · intro every number member
    exact every _ member number rfl

theorem isHalf_code_of_bytes? {point : Point} (without : point.bytes?.isSome = false) :
    isHalf point.code = true := by
  cases point with
  | char c => simp [Point.bytes?] at without
  | half number =>
    have within : 0xD800 + number.val ≤ 0xDFFF := by omega
    simp [isHalf, Point.code, within]

theorem lone?_eq_none_iff (text : Loose) : text.lone? = none ↔ text.Encodable := by
  rw [encodable_iff, ← List.dropWhile_eq_nil_iff]
  -- The first code point without bytes is half of a pair, so the run that is reported is not empty.
  have first := List.head?_dropWhile_not (fun point : Point => point.bytes?.isSome) text
  unfold lone?
  cases found : text.dropWhile (·.bytes?.isSome) with
  | nil => simp
  | cons point rest =>
    rw [found] at first
    have half := isHalf_code_of_bytes? (by simpa using first)
    simp [half]

end Text.Loose

namespace FileTree.Path

open Text (Loose Point)

variable {point : Point} (notSlash : point ≠ .char '/') (notDot : point ≠ .char '.')
include notSlash notDot

/-- Only empty names and names that are a single point are left out. -/
theorem exists_mem_names_ofText_iff (text : Loose) :
    (∃ name ∈ (ofText text).names, point ∈ name) ↔ point ∈ text := by
  conv_rhs => rw [← Text.intercalate_splitAt (.char '/') text]
  rw [Text.mem_intercalate_iff notSlash]
  constructor
  · rintro ⟨name, member, held⟩
    exact ⟨name, List.mem_of_mem_filter member, held⟩
  · rintro ⟨piece, member, held⟩
    refine ⟨piece, List.mem_filter.mpr ⟨member, ?_⟩, held⟩
    have named : piece ≠ [] := List.ne_nil_of_mem held
    have other : piece ≠ ("." : Loose) := by
      rintro rfl
      exact notDot (List.mem_singleton.mp held)
    simp [named, other]

theorem mem_text_ofText_iff (text : Loose) : point ∈ (ofText text).text ↔ point ∈ text := by
  have dots : point ∉ ("." : Loose) := fun held => notDot (List.mem_singleton.mp held)
  have slashes : ∀ start, point ∉ Start.text start := by
    intro start held
    cases start <;> simp [Start.text, Loose.ofString, notSlash] at held
  rw [← exists_mem_names_ofText_iff notSlash notDot text]
  obtain ⟨start, names⟩ := ofText text
  unfold Path.text
  split
  next same =>
    cases same
    simp [dots]
  next same =>
    cases same
    rw [List.mem_append, or_iff_right (slashes _)]
    exact Text.mem_intercalate_iff notSlash names

end FileTree.Path

namespace FileTree

open Text (Loose)

namespace Path

theorem encodable_text_ofText_iff (text : Loose) :
    (ofText text).text.Encodable ↔ text.Encodable := by
  have same : ∀ number, .half number ∈ (ofText text).text ↔ .half number ∈ text :=
    fun number => mem_text_ofText_iff (by simp) (by simp) text
  simp only [Loose.Encodable, same]

theorem hasNull_ofText_iff (text : Loose) :
    (ofText text).hasNull = true ↔ .char '\x00' ∈ text := by
  rw [← exists_mem_names_ofText_iff (by simp) (by simp)]
  simp [hasNull]

/-- A path can be looked up when its text can be encoded and has no null character. -/
theorem fault?_ofText_eq_none_iff (text : Loose) :
    (ofText text).fault? = none ↔ text.Encodable ∧ .char '\x00' ∉ text := by
  rw [← encodable_text_ofText_iff, ← Loose.lone?_eq_none_iff, ← hasNull_ofText_iff]
  cases found : (ofText text).text.lone? <;> simp [fault?, found]

/-- A text that cannot be encoded is reported before a null character in it. -/
theorem exists_unencodable_iff (text : Loose) :
    (∃ lone, (ofText text).fault? = some (.unencodable lone)) ↔ ¬text.Encodable := by
  rw [← encodable_text_ofText_iff, ← Loose.lone?_eq_none_iff]
  cases found : (ofText text).text.lone? <;> simp [fault?, found]

end Path

theorem read_ofText (files : FileTree) {name : Loose} (encodable : name.Encodable)
    (nullFree : .char '\x00' ∉ name) :
    files.read (.ofText name) = .ok (files.lookUp (.ofText name)) := by
  simp [read, (Path.fault?_ofText_eq_none_iff name).mpr ⟨encodable, nullFree⟩]

end FileTree
end TopicAccess
