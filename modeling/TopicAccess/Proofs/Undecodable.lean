import Mathlib.Order.Bounds.Basic
import TopicAccess.Proofs.Selection

/-!
# Files that are not UTF-8

Bytes that are refused are the UTF-8 form of a text and then something that no character begins
(`Text.Utf8.exists_split_of_error`). That place is what the decoder reports: the longest beginning
of the bytes that is well-formed ends there (`Text.Utf8.isGreatest_position`). A file with such
bytes fails before any line of it is looked at. The main result is `RuleFile.load_whole`.
-/
namespace TopicAccess

namespace Text.Utf8

/-! ### Where decoding stops -/

/-- Where no character begins, the decoder reports the very place. -/
theorem decodeFrom_of_stuck {rest : List UInt8} (nonempty : rest ≠ [])
    (stuck : ∀ c tail, rest ≠ String.utf8EncodeChar c ++ tail) (position : Nat) :
    ∃ fault, decodeFrom 0 position rest = .error fault ∧ fault.position = position := by
  obtain ⟨byte, bytes, rfl⟩ := List.exists_cons_of_ne_nil nonempty
  cases announces : Lead.ofByte? byte with
  | none => simp [decodeFrom, announces]
  | some announced =>
    cases finished : readTail announced.bits announced.tails bytes with
    | broken read defect => simp [decodeFrom, announces, finished]
    -- The lead byte and its continuation bytes would be a character.
    | complete code =>
      obtain ⟨tail, others, rfl, ranged, value⟩ := (readTail_eq_complete_iff _ _ _ _).mp finished
      obtain ⟨c, -, written⟩ := (makes_iff byte tail code).mp ⟨announced, announces, ranged, value⟩
      exact absurd (by rw [written, List.cons_append]) (stuck c others)

/-- Decoding fails behind the UTF-8 form of a text. -/
theorem exists_split_of_error {position : Nat} {bytes : List UInt8} {fault : Fault}
    (failed : decodeFrom 0 position bytes = .error fault) :
    ∃ text rest, bytes = encode text ++ rest ∧
      fault.position = position + (encode text).length := by
  -- A character may take several bytes, so the induction is on how many bytes are left.
  induction length : bytes.length using Nat.strong_induction_on generalizing position bytes with
  | _ size ih =>
    by_cases whole : ∃ c tail, bytes = String.utf8EncodeChar c ++ tail
    · obtain ⟨c, tail, rfl⟩ := whole
      have shorter : tail.length < size := by
        have taken := List.length_pos_iff.mpr (String.utf8EncodeChar_ne_nil (c := c))
        rw [← length, List.length_append]
        omega
      rw [decodeFrom_encodeChar_append, map_eq_error_iff] at failed
      obtain ⟨text, rest, rfl, place⟩ := ih _ shorter failed rfl
      refine ⟨c :: text, rest, by rw [encode_cons, List.append_assoc], ?_⟩
      rw [encode_cons, List.length_append, place, Nat.add_assoc]
    -- No bytes at all are accepted, so there is a first one, and no character begins with it.
    · have nonempty : bytes ≠ [] := by
        rintro rfl
        cases failed
      have stuck : ∀ c tail, bytes ≠ String.utf8EncodeChar c ++ tail := fun c tail same =>
        whole ⟨c, tail, same⟩
      obtain ⟨found, failed', place⟩ := decodeFrom_of_stuck nonempty stuck position
      obtain rfl : found = fault := Except.error.inj (failed'.symm.trans failed)
      exact ⟨[], bytes, rfl, place⟩

/-- The lengths of the beginnings of bytes that are the UTF-8 form of a text. -/
def wellFormedLengths (bytes : List UInt8) : Set Nat :=
  {length | ∃ text, encode text <+: bytes ∧ (encode text).length = length}

/-- The place that is reported is the end of the longest beginning that is well-formed. -/
theorem isGreatest_position {bytes : List UInt8} {fault : Fault}
    (failed : decode bytes = .error fault) :
    IsGreatest (wellFormedLengths bytes) fault.position := by
  constructor
  · obtain ⟨text, rest, rfl, place⟩ := exists_split_of_error failed
    exact ⟨text, List.prefix_append _ _, by rw [place, Nat.zero_add]⟩
  -- Behind a longer text decoding would fail later.
  · rintro length ⟨text, ⟨rest, rfl⟩, rfl⟩
    rw [decode, decodeFrom_encode_append, map_eq_error_iff] at failed
    obtain ⟨_, _, _, place⟩ := exists_split_of_error failed
    omega

/-- What is reported of bytes that stop being well-formed at a position: the byte there, or the
bytes from there to another position. -/
inductive ReportsFrom (position : Nat) : String → Prop
  | single (byte : UInt8) (defect : Defect) :
      ReportsFrom position ("'utf-8' codec can't decode " ++ ("byte 0x" ++
        String.ofList (hexDigits 2 byte.toNat) ++ " in position " ++ toString position) ++ ": " ++
        defect.message)
  | several (last : Nat) (defect : Defect) :
      ReportsFrom position ("'utf-8' codec can't decode " ++ ("bytes in position " ++
        toString position ++ "-" ++ toString last) ++ ": " ++ defect.message)

theorem reportsFrom_message (fault : Fault) : ReportsFrom fault.position fault.message := by
  unfold Fault.message
  split
  · exact .single _ _
  · exact .several _ _

end Text.Utf8

/-- The empty path leads to the working directory, which is no file. -/
theorem FileTree.read_empty (files : FileTree) :
    files.read (.ofText []) = .ok (.error .isDirectory) := rfl

/-! ### Files -/

section Refused

variable {files : FileTree} {name : Text.Loose} {bytes : List UInt8} {fault : Text.Utf8.Fault}
  (found : files.read (.ofText name) = .ok (.ok bytes))
  (refused : Text.Utf8.decode bytes = .error fault) (strict : Bool)

include found refused

theorem RuleFile.load_of_refused : load strict files name =
    .ok ⟨.error (decodeProblem (.ofText name) fault), [], []⟩ := by
  simp only [load, found, loadBytes, refused]

theorem Authorizer.select_of_refused : select strict files (some name) =
    .ok ⟨.denyAll, [], [.loadFailed name (RuleFile.decodeProblem (.ofText name) fault)]⟩ := by
  -- Without a name there would be nothing to load, and nothing would fail.
  have named : name ≠ [] := by
    rintro rfl
    cases found.symm.trans files.read_empty
  rw [select, if_neg named, RuleFile.load_of_refused found refused]
  rfl

end Refused

namespace RuleFile

/-- A byte order mark is no line end, so it stays in front of the first line. -/
theorem exists_linesOf_mark (rest : List Char) : ∃ first others, linesOf rest = first :: others ∧
    linesOf ('\ufeff' :: rest) = ("\ufeff" ++ first) :: others := by
  obtain ⟨piece, pieces, split⟩ :=
    List.exists_cons_of_ne_nil (Text.splitAt_ne_nil '\n' (Text.unifyNewlines rest))
  refine ⟨String.ofList piece, pieces.map String.ofList, ?_, ?_⟩
  · simp [linesOf, Text.lines, split]
  · simp [linesOf, Text.lines, Text.unifyNewlines, Text.splitAt, split, String.ofList_cons]

/-- **Files as a whole.** A file that can be read and holds the UTF-8 form of a text is loaded as
the pieces of the text between line feeds, every end of a line counting as one, and a byte order
mark is a part of the first line. Any other file fails before a line is looked at, in strict and in
lenient loading alike: nothing is reported, nothing is kept, the problem tells the length of the
longest beginning that is well-formed, and the authorizer for it denies everything. -/
theorem load_whole (files : FileTree) (name : Text.Loose) (bytes : List UInt8)
    (found : files.read (.ofText name) = .ok (.ok bytes)) :
    (∀ text, bytes = Text.Utf8.encode text →
      (∀ strict, load strict files name = .ok ((RuleText.load strict
        ((Text.splitAt '\n' (Text.unifyNewlines text)).map String.ofList)).noting
          (.fileRead (FileTree.Path.ofText name).text))) ∧
      ∀ rest, text = '\ufeff' :: rest → ∃ first others, linesOf rest = first :: others ∧
        linesOf text = ("\ufeff" ++ first) :: others) ∧
    ((∀ text, bytes ≠ Text.Utf8.encode text) → ∃ problem detail length,
      problem.kind = .unreadable ∧ problem.details = [("error", .str detail)] ∧
      Text.Utf8.ReportsFrom length detail ∧
      IsGreatest (Text.Utf8.wellFormedLengths bytes) length ∧
      ∀ strict, load strict files name = .ok ⟨.error problem, [], []⟩ ∧
        ∃ selection, Authorizer.select strict files (some name) = .ok selection ∧
          selection.authorizer = .denyAll ∧ selection.reported = [] ∧
          ∀ (covers : Matcher) (operation : Operation) (topic : String) (user : Option String),
            selection.authorizer.answer covers (.access operation topic user) =
              .ok (.decision ⟨false, []⟩)) := by
  constructor
  · rintro text rfl
    refine ⟨Reads.load found, ?_⟩
    rintro rest rfl
    exact exists_linesOf_mark rest
  · intro foreign
    cases decoded : Text.Utf8.decode bytes with
    | ok text => exact absurd ((Text.Utf8.decode_eq_ok_iff bytes text).mp decoded) (foreign text)
    | error fault =>
      refine ⟨decodeProblem (.ofText name) fault, fault.message, fault.position, rfl, rfl,
        Text.Utf8.reportsFrom_message fault, Text.Utf8.isGreatest_position decoded, ?_⟩
      intro strict
      exact ⟨load_of_refused found decoded strict, _,
        Authorizer.select_of_refused found decoded strict, rfl, rfl, fun _ _ _ _ => rfl⟩

/-- A file that begins with a byte order mark, and one that ends in the middle of a character. The
character that is two bytes long counts as two. -/
theorem load_whole_truncated :
    let marked := Text.Utf8.encode "\ufefftopic a\r\n".toList
    let broken := Text.Utf8.encode "topic é\n".toList ++ [0xE2, 0x82]
    let files : FileTree :=
      (FileTree.writeFile {} (.ofText "marked") marked).writeFile (.ofText "broken") broken
    (∀ strict, load strict files "marked" =
      .ok ((RuleText.load strict ["\ufefftopic a", ""]).noting (.fileRead "marked"))) ∧
    ∃ problem detail, problem.details = [("error", .str detail)] ∧
      Text.Utf8.ReportsFrom 9 detail ∧ IsGreatest (Text.Utf8.wellFormedLengths broken) 9 ∧
      ∀ strict, load strict files "broken" = .ok ⟨.error problem, [], []⟩ ∧
        ∃ selection, Authorizer.select strict files (some "broken") = .ok selection ∧
          selection.authorizer.answer (fun _ _ => true) (.access .read "a" none) =
            .ok (.decision ⟨false, []⟩) := by
  intro marked broken files
  constructor
  · obtain ⟨whole, -⟩ := load_whole files "marked" marked rfl
    intro strict
    exact (whole _ rfl).1 strict
  · have decoded : Text.Utf8.decode broken = .error ⟨9, [0xE2, 0x82], .truncated⟩ := by
      decide +kernel
    have foreign : ∀ text, broken ≠ Text.Utf8.encode text := fun text same => by
      cases decoded.symm.trans ((Text.Utf8.decode_eq_ok_iff broken text).mpr same)
    obtain ⟨-, fails⟩ := load_whole files "broken" broken rfl
    obtain ⟨problem, detail, length, -, details, reports, greatest, failed⟩ := fails foreign
    obtain rfl : length = 9 := greatest.unique (Text.Utf8.isGreatest_position decoded)
    refine ⟨problem, detail, details, reports, greatest, fun strict => ?_⟩
    obtain ⟨loaded, selection, selected, -, -, denies⟩ := failed strict
    exact ⟨loaded, selection, selected, denies _ _ _ _⟩

end RuleFile
end TopicAccess
