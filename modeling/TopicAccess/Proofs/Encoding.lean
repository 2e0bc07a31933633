import Mathlib.Data.List.Forall2
import Mathlib.Tactic.Common
import TopicAccess.Text.Utf8

/-!
# UTF-8 is read exactly

The decoder takes the continuation bytes that a lead byte announces, and the encoder writes the
bytes of one character after the other. `makes_iff` is where the two meet: a lead byte with
continuation bytes in the announced ranges is what a single character is written as. The main
result, `decode_eq_ok_iff`, says that the decoder accepts the UTF-8 forms of texts and nothing else.
-/
namespace TopicAccess.Text.Utf8

theorem map_eq_ok_iff {ε α β : Type} (f : α → β) (result : Except ε α) (value : β) :
    result.map f = .ok value ↔ ∃ given, result = .ok given ∧ f given = value := by
  cases result <;> simp [Except.map]

theorem map_eq_error_iff {ε α β : Type} (f : α → β) (result : Except ε α) (fault : ε) :
    result.map f = .error fault ↔ result = .error fault := by
  cases result <;> simp [Except.map]

/-! ### The bytes of one character -/

/-- The values of the bytes that a code point is written as. -/
def byteValues (code : Nat) : List Nat :=
  if code < 0x80 then [code]
  else if code < 0x800 then [code / 64 + 0xC0, code % 64 + 0x80]
  else if code < 0x10000 then [code / 4096 + 0xE0, code / 64 % 64 + 0x80, code % 64 + 0x80]
  else [code / 262144 + 0xF0, code / 4096 % 64 + 0x80, code / 64 % 64 + 0x80, code % 64 + 0x80]

theorem map_toNat_encodeChar (c : Char) :
    (String.utf8EncodeChar c).map UInt8.toNat = byteValues c.toNat := by
  have valid : c.toNat.isValidChar := c.valid
  have same : c.val.toNat = c.toNat := rfl
  simp only [String.utf8EncodeChar, same, byteValues]
  generalize c.toNat = code at valid
  split_ifs <;> simp only [List.map_cons, List.map_nil, UInt8.toNat_ofNat', List.cons.injEq,
    and_true] <;> omega

/-- Bytes are those of a character when they have the values of a code point that is one. -/
theorem encodeChar_eq_iff (code : Nat) (bytes : List UInt8) :
    (∃ c : Char, c.toNat = code ∧ String.utf8EncodeChar c = bytes) ↔
      code.isValidChar ∧ bytes.map UInt8.toNat = byteValues code := by
  constructor
  · rintro ⟨c, rfl, rfl⟩
    exact ⟨c.valid, map_toNat_encodeChar c⟩
  · rintro ⟨valid, values⟩
    have number : (Char.ofNat code).toNat = code := by
      rw [Char.ofNat, dif_pos valid]
      rfl
    refine ⟨Char.ofNat code, number, ?_⟩
    apply List.map_injective_iff.mpr fun _ _ => UInt8.toNat_inj.mp
    rw [map_toNat_encodeChar, number, values]

/-! ### What a lead byte announces -/

/-- The lead bytes of one length differ in the range of the second byte only. -/
theorem Lead.ofByte?_eq (byte : UInt8) : Lead.ofByte? byte =
    if byte.toNat < 0x80 then some ⟨byte.toNat, []⟩
    else if byte.toNat < 0xC2 then none
    else if byte.toNat < 0xE0 then some ⟨byte.toNat - 0xC0, [anyTail]⟩
    else if byte.toNat < 0xF0 then
      some ⟨byte.toNat - 0xE0, [(if byte.toNat = 0xE0 then 0xA0 else 0x80,
        if byte.toNat = 0xED then 0x9F else 0xBF), anyTail]⟩
    else if byte.toNat < 0xF5 then
      some ⟨byte.toNat - 0xF0, [(if byte.toNat = 0xF0 then 0x90 else 0x80,
        if byte.toNat = 0xF4 then 0x8F else 0xBF), anyTail, anyTail]⟩
    else none := by
  unfold Lead.ofByte?
  generalize byte.toNat = b
  by_cases one : b < 0x80
  · rw [if_pos one, if_pos one]
  rw [if_neg one, if_neg one]
  by_cases low : b < 0xC2
  · rw [if_pos low, if_pos low]
  rw [if_neg low, if_neg low]
  by_cases two : b < 0xE0
  · rw [if_pos two, if_pos two]
  rw [if_neg two, if_neg two]
  by_cases three : b < 0xF0
  · by_cases overlong : b = 0xE0
    · subst overlong
      rfl
    by_cases surrogate : b = 0xED
    · subst surrogate
      rfl
    rw [if_neg overlong, if_neg surrogate, if_pos three, if_pos three, if_neg overlong,
      if_neg surrogate]
    rfl
  rw [if_neg (by omega : ¬b = 0xE0), if_neg (by omega : ¬b = 0xED), if_neg three, if_neg three]
  by_cases overlong : b = 0xF0
  · subst overlong
    rfl
  by_cases large : b = 0xF4
  · subst large
    rfl
  rw [if_neg overlong, if_neg large, if_neg overlong, if_neg large]
  exact if_congr (by omega) rfl rfl

/-- A byte lies in a range. -/
def InRange (range : Nat × Nat) (byte : UInt8) : Prop :=
  range.1 ≤ byte.toNat ∧ byte.toNat ≤ range.2

/-- A code point with the six bits of one more continuation byte. -/
def shifted (code : Nat) (byte : UInt8) : Nat :=
  code * 64 + (byte.toNat - 0x80)

theorem shifted_add {byte : UInt8} (continues : 0x80 ≤ byte.toNat) (code : Nat) :
    shifted code byte + 0x80 = code * 64 + byte.toNat := by
  unfold shifted
  omega

/-- A byte announces the continuation bytes behind it, and together they make a code point. -/
structure Makes (announced : Lead) (byte : UInt8) (tail : List UInt8) (code : Nat) : Prop where
  announces : Lead.ofByte? byte = some announced
  ranged : List.Forall₂ InRange announced.tails tail
  value : code = tail.foldl shifted announced.bits

theorem Makes.byteValues_eq {announced : Lead} {byte : UInt8} {tail : List UInt8} {code : Nat}
    (makes : Makes announced byte tail code) :
    code.isValidChar ∧ (byte :: tail).map UInt8.toNat = byteValues code := by
  obtain ⟨announces, ranged, value⟩ := makes
  rw [Lead.ofByte?_eq] at announces
  split at announces
  -- One byte.
  · obtain rfl := Option.some.inj announces
    obtain rfl := List.forall₂_nil_left_iff.mp ranged
    simp only [List.foldl_nil] at value
    refine ⟨by omega, ?_⟩
    rw [byteValues, if_pos (by omega), value]
    rfl
  -- Continuation bytes, and leads of overlong forms of two bytes.
  split at announces
  · cases announces
  split at announces
  -- Two bytes.
  · obtain rfl := Option.some.inj announces
    simp only [List.forall₂_cons_left_iff, List.forall₂_nil_left_iff, InRange, anyTail] at ranged
    obtain ⟨x, _, second, rfl, rfl⟩ := ranged
    simp only [List.foldl_cons, List.foldl_nil] at value
    have step := shifted_add second.1 (byte.toNat - 0xC0)
    refine ⟨by omega, ?_⟩
    rw [byteValues, if_neg (by omega), if_pos (by omega)]
    simp only [List.map_cons, List.map_nil, List.cons.injEq, and_true]
    omega
  -- Three bytes. From here on the range of the second byte depends on the lead byte.
  split at announces
  · obtain rfl := Option.some.inj announces
    simp only [List.forall₂_cons_left_iff, List.forall₂_nil_left_iff, InRange, anyTail] at ranged
    obtain ⟨x, _, second, ⟨y, _, third, rfl, rfl⟩, rfl⟩ := ranged
    simp only [List.foldl_cons, List.foldl_nil] at value
    have continues : 0x80 ≤ x.toNat ∧ x.toNat ≤ 0xBF := by split_ifs at second <;> omega
    have step := shifted_add continues.1 (byte.toNat - 0xE0)
    have step' := shifted_add third.1 (shifted (byte.toNat - 0xE0) x)
    have long : 0x800 ≤ code := by split_ifs at second <;> omega
    refine ⟨by split_ifs at second <;> omega, ?_⟩
    rw [byteValues, if_neg (by omega), if_neg (by omega), if_pos (by omega)]
    simp only [List.map_cons, List.map_nil, List.cons.injEq, and_true]
    omega
  split at announces
  -- Four bytes.
  · obtain rfl := Option.some.inj announces
    simp only [List.forall₂_cons_left_iff, List.forall₂_nil_left_iff, InRange, anyTail] at ranged
    obtain ⟨x, _, second, ⟨y, _, third, ⟨z, _, fourth, rfl, rfl⟩, rfl⟩, rfl⟩ := ranged
    simp only [List.foldl_cons, List.foldl_nil] at value
    have continues : 0x80 ≤ x.toNat ∧ x.toNat ≤ 0xBF := by split_ifs at second <;> omega
    have step := shifted_add continues.1 (byte.toNat - 0xF0)
    have step' := shifted_add third.1 (shifted (byte.toNat - 0xF0) x)
    have step'' := shifted_add fourth.1 (shifted (shifted (byte.toNat - 0xF0) x) y)
    have long : 0x10000 ≤ code := by split_ifs at second <;> omega
    refine ⟨by split_ifs at second <;> omega, ?_⟩
    rw [byteValues, if_neg (by omega), if_neg (by omega), if_neg (by omega)]
    simp only [List.map_cons, List.map_nil, List.cons.injEq, and_true]
    omega
  · cases announces

theorem makes_of_byteValues {byte : UInt8} {tail : List UInt8} {code : Nat}
    (valid : code.isValidChar) (values : (byte :: tail).map UInt8.toNat = byteValues code) :
    ∃ announced, Makes announced byte tail code := by
  simp only [byteValues, List.map_cons] at values
  split_ifs at values with one two three <;>
    simp only [List.cons.injEq, List.map_eq_nil_iff, List.map_eq_cons_iff] at values
  · obtain ⟨lead, rfl⟩ := values
    refine ⟨⟨byte.toNat, []⟩, ?_, .nil, lead.symm⟩
    rw [Lead.ofByte?_eq, if_pos (by omega)]
  · obtain ⟨lead, x, _, rfl, second, rfl⟩ := values
    refine ⟨_, by rw [Lead.ofByte?_eq, if_neg (by omega), if_neg (by omega), if_pos (by omega)],
      .cons ?_ .nil, ?_⟩
    · simp only [InRange, anyTail]
      omega
    · simp only [List.foldl_cons, List.foldl_nil]
      unfold shifted
      omega
  · obtain ⟨lead, x, _, rfl, second, y, _, rfl, third, rfl⟩ := values
    refine ⟨_, by rw [Lead.ofByte?_eq, if_neg (by omega), if_neg (by omega), if_neg (by omega),
      if_pos (by omega)], .cons ?_ (.cons ?_ .nil), ?_⟩
    · simp only [InRange]
      split_ifs <;> omega
    · simp only [InRange, anyTail]
      omega
    · simp only [List.foldl_cons, List.foldl_nil]
      unfold shifted
      omega
  · obtain ⟨lead, x, _, rfl, second, y, _, rfl, third, z, _, rfl, fourth, rfl⟩ := values
    refine ⟨_, by rw [Lead.ofByte?_eq, if_neg (by omega), if_neg (by omega), if_neg (by omega),
      if_neg (by omega), if_pos (by omega)], .cons ?_ (.cons ?_ (.cons ?_ .nil)), ?_⟩
    · simp only [InRange]
      split_ifs <;> omega
    · simp only [InRange, anyTail]
      omega
    · simp only [InRange, anyTail]
      omega
    · simp only [List.foldl_cons, List.foldl_nil]
      unfold shifted
      omega

/-- What a lead byte announces is what a single character is written as. -/
theorem makes_iff (byte : UInt8) (tail : List UInt8) (code : Nat) :
    (∃ announced, Makes announced byte tail code) ↔
      ∃ c : Char, c.toNat = code ∧ String.utf8EncodeChar c = byte :: tail := by
  rw [encodeChar_eq_iff]
  constructor
  · rintro ⟨announced, makes⟩
    exact makes.byteValues_eq
  · rintro ⟨valid, values⟩
    exact makes_of_byteValues valid values

/-! ### Reading texts -/

theorem readTail_cons_eq_complete_iff (bits code : Nat) (range : Nat × Nat)
    (ranges : List (Nat × Nat)) (byte : UInt8) (bytes : List UInt8) :
    readTail bits (range :: ranges) (byte :: bytes) = .complete code ↔
      InRange range byte ∧ readTail (shifted bits byte) ranges bytes = .complete code := by
  unfold shifted InRange
  rw [readTail]
  by_cases inside : range.1 ≤ byte.toNat ∧ byte.toNat ≤ range.2
  · rw [if_pos (by simpa using inside)]
    cases readTail (bits * 64 + (byte.toNat - 0x80)) ranges bytes <;> simp [inside]
  · rw [if_neg (by simpa using inside)]
    simp [inside]

/-- The continuation bytes that are announced are read as they stand, whatever follows them. -/
theorem readTail_eq_complete_iff (bits code : Nat) (ranges : List (Nat × Nat))
    (bytes : List UInt8) : readTail bits ranges bytes = .complete code ↔
      ∃ tail rest, bytes = tail ++ rest ∧ List.Forall₂ InRange ranges tail ∧
        code = tail.foldl shifted bits := by
  induction ranges generalizing bits bytes with
  | nil => simp [readTail, eq_comm]
  | cons range ranges ih =>
    cases bytes with
    | nil => simp [readTail]
    | cons byte bytes =>
      rw [readTail_cons_eq_complete_iff, ih]
      constructor
      · rintro ⟨inside, tail, rest, rfl, ranged, value⟩
        exact ⟨byte :: tail, rest, rfl, .cons inside ranged, by rwa [List.foldl_cons]⟩
      · rintro ⟨tail, rest, split, ranged, value⟩
        cases ranged with
        | cons inside ranged =>
          cases split
          exact ⟨inside, _, rest, rfl, ranged, by rwa [List.foldl_cons] at value⟩

/-- The bytes of a character that has been read are passed over. -/
theorem decodeFrom_skip (position : Nat) (tail rest : List UInt8) :
    decodeFrom tail.length position (tail ++ rest) =
      decodeFrom 0 (position + tail.length) rest := by
  induction tail generalizing position with
  | nil => rfl
  | cons byte tail ih =>
    rw [List.cons_append, List.length_cons, decodeFrom, ih]
    congr 1
    omega

theorem decodeFrom_makes {announced : Lead} {byte : UInt8} {tail : List UInt8} {code : Nat}
    (makes : Makes announced byte tail code) (position : Nat) (rest : List UInt8) :
    decodeFrom 0 position (byte :: (tail ++ rest)) =
      (decodeFrom 0 (position + 1 + tail.length) rest).map (Char.ofNat code :: ·) := by
  have finished := (readTail_eq_complete_iff announced.bits code announced.tails _).mpr
    ⟨tail, rest, rfl, makes.ranged, makes.value⟩
  simp only [decodeFrom, makes.announces, finished]
  rw [makes.ranged.length_eq, decodeFrom_skip]

theorem decodeFrom_cons_inv {position : Nat} {byte : UInt8} {bytes : List UInt8}
    {text : List Char} (decoded : decodeFrom 0 position (byte :: bytes) = .ok text) :
    ∃ announced tail rest code, bytes = tail ++ rest ∧ Makes announced byte tail code := by
  simp only [decodeFrom] at decoded
  cases announces : Lead.ofByte? byte with
  | none => simp [announces] at decoded
  | some announced =>
    cases finished : readTail announced.bits announced.tails bytes with
    | broken read defect => simp [announces, finished] at decoded
    | complete code =>
      obtain ⟨tail, rest, split, ranged, value⟩ := (readTail_eq_complete_iff _ _ _ _).mp finished
      exact ⟨announced, tail, rest, code, split, announces, ranged, value⟩

theorem encode_cons (c : Char) (text : List Char) :
    encode (c :: text) = String.utf8EncodeChar c ++ encode text :=
  List.flatMap_cons

theorem decodeFrom_encodeChar_append (c : Char) (position : Nat) (rest : List UInt8) :
    decodeFrom 0 position (String.utf8EncodeChar c ++ rest) =
      (decodeFrom 0 (position + (String.utf8EncodeChar c).length) rest).map (c :: ·) := by
  cases written : String.utf8EncodeChar c with
  | nil => exact absurd written String.utf8EncodeChar_ne_nil
  | cons byte tail =>
    obtain ⟨announced, makes⟩ := (makes_iff byte tail c.toNat).mpr ⟨c, rfl, written⟩
    rw [List.cons_append, decodeFrom_makes makes, Char.ofNat_toNat, List.length_cons,
      Nat.add_right_comm, Nat.add_assoc]

/-- A text is read from the bytes in front, and the rest is read from where they end. -/
theorem decodeFrom_encode_append (text : List Char) (position : Nat) (rest : List UInt8) :
    decodeFrom 0 position (encode text ++ rest) =
      (decodeFrom 0 (position + (encode text).length) rest).map (text ++ ·) := by
  induction text generalizing position with
  | nil =>
    cases later : decodeFrom 0 position rest <;> simp [encode, later, Except.map]
  | cons c text ih =>
    rw [encode_cons, List.append_assoc, decodeFrom_encodeChar_append, ih, List.length_append,
      Nat.add_assoc]
    cases decodeFrom 0 (position + _) rest <;> rfl

/-- Wherever the bytes stand, they are read as the text that they are the UTF-8 form of. -/
theorem decodeFrom_eq_ok_iff (position : Nat) (bytes : List UInt8) (text : List Char) :
    decodeFrom 0 position bytes = .ok text ↔ bytes = encode text := by
  constructor
  -- The text is read off character by character, and each character takes its own bytes.
  · intro decoded
    induction text generalizing position bytes with
    | nil =>
      cases bytes with
      | nil => rfl
      | cons byte bytes =>
        obtain ⟨announced, tail, rest, code, rfl, makes⟩ := decodeFrom_cons_inv decoded
        rw [decodeFrom_makes makes, map_eq_ok_iff] at decoded
        obtain ⟨_, _, read⟩ := decoded
        cases read
    | cons c text ih =>
      cases bytes with
      | nil => simp [decodeFrom] at decoded
      | cons byte bytes =>
        obtain ⟨announced, tail, rest, code, rfl, makes⟩ := decodeFrom_cons_inv decoded
        rw [decodeFrom_makes makes, map_eq_ok_iff] at decoded
        obtain ⟨read, later, split⟩ := decoded
        obtain ⟨rfl, rfl⟩ := List.cons.inj split
        obtain ⟨written, rfl, bytes⟩ := (makes_iff byte tail code).mp ⟨announced, makes⟩
        rw [encode_cons, Char.ofNat_toNat, bytes, ih _ _ later]
        rfl
  · rintro rfl
    simpa [decodeFrom, Except.map] using decodeFrom_encode_append text position []

/-- The decoder accepts the UTF-8 forms of texts and nothing else. -/
theorem decode_eq_ok_iff (bytes : List UInt8) (text : List Char) :
    decode bytes = .ok text ↔ bytes = encode text :=
  decodeFrom_eq_ok_iff 0 bytes text

end TopicAccess.Text.Utf8
