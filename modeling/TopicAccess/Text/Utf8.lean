import TopicAccess.Text.Quoted

/-!
# UTF-8

Decoding is strict: overlong forms, surrogates and values above U+10FFFF are refused. A refusal says
where the first ill-formed sequence starts, how many bytes it has and why it is ill-formed. The
sequence is the lead byte with the continuation bytes that were still possible after it. The lossy
decoder goes on behind such a sequence, and never fails.
-/
namespace TopicAccess.Text.Utf8

def encode (text : List Char) : List UInt8 :=
  text.flatMap String.utf8EncodeChar

/-- Why a byte sequence is ill-formed. -/
inductive Defect where
  | badStart
  | badContinuation
  | truncated
deriving DecidableEq, Repr

/-- An ill-formed sequence: the number of bytes before it, its bytes and what is wrong with it. -/
structure Fault where
  position : Nat
  bytes : List UInt8
  defect : Defect
deriving DecidableEq, Repr

/-- What a lead byte announces: the bits it carries and, for each byte that must follow, the range
that the byte must lie in. -/
structure Lead where
  bits : Nat
  tails : List (Nat × Nat)
deriving DecidableEq, Repr

/-- Any continuation byte. -/
def anyTail : Nat × Nat := (0x80, 0xBF)

/-- Read a lead byte. The range of the second byte rules out overlong forms, surrogates and values
that are too large. -/
def Lead.ofByte? (byte : UInt8) : Option Lead :=
  let b := byte.toNat
  if b < 0x80 then some ⟨b, []⟩
  else if b < 0xC2 then none
  else if b < 0xE0 then some ⟨b - 0xC0, [anyTail]⟩
  else if b = 0xE0 then some ⟨0, [(0xA0, 0xBF), anyTail]⟩
  else if b = 0xED then some ⟨0xD, [(0x80, 0x9F), anyTail]⟩
  else if b < 0xF0 then some ⟨b - 0xE0, [anyTail, anyTail]⟩
  else if b = 0xF0 then some ⟨0, [(0x90, 0xBF), anyTail, anyTail]⟩
  else if b < 0xF4 then some ⟨b - 0xF0, [anyTail, anyTail, anyTail]⟩
  else if b = 0xF4 then some ⟨4, [(0x80, 0x8F), anyTail, anyTail]⟩
  else none

/-- What follows a lead byte: the finished code point, or the possible continuation bytes and the
defect that comes after them. -/
inductive Tail where
  | complete (code : Nat)
  | broken (read : List UInt8) (defect : Defect)
deriving DecidableEq, Repr

/-- Read the continuation bytes that a lead byte announces. -/
def readTail (code : Nat) : List (Nat × Nat) → List UInt8 → Tail
  | [], _ => .complete code
  | _ :: _, [] => .broken [] .truncated
  | range :: ranges, byte :: rest =>
    if range.1 ≤ byte.toNat && byte.toNat ≤ range.2 then
      match readTail (code * 64 + (byte.toNat - 0x80)) ranges rest with
      | .complete code => .complete code
      | .broken read defect => .broken (byte :: read) defect
    else .broken [] .badContinuation

/-- Decode bytes of which `position` bytes have been passed. The first argument counts the bytes
that still belong to the character read last. -/
def decodeFrom (skip position : Nat) : List UInt8 → Except Fault (List Char)
  | [] => .ok []
  | byte :: rest =>
    match skip with
    | skip + 1 => decodeFrom skip (position + 1) rest
    | 0 =>
      match Lead.ofByte? byte with
      | none => .error ⟨position, [byte], .badStart⟩
      | some lead =>
        match readTail lead.bits lead.tails rest with
        | .broken read defect => .error ⟨position, byte :: read, defect⟩
        | .complete code =>
          (decodeFrom lead.tails.length (position + 1) rest).map (Char.ofNat code :: ·)

/-- The text that the bytes encode, or the first ill-formed sequence. -/
def decode (bytes : List UInt8) : Except Fault (List Char) :=
  decodeFrom 0 0 bytes

/-- Decode bytes of which the first `skip` have been dealt with, with one replacement character for
each ill-formed sequence. -/
def decodeLossyFrom (skip : Nat) : List UInt8 → List Char
  | [] => []
  | byte :: rest =>
    match skip with
    | skip + 1 => decodeLossyFrom skip rest
    | 0 =>
      match Lead.ofByte? byte with
      | none => '\ufffd' :: decodeLossyFrom 0 rest
      | some lead =>
        match readTail lead.bits lead.tails rest with
        | .broken read _ => '\ufffd' :: decodeLossyFrom read.length rest
        | .complete code => Char.ofNat code :: decodeLossyFrom lead.tails.length rest

/-- The text that bytes encode, whatever is ill-formed in it replaced. -/
def decodeLossy (bytes : List UInt8) : List Char :=
  decodeLossyFrom 0 bytes

def Defect.message : Defect → String
  | .badStart => "invalid start byte"
  | .badContinuation => "invalid continuation byte"
  | .truncated => "unexpected end of data"

/-- What is reported of an ill-formed sequence: the byte itself when it is a single one, else the
positions of the first and the last byte. -/
def Fault.message (fault : Fault) : String :=
  let place := match fault.bytes with
    | [byte] => "byte 0x" ++ String.ofList (hexDigits 2 byte.toNat) ++ " in position " ++
        toString fault.position
    | bytes => "bytes in position " ++ toString fault.position ++ "-" ++
        toString (fault.position + bytes.length - 1)
  "'utf-8' codec can't decode " ++ place ++ ": " ++ fault.defect.message

end TopicAccess.Text.Utf8
