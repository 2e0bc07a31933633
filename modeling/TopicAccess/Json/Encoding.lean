import TopicAccess.Text.Loose
import TopicAccess.Text.Wide

/-!
# Encodings of JSON

A JSON text begins with two ASCII characters, if it is longer than one. So the places of null bytes
among the first four bytes tell in which encoding it is written.
-/
namespace TopicAccess.Json

open Text.Wide (ByteOrder)

/-- How a JSON text is encoded. -/
inductive Encoding where
  | utf8
  | utf16 (order : ByteOrder)
  | utf32 (order : ByteOrder)
deriving DecidableEq, Repr

namespace Encoding

def detect : List UInt8 → Encoding
  | [a, b] =>
    if a = 0 then .utf16 .bigEndian else if b = 0 then .utf16 .littleEndian else .utf8
  | a :: b :: c :: d :: _ =>
    if a = 0 then
      if b = 0 then .utf32 .bigEndian else .utf16 .bigEndian
    else if b = 0 then
      if c = 0 && d = 0 then .utf32 .littleEndian else .utf16 .littleEndian
    else .utf8
  | _ => .utf8

def withoutMark : List Char → List Char
  | '\ufeff' :: rest => rest
  | text => text

/-- The text of a code point. Half of a surrogate pair that stands alone gives its escape, which is
the same inside a string and is no JSON outside of one. -/
def charsOf (code : Nat) : List Char :=
  if Text.isHalf code then '\\' :: 'u' :: Text.hexDigits 4 code
  else [Char.ofNat code]

def decode? (bytes : List UInt8) : Encoding → Option (List Char)
  | utf8 => (Text.Utf8.decode bytes).toOption.map withoutMark
  | utf16 order => (Text.Wide.codes16? order bytes).map (·.flatMap charsOf)
  | utf32 order => (Text.Wide.codes32? order bytes).map (·.flatMap charsOf)

end Encoding

/-- The text that bytes encode in the encoding that the first of them tell. -/
def textOfBytes? (bytes : List UInt8) : Option (List Char) :=
  (Encoding.detect bytes).decode? bytes

end TopicAccess.Json
