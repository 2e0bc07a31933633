import TopicAccess.Text.Utf8
import TopicAccess.Text.Wide

/-!
# Character sets by name

A file may be written in a character set that is given by name. Names are compared without regard to
case and to the signs between their words. A mark of the order of bytes in front of a text is part
of the text in UTF-8, unless the set is the one that begins with it; in the wide encodings it must
be there.
-/
namespace TopicAccess.Text

/-- The character sets that are known. -/
inductive Charset where
  | utf8
  | utf8Marked
  | ascii
  | latin1
  | utf16
  | utf32
deriving DecidableEq, Repr

namespace Charset

inductive Fault where
  | illFormed (fault : Utf8.Fault)
  | notAscii (byte : UInt8) (position : Nat)
  | noMark (width : Nat)
deriving DecidableEq, Repr

def Fault.message : Fault → String
  | illFormed fault => fault.message
  | notAscii byte position => "'ascii' codec can't decode byte 0x" ++
      String.ofList (hexDigits 2 byte.toNat) ++ " in position " ++ toString position ++
      ": ordinal not in range(128)"
  | noMark width => "UTF-" ++ toString width ++ " stream does not start with BOM"

/-- The names of the character sets, with their words joined by single signs. -/
def names : List (Charset × List String) := [
  (utf8, ["utf_8", "utf8", "utf", "u8", "utf8_ucs2", "utf8_ucs4", "cp65001"]),
  (utf8Marked, ["utf_8_sig"]),
  (ascii, ["ascii", "us_ascii", "us", "646", "cp367", "ibm367", "iso646_us", "iso_ir_6",
    "csascii", "ansi_x3.4_1968", "ansi_x3_4_1968", "ansi_x3.4_1986", "iso_646.irv_1991"]),
  (latin1, ["latin_1", "latin1", "latin", "l1", "8859", "iso8859", "iso8859_1", "iso_8859_1",
    "iso_8859_1_1987", "iso_ir_100", "cp819", "ibm819", "csisolatin1"]),
  (utf16, ["utf_16", "utf16", "u16"]),
  (utf32, ["utf_32", "utf32", "u32"])]

/-- A name in small letters with its words joined by single signs. -/
def plainName (name : List Char) : List Char :=
  let isPart := fun c : Char => c.isAlphanum || c == '.'
  let joined := name.foldl (fun (read, split) c =>
    if isPart c then ((if split && read != [] then read ++ ['_'] else read) ++ [c.toLower], false)
    else (read, true)) (([] : List Char), false)
  joined.1

def ofName? (name : String) : Option Charset :=
  let plain := String.ofList (plainName name.toList)
  (names.find? fun entry => entry.2.contains plain).map (·.1)

/-- The position of the first byte beyond ASCII, and the byte. -/
def beyondAscii? (position : Nat) : List UInt8 → Option (UInt8 × Nat)
  | [] => none
  | byte :: rest =>
    if byte.toNat < 0x80 then beyondAscii? (position + 1) rest else some (byte, position)

/-- A text of wide units behind the mark that tells the order of their bytes. -/
def decodeMarked (width : Nat) (decode? : Wide.ByteOrder → List UInt8 → Option (List Nat))
    (bytes : List UInt8) : Except Fault (List Char) :=
  let behindMark? := fun order => match decode? order bytes with
    | some (0xFEFF :: codes) => some (codes.map Wide.charOf)
    | _ => none
  if bytes = [] then .ok []
  else match (behindMark? .littleEndian).or (behindMark? .bigEndian) with
    | some text => .ok text
    | none => .error (.noMark width)

def decode (bytes : List UInt8) : Charset → Except Fault (List Char)
  | utf8 => (Utf8.decode bytes).mapError .illFormed
  | utf8Marked =>
    match bytes with
    | [0xEF] | [0xEF, 0xBB] => .ok []
    | 0xEF :: 0xBB :: 0xBF :: rest => (Utf8.decode rest).mapError .illFormed
    | _ => (Utf8.decode bytes).mapError .illFormed
  | ascii =>
    match beyondAscii? 0 bytes with
    | some (byte, position) => .error (.notAscii byte position)
    | none => .ok (bytes.map fun byte => Char.ofNat byte.toNat)
  | latin1 => .ok (bytes.map fun byte => Char.ofNat byte.toNat)
  | utf16 => decodeMarked 16 Wide.codes16? bytes
  | utf32 => decodeMarked 32 Wide.codes32? bytes

end Charset

end TopicAccess.Text
