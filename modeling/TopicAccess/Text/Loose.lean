import TopicAccess.Text.Utf8

/-!
# Loose text

In a loose text halves of surrogate pairs may stand among the characters. Some halves stand for a
byte that belongs to no character; any other half has no bytes, and a text with such a half cannot
be encoded. What is reported then are the first half without bytes and the halves right behind it.
-/
namespace TopicAccess.Text

/-- Whether a code point is half of a surrogate pair. -/
def isHalf (code : Nat) : Bool :=
  0xD800 ≤ code && code ≤ 0xDFFF

/-- A code point: a character, or half of a surrogate pair by its number among the halves. -/
inductive Point where
  | char (c : Char)
  | half (number : Fin 0x800)
deriving DecidableEq, Repr

/-- Text in which halves of surrogate pairs may stand alone. -/
abbrev Loose := List Point

namespace Point

def code : Point → Nat
  | char c => c.toNat
  | half number => 0xD800 + number

def ofCode (code : Nat) : Point :=
  if within : 0xD800 ≤ code ∧ code ≤ 0xDFFF then half ⟨code - 0xD800, by omega⟩
  else char (Char.ofNat code)

def char? : Point → Option Char
  | char c => some c
  | half _ => none

/-- The bytes of a code point. The halves that stand for a byte are those for 80 to FF. -/
def bytes? : Point → Option (List UInt8)
  | char c => some (String.utf8EncodeChar c)
  | half number =>
    if 0x480 ≤ number.val && number.val < 0x500 then some [UInt8.ofNat (number - 0x400)] else none

/-- How a code point is written between the given quotes. -/
def quote (sign : Char) : Point → List Char
  | char c => quoteChar sign c
  | half number => '\\' :: 'u' :: hexDigits 4 (half number).code

end Point

/-- Halves of surrogate pairs that stand alone: the number of code points before them, and the
halves in a row. -/
structure Lone where
  position : Nat
  run : List Nat
deriving DecidableEq, Repr

/-- What is reported of halves of surrogate pairs: the one itself when it is single, else the
positions of the first and the last. -/
def Lone.message (lone : Lone) : String :=
  let place := match lone.run with
    | [code] => "character '\\u" ++ String.ofList (hexDigits 4 code) ++ "' in position " ++
        toString lone.position
    | run => "characters in position " ++ toString lone.position ++ "-" ++
        toString (lone.position + run.length - 1)
  "'utf-8' codec can't encode " ++ place ++ ": surrogates not allowed"

namespace Loose

def ofString (text : String) : Loose :=
  text.toList.map .char

instance : Coe String Loose := ⟨ofString⟩

@[simp] theorem ofString_eq_nil_iff (text : String) : ofString text = [] ↔ text = "" := by
  simp [ofString]

def ofCodes (codes : List Nat) : Loose :=
  codes.map .ofCode

/-- The bytes of a text. A half without bytes is passed over. -/
def encode (text : Loose) : List UInt8 :=
  text.flatMap fun point => point.bytes?.getD []

/-- The first halves that keep a text from being encoded. -/
def lone? (text : Loose) : Option Lone :=
  let before := text.takeWhile (·.bytes?.isSome)
  match ((text.dropWhile (·.bytes?.isSome)).map Point.code).takeWhile isHalf with
  | [] => none
  | run => some ⟨before.length, run⟩

def quoted (text : Loose) : String :=
  let sign := quoteFor (text.filterMap Point.char?)
  String.ofList (sign :: text.flatMap (·.quote sign) ++ [sign])

end Loose

end TopicAccess.Text
