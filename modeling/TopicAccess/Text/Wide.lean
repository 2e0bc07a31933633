/-!
# Encodings with wide units

UTF-16 and UTF-32 write a character in units of two or four bytes, whose order has to be known.
Bytes that do not fill the last unit, and values above U+10FFFF, are refused. Half of a surrogate
pair that stands alone is decoded as its own code.
-/
namespace TopicAccess.Text.Wide

/-- The order of the bytes of a unit. -/
inductive ByteOrder where
  | bigEndian
  | littleEndian
deriving DecidableEq, Repr

def ByteOrder.join (order : ByteOrder) (bytes : List UInt8) : Nat :=
  let bytes := match order with
    | bigEndian => bytes
    | littleEndian => bytes.reverse
  bytes.foldl (fun value byte => value * 0x100 + byte.toNat) 0

def units16? (order : ByteOrder) : List UInt8 → Option (List Nat)
  | [] => some []
  | a :: b :: rest => (units16? order rest).map (order.join [a, b] :: ·)
  | [_] => none

def units32? (order : ByteOrder) : List UInt8 → Option (List Nat)
  | [] => some []
  | a :: b :: c :: d :: rest => (units32? order rest).map (order.join [a, b, c, d] :: ·)
  | _ => none

/-- The first half of a surrogate pair. -/
def isHigh (unit : Nat) : Bool :=
  0xD800 ≤ unit && unit ≤ 0xDBFF

/-- The second half of a surrogate pair. -/
def isLow (unit : Nat) : Bool :=
  0xDC00 ≤ unit && unit ≤ 0xDFFF

/-- The character of a code point, and the replacement character for a surrogate. -/
def charOf (code : Nat) : Char :=
  if isHigh code || isLow code then '\ufffd' else Char.ofNat code

def ofUnits16 : List Nat → List Nat
  | [] => []
  | [unit] => [unit]
  | high :: low :: rest =>
    if isHigh high && isLow low then
      (0x10000 + (high - 0xD800) * 0x400 + (low - 0xDC00)) :: ofUnits16 rest
    else high :: ofUnits16 (low :: rest)

def codes16? (order : ByteOrder) (bytes : List UInt8) : Option (List Nat) :=
  (units16? order bytes).map ofUnits16

def codes32? (order : ByteOrder) (bytes : List UInt8) : Option (List Nat) :=
  match units32? order bytes with
  | some units => if units.all (· ≤ 0x10FFFF) then some units else none
  | none => none

end TopicAccess.Text.Wide
