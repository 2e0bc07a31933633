/-!
# Shortest decimals

A double stands for the reals that round to it. Among the decimals in that interval the ones with
the fewest digits are sought, and of these the one nearest to the value. If a grid of decimals meets
the interval, so does one of the two points of the grid next to the value; therefore only these two
are tried, on ever finer grids. Seventeen digits always suffice.
-/
namespace TopicAccess.Decimal

/-- The positive value `mantissa * 2 ^ power`. The gap below the least mantissa of a binade is half
the gap above it. -/
structure Binary where
  mantissa : Nat
  power : Int
  narrowBelow : Bool
deriving DecidableEq, Repr

/-- The magnitude that the bits of a finite double stand for. -/
def Binary.ofBits (bits : UInt64) : Binary :=
  let biased : Nat := (bits.toNat / Nat.pow 2 52) % Nat.pow 2 11
  let fraction : Nat := bits.toNat % Nat.pow 2 52
  if biased = 0 then ⟨fraction, -1074, false⟩
  else ⟨Nat.pow 2 52 + fraction, (biased : Int) - 1075, fraction == 0 && 1 < biased⟩

/-- The digits of a positive decimal and the place of the point, counted from the first digit. -/
structure Digits where
  digits : Nat
  point : Int
deriving DecidableEq, Repr

/-- A fraction that equals `n * 2 ^ power / 10 ^ place`. -/
def scaled (n : Nat) (power place : Int) : Nat × Nat :=
  (n * Nat.pow 2 power.toNat * Nat.pow 10 (-place).toNat,
    Nat.pow 2 (-power).toNat * Nat.pow 10 place.toNat)

/-- Whether a multiple of `10 ^ place` lies in the interval of a binary value. The ends belong to it
when the mantissa is even. -/
def Binary.holds (value : Binary) (multiple : Nat) (place : Int) : Bool :=
  let below := if value.narrowBelow then 4 * value.mantissa - 1 else 4 * value.mantissa - 2
  let (low, lowUnit) := scaled below (value.power - 2) place
  let (high, highUnit) := scaled (4 * value.mantissa + 2) (value.power - 2) place
  if value.mantissa % 2 = 0 then low ≤ multiple * lowUnit && multiple * highUnit ≤ high
  else low < multiple * lowUnit && multiple * highUnit < high

/-- The multiple of `10 ^ place` in the interval that is next to the value, if there is one. Of two
the nearer is taken, and of two at one distance the even one. -/
def Binary.onGrid? (value : Binary) (place : Int) : Option Nat :=
  let (size, unit) := scaled value.mantissa value.power place
  let lower := size / unit
  let upper := lower + 1
  match value.holds lower place && 0 < lower, value.holds upper place with
  | true, true =>
    let twice := 2 * (size - lower * unit)
    some (if twice < unit || (twice == unit && lower % 2 == 0) then lower else upper)
  | true, false => some lower
  | false, true => some upper
  | false, false => none

/-- A power of ten that exceeds a value. The binary logarithm is turned into a decimal one with a
factor that is a little too large. -/
def Binary.firstPlace (value : Binary) : Int :=
  Int.fdiv ((value.mantissa.log2 + 1 + value.power) * 30103) 100000 + 1

/-- The number of grids that are tried: the first may be two places too coarse. -/
def gridCount : Nat := 20

def Binary.search (value : Binary) : Nat → Int → Nat × Int
  | 0, place => let (size, unit) := scaled value.mantissa value.power place; (size / unit, place)
  | steps + 1, place =>
    match value.onGrid? place with
    | some multiple => (multiple, place)
    | none => value.search steps (place - 1)

/-- Digits without zeros at their end. -/
def stripZeros : Nat → Nat → Int → Nat × Int
  | 0, digits, place => (digits, place)
  | steps + 1, digits, place =>
    if digits % 10 = 0 && 0 < digits then stripZeros steps (digits / 10) (place + 1)
    else (digits, place)

def Binary.shortest (value : Binary) : Digits :=
  let (multiple, place) := value.search gridCount value.firstPlace
  let (digits, place) := stripZeros (Nat.toDigits 10 multiple).length multiple place
  ⟨digits, (Nat.toDigits 10 digits).length + place⟩

end TopicAccess.Decimal
