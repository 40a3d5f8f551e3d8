/-! The shortest decimal that reads back as a binary floating point number. Finite numbers, and the
midpoints between neighbours, are whole multiples of the unit `10 ^ -1076`, so that all comparisons
are between natural numbers. -/
namespace Pinpoint.Decimal

/-- The positive number `mantissa · 2 ^ exponent`. -/
structure Binary where
  mantissa : Nat
  exponent : Int
  deriving DecidableEq, Repr

def unitPlaces : Nat := 1076

def inUnits (mantissa : Nat) (exponent : Int) : Nat :=
  mantissa <<< (exponent + unitPlaces).toNat * Nat.pow 5 unitPlaces

/-- The bit in front of the fraction of a number that is not very small. -/
def leadingBit : Nat := 1 <<< 52

/-- The magnitude of a finite number that is not zero, from its 64 bits. -/
def Binary.ofBits (bits : UInt64) : Binary :=
  let exponent : Nat := bits.toNat / leadingBit % 2048
  let fraction : Nat := bits.toNat % leadingBit
  if exponent = 0 then ⟨fraction, -1074⟩ else ⟨leadingBit + fraction, (exponent : Int) - 1075⟩

/-- The numbers that read back as a given one, in units. -/
structure Interval where
  low : Nat
  high : Nat
  /-- Whether the ends belong to it: halfway, reading goes to the even mantissa. -/
  closed : Bool
  deriving DecidableEq, Repr

/-- The numbers nearer to this one than to its neighbours. Below a power of two the neighbour is
nearer by half. -/
def Binary.interval (b : Binary) : Interval where
  low := inUnits (4 * b.mantissa - (if b.mantissa = leadingBit ∧ -1074 < b.exponent then 1 else 2))
    (b.exponent - 2)
  high := inUnits (4 * b.mantissa + 2) (b.exponent - 2)
  closed := b.mantissa % 2 = 0

def Interval.contains (i : Interval) (units : Nat) : Bool :=
  if i.closed then i.low ≤ units && units ≤ i.high else i.low < units && units < i.high

/-- The multiple of `grid` in an interval that is nearest to `units`: one of the two neighbours,
and of two that are as near the even one. -/
def Interval.nearest? (i : Interval) (units grid : Nat) : Option Nat :=
  let below := units / grid
  let above := below + 1
  match i.contains (below * grid), i.contains (above * grid) with
  | false, false => none
  | true, false => some below
  | false, true => some above
  | true, true =>
    let left := units - below * grid
    let right := above * grid - units
    some (if left < right then below
      else if right < left then above
      else if below % 2 = 0 then below else above)

/-- Decimal digits, the first of which stands for this power of ten. -/
structure Scientific where
  digits : List Char
  exponent : Int
  deriving DecidableEq, Repr

/-- The most digits that a number needs. -/
def mostDigits : Nat := 17

/-- The shortest decimal that reads back as the number, and the nearest one of these. -/
def Binary.shortest (b : Binary) : Scientific :=
  let units := inUnits b.mantissa b.exponent
  let interval := b.interval
  let places := (Nat.toDigits 10 units).length
  let found := (List.range mostDigits).findSome? fun dropped =>
    let grid := Nat.pow 10 (places - (dropped + 1))
    (interval.nearest? units grid).map (· * grid)
  let digits := Nat.toDigits 10 (found.getD units)
  { digits := (digits.reverse.dropWhile (· = '0')).reverse
    exponent := (digits.length : Int) - 1 - unitPlaces }

end Pinpoint.Decimal
