import Pinpoint.Decimal.Shortest

/-! How decimals are laid out: with the point in its place where the exponent is small, with one
digit in front of the point and the exponent behind it elsewhere. -/
namespace Pinpoint.Decimal

structure Layout where
  /-- The least power of ten of a first digit that is written with the point in its place. -/
  least : Int
  /-- The greatest one. -/
  greatest : Int
  deriving DecidableEq, Repr

def Scientific.positional (s : Scientific) : List Char :=
  if s.exponent < 0 then
    ['0', '.'] ++ List.replicate (-s.exponent - 1).toNat '0' ++ s.digits
  else
    let whole := s.exponent.toNat + 1
    s.digits.take whole ++ List.replicate (whole - s.digits.length) '0' ++ ['.'] ++
      (if s.digits.length ≤ whole then ['0'] else s.digits.drop whole)

/-- The point behind the first digit, if there is a second one, and the exponent with its sign, in
as many digits as it needs. -/
def Scientific.withExponent (s : Scientific) : List Char :=
  s.digits.take 1 ++ (if s.digits.length ≤ 1 then [] else '.' :: s.digits.drop 1) ++
    ['e', if s.exponent < 0 then '-' else '+'] ++
    Nat.toDigits 10 s.exponent.natAbs

def Layout.write (layout : Layout) (s : Scientific) : List Char :=
  if layout.least ≤ s.exponent ∧ s.exponent ≤ layout.greatest then s.positional
  else s.withExponent

/-- The bit that says whether a number is negative. -/
def signBit : Nat := 1 <<< 63

def Layout.writeFloat (layout : Layout) (x : Float) : String :=
  let bits := x.toBits
  let sign := if bits.toNat < signBit then [] else ['-']
  let magnitude :=
    if bits.toNat % signBit = 0 then ['0', '.', '0']
    else layout.write (Decimal.Binary.ofBits bits).shortest
  String.ofList (sign ++ magnitude)

end Pinpoint.Decimal
