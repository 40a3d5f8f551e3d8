import Pinpoint.Json.Numeral

/-! The numbers that numerals stand for. An integer that fits into a 64-bit word, or into a signed
one if it is negative, is exact. Any other number is a binary floating point number: the digits that
fit into a word are taken as an integer and scaled by powers of ten. -/
namespace Pinpoint.Json

inductive Number where
  | natural (n : UInt64)
  /-- An integer below zero. -/
  | negative (n : Int)
  | real (x : Float)

namespace Numeral

/-- Digits taken as an integer below `2 ^ 64`, as far as they fit, and a power of ten. -/
structure Significand where
  digits : Nat := 0
  scale : Int := 0
  /-- Whether a digit has been left out. -/
  full : Bool := false
  deriving DecidableEq, Repr

/-- A digit in front of the point. One that does not fit counts as a place, and so do all that
follow it. -/
def Significand.pushWhole (d : Nat) (s : Significand) : Significand :=
  if s.full ∨ UInt64.size ≤ s.digits * 10 + d then { s with scale := s.scale + 1, full := true }
  else { s with digits := s.digits * 10 + d }

/-- A digit behind the point. One that does not fit is left out, and so are all that follow it. -/
def Significand.pushFraction (d : Nat) (s : Significand) : Significand :=
  if s.full ∨ UInt64.size ≤ s.digits * 10 + d then { s with full := true }
  else { s with digits := s.digits * 10 + d, scale := s.scale - 1 }

def wholeSignificand (n : Numeral) : Significand :=
  n.whole.foldr Significand.pushWhole {}

/-- All digits. A digit behind the point may fit where one in front of it did not. -/
def significand (n : Numeral) : Significand :=
  n.fraction.foldr Significand.pushFraction { n.wholeSignificand with full := false }

def exponentValue (n : Numeral) : Int :=
  let magnitude : Nat := n.exponent.foldr (fun d value => value * 10 + d) 0
  if n.negativeExponent then -(magnitude : Int) else magnitude

/-- The greatest power of ten that numbers are scaled by at once. -/
def greatestStep : Nat := 308

def tenTo (exponent : Nat) : Float := Float.ofScientific 1 false exponent

/-- The number `x · 10 ^ exponent`, scaled down in steps where it is small; there is none where it
is too large. -/
def scaled? (x : Float) (exponent : Int) : Option Float :=
  if exponent.natAbs ≤ greatestStep then
    if 0 ≤ exponent then
      let product := x * tenTo exponent.natAbs
      if product.isInf then none else some product
    else some (x / tenTo exponent.natAbs)
  else if x == 0 then some x
  else if 0 ≤ exponent then none
  else scaled? (x / tenTo greatestStep) (exponent + greatestStep)
  termination_by exponent.natAbs
  decreasing_by simp only [greatestStep] at *; omega

def signed (n : Numeral) (x : Float) : Float :=
  if n.negative then -x else x

def real? (n : Numeral) : Option Number :=
  let s := n.significand
  (scaled? s.digits.toUInt64.toFloat (s.scale + n.exponentValue)).map (.real <| n.signed ·)

/-- The number that a numeral stands for, unless it is too large for a floating point number.
Minus zero is a floating point number. -/
def value? (n : Numeral) : Option Number :=
  let whole := n.wholeSignificand
  if whole.full ∨ n.fraction ≠ [] ∨ n.exponent ≠ [] then n.real?
  else if !n.negative then some (.natural whole.digits.toUInt64)
  else if 0 < whole.digits ∧ whole.digits ≤ 1 <<< 63 then some (.negative (-whole.digits))
  else n.real?

end Numeral
end Pinpoint.Json
