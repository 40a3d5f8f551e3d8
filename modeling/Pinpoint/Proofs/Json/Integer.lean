import Mathlib.Data.Nat.Digits.Defs
import Pinpoint.Json.Number

/-! Numerals of integers. Where a signed or an unsigned word holds the integer that the digits
spell, a numeral stands for exactly that integer, although its digits are taken in one by one. -/
namespace Pinpoint.Json

/-- The natural number that the digits in front of the point spell. -/
def Numeral.magnitude (n : Numeral) : Nat :=
  Nat.ofDigits 10 n.whole

/-- A numeral spells an integer that a word holds. Minus zero is no integer. -/
structure Numeral.Denotes (n : Numeral) (z : Int) : Prop where
  no_fraction : n.fraction = []
  no_exponent : n.exponent = []
  value : z = if n.negative then -(n.magnitude : Int) else n.magnitude
  nonzero : n.negative = true → z ≠ 0
  lower : -2 ^ 63 ≤ z
  upper : z < 2 ^ 64

def Number.ofInt (z : Int) : Number :=
  if 0 ≤ z then .natural z.toNat.toUInt64 else .negative z

namespace Numeral

theorem foldr_pushWhole {digits : List Nat} (fits : Nat.ofDigits 10 digits < UInt64.size) :
    digits.foldr Significand.pushWhole {} = { digits := Nat.ofDigits 10 digits } := by
  induction digits with
  | nil => rfl
  | cons d ds ih =>
    rw [Nat.ofDigits_cons] at fits
    have value : Nat.ofDigits 10 ds * 10 + d = Nat.ofDigits 10 (d :: ds) := by
      rw [Nat.ofDigits_cons]
      omega
    rw [List.foldr_cons, ih (by omega), Significand.pushWhole, if_neg]
    · rw [value]
    · rintro (full | large)
      · cases full
      · dsimp only at large
        omega

theorem Denotes.unique {n : Numeral} {y z : Int} (first : n.Denotes y) (second : n.Denotes z) :
    y = z :=
  first.value.trans second.value.symm

theorem value?_eq_ofInt {n : Numeral} {z : Int} (denotes : n.Denotes z) :
    n.value? = some (Number.ofInt z) := by
  obtain ⟨noFraction, noExponent, value, nonzero, lower, upper⟩ := denotes
  have words : UInt64.size = 2 ^ 64 := rfl
  have fits : n.magnitude < UInt64.size := by
    split at value <;> omega
  have whole : n.wholeSignificand = { digits := n.magnitude } := foldr_pushWhole fits
  have exact : ¬ (false = true ∨ n.fraction ≠ [] ∨ n.exponent ≠ []) := by
    simp [noFraction, noExponent]
  rw [value?, whole, if_neg exact]
  cases sign : n.negative with
  | false =>
    rw [sign, if_neg (by decide)] at value
    subst value
    simp [Number.ofInt]
  | true =>
    rw [sign, if_pos rfl] at value
    have zero := nonzero sign
    have small : 0 < n.magnitude ∧ n.magnitude ≤ 1 <<< 63 := by omega
    have below : ¬ 0 ≤ z := by omega
    rw [Number.ofInt, if_neg below, value]
    simp only [Bool.not_true, Bool.false_eq_true, if_false, if_pos small]

end Numeral
end Pinpoint.Json
