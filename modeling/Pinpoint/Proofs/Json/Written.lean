import Mathlib.Data.Nat.Digits.Lemmas
import Pinpoint.Json.Grammar
import Pinpoint.Json.Text
import Pinpoint.Proofs.Json.Integer

/-! What is written as JSON follows the grammar of JSON: every text is spelled between quotes with
the escapes it needs, and every natural number in its decimal digits, of which the first one is no
zero unless it is the only one. -/
namespace Pinpoint.Json

theorem spellsHexDigit_digitChar {d : Nat} (small : d < 16) :
    SpellsHexDigit d (Nat.digitChar d) := by
  have all : ∀ d < 16, "0123456789abcdef".toList[d]? = some (Nat.digitChar d) := by decide
  exact .inl (all d small)

theorem spellsCode_control {n : Nat} (small : n < 0x20) :
    SpellsCode n ['0', '0', Nat.digitChar (n / 16), Nat.digitChar (n % 16)] := by
  have zero : SpellsHexDigit 0 '0' := .inl rfl
  have spells := SpellsCode.digits zero zero
    (spellsHexDigit_digitChar (show n / 16 < 16 by omega))
    (spellsHexDigit_digitChar (show n % 16 < 16 by omega))
  have value : 0 * 0x1000 + 0 * 0x100 + n / 16 * 0x10 + n % 16 = n := by omega
  rwa [value] at spells

/-- A control character without a short escape is spelled by its code. -/
theorem spellsBody_escapedChar (c : Char) {text spelled : List Char}
    (rest : SpellsBody text spelled) : SpellsBody (c :: text) (escapedChar c ++ spelled) := by
  unfold escapedChar
  split
  case h_8 quote backslash _ _ _ _ _ =>
    split
    · rename_i control
      have spelled := SpellsBody.code (spellsCode_control control) (.inl (by omega)) rest
      rwa [Char.ofNat_toNat] at spelled
    · exact .plain quote backslash (by omega) rest
  all_goals exact .escape (by constructor) rest

theorem spellsString_writeText (text : String) : SpellsString text (writeText text) := by
  have body : ∀ cs : List Char, SpellsBody cs (cs.flatMap escapedChar) := by
    intro cs
    induction cs with
    | nil => exact .nil
    | cons c cs ih => exact spellsBody_escapedChar c ih
  exact .quotes (body text.toList)

theorem toDigits_eq_digitText {n : Nat} (positive : 0 < n) :
    Nat.toDigits 10 n = digitText (Nat.digits 10 n) := by
  induction n using Nat.strongRecOn with
  | ind n ih =>
    rw [Nat.digits_def' (by decide) positive]
    have last : ∀ ds, digitText (n % 10 :: ds) = digitText ds ++ [Nat.digitChar (n % 10)] := by
      intro ds
      simp [digitText]
    by_cases small : n < 10
    · have none : Nat.digits 10 (n / 10) = [] := by simp [Nat.div_eq_of_lt small]
      rw [Nat.toDigits_of_lt_base small, last, none, Nat.mod_eq_of_lt small]
      rfl
    · rw [Nat.toDigits_of_base_le (by decide) (by omega), ih (n / 10) (by omega) (by omega), last]

def Numeral.ofNat (n : Nat) : Numeral :=
  { whole := if n = 0 then [0] else Nat.digits 10 n }

theorem magnitude_ofNat (n : Nat) : (Numeral.ofNat n).magnitude = n := by
  unfold Numeral.magnitude Numeral.ofNat
  split
  · rename_i zero
    simp [zero]
  · exact Nat.ofDigits_digits 10 n

theorem denotes_ofNat {n : Nat} (fits : n < UInt64.size) : (Numeral.ofNat n).Denotes n := by
  have words : UInt64.size = 2 ^ 64 := rfl
  refine ⟨rfl, rfl, ?_, ?_, by omega, by omega⟩
  · rw [magnitude_ofNat]
    rfl
  · intro negative
    cases negative

theorem spellsWhole_ofNat (n : Nat) : SpellsWhole (Numeral.ofNat n).whole (Nat.toDigits 10 n) := by
  unfold Numeral.ofNat
  by_cases zero : n = 0
  · subst zero
    exact .zero
  · have some : Nat.digits 10 n ≠ [] := Nat.digits_ne_nil_iff_ne_zero.mpr zero
    have split := List.dropLast_concat_getLast some
    have first := Nat.getLast_digit_ne_zero 10 zero
    rw [if_neg zero, toDigits_eq_digitText (Nat.pos_of_ne_zero zero), ← split]
    refine .digits (Nat.pos_of_ne_zero first) ?_
    intro d there
    apply Nat.digits_lt_base (b := 10) (m := n) (by decide)
    rw [← split]
    simpa [or_comm] using there

theorem spells_toDigits (n : Nat) : Spells (.number (Numeral.ofNat n)) (Nat.toDigits 10 n) := by
  have numeral : SpellsNumeral (Numeral.ofNat n) ([] ++ Nat.toDigits 10 n ++ [] ++ []) :=
    .parts (spellsWhole_ofNat n) .none .none
  simpa using Spells.number numeral

end Pinpoint.Json
