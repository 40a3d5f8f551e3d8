/-! Numbers as JSON writes them, read one character after the other. A numeral keeps its digits;
what number they stand for is a question of its own. -/
namespace Pinpoint.Json

/-- A number by its digits, of which the last one comes first. A numeral of an integer has neither
fraction nor exponent digits. -/
structure Numeral where
  negative : Bool := false
  /-- The digits in front of the point. -/
  whole : List Nat := []
  /-- The digits behind the point. -/
  fraction : List Nat := []
  negativeExponent : Bool := false
  exponent : List Nat := []
  deriving DecidableEq, Repr

namespace Numeral

/-- The part of a numeral that was read last. -/
inductive Part where
  /-- The minus sign. A digit has to follow. -/
  | sign
  /-- A zero in front. No digit may follow. -/
  | zero
  | whole
  /-- The point. A digit has to follow. -/
  | point
  | fraction
  /-- The mark of the exponent. A sign or a digit has to follow. -/
  | mark
  /-- The sign of the exponent. A digit has to follow. -/
  | exponentSign
  | exponent
  deriving DecidableEq, Repr

def Part.mayEnd : Part → Bool
  | .zero | .whole | .fraction | .exponent => true
  | .sign | .point | .mark | .exponentSign => false

structure Reading where
  numeral : Numeral
  part : Part
  deriving DecidableEq, Repr

inductive Outcome where
  | more (n : Reading)
  /-- The numeral ended in front of the character. -/
  | over (n : Numeral)
  | malformed
  deriving DecidableEq, Repr

def digit? (c : Char) : Option Nat :=
  if c.isDigit then some (c.toNat - '0'.toNat) else none

def begin? (c : Char) : Option Reading :=
  if c = '-' then some ⟨{ negative := true }, .sign⟩
  else (digit? c).map fun d => ⟨{ whole := [d] }, if d = 0 then .zero else .whole⟩

namespace Reading

def digit (n : Reading) (d : Nat) : Outcome :=
  match n.part with
  | .zero => .malformed
  | .sign =>
    .more ⟨{ n.numeral with whole := [d] }, if d = 0 then .zero else .whole⟩
  | .whole => .more ⟨{ n.numeral with whole := d :: n.numeral.whole }, .whole⟩
  | .point | .fraction =>
    .more ⟨{ n.numeral with fraction := d :: n.numeral.fraction }, .fraction⟩
  | .mark | .exponentSign | .exponent =>
    .more ⟨{ n.numeral with exponent := d :: n.numeral.exponent }, .exponent⟩

def other (n : Reading) (c : Char) : Outcome :=
  match n.part with
  | .zero | .whole =>
    if c = '.' then .more { n with part := .point }
    else if c = 'e' ∨ c = 'E' then .more { n with part := .mark }
    else .over n.numeral
  | .fraction => if c = 'e' ∨ c = 'E' then .more { n with part := .mark } else .over n.numeral
  | .mark =>
    if c = '+' then .more { n with part := .exponentSign }
    else if c = '-' then .more ⟨{ n.numeral with negativeExponent := true }, .exponentSign⟩
    else .malformed
  | .exponent => .over n.numeral
  | .sign | .point | .exponentSign => .malformed

def next (n : Reading) (c : Char) : Outcome :=
  match digit? c with
  | some d => n.digit d
  | none => n.other c

/-- The numeral that has been read, if it may end here. -/
def ended? (n : Reading) : Option Numeral :=
  if n.part.mayEnd then some n.numeral else none

end Reading
end Numeral
end Pinpoint.Json
