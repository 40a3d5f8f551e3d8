import Pinpoint.Excerpt.Basic

/-! The fields that an excerpt has in JSON, and those of them that have been read. -/
namespace Pinpoint.Excerpt.Record

inductive Field where
  | firstLine
  | lines
  | markedIndex
  deriving DecidableEq, Repr

namespace Field

def key : Field → String
  | .firstLine => "first_line"
  | .lines => "lines"
  | .markedIndex => "error_line_index"

def ofKey? (key : String) : Option Field :=
  [firstLine, lines, markedIndex].find? fun field => field.key = key

/-- The place of a field where there are no keys. -/
def index : Field → Nat
  | .firstLine => 0
  | .lines => 1
  | .markedIndex => 2

def count : Nat := 3

theorem ofKey?_key (field : Field) : ofKey? field.key = some field := by
  cases field <;> decide

theorem ofKey?_eq_some_iff {key : String} {field : Field} :
    ofKey? key = some field ↔ key = field.key := by
  constructor
  · intro found
    have same := List.find?_some found
    exact (of_decide_eq_true same).symm
  · rintro rfl
    exact ofKey?_key field

end Field

structure Fields where
  firstLine : Option UInt64 := none
  lines : Option (List String) := none
  markedIndex : Option UInt64 := none
  deriving DecidableEq, Repr

namespace Fields

def has (fields : Fields) : Field → Bool
  | .firstLine => fields.firstLine.isSome
  | .lines => fields.lines.isSome
  | .markedIndex => fields.markedIndex.isSome

/-- The excerpt with these fields, or else the first field that is missing. -/
def excerpt (fields : Fields) : Except Field Excerpt :=
  match fields with
  | ⟨some firstLine, some lines, some markedIndex⟩ => .ok ⟨firstLine, lines, markedIndex⟩
  | ⟨none, _, _⟩ => .error .firstLine
  | ⟨_, none, _⟩ => .error .lines
  | ⟨_, _, none⟩ => .error .markedIndex

end Fields
end Pinpoint.Excerpt.Record
