import Mathlib.Data.List.Induction
import Pinpoint.Site

/-! What is written last. A detail writes one or two of the four fields of a site, and each field
holds what the last detail that writes it has put there. So details about different fields may come
in any order: two lists of details give the same site exactly if they write the same last. -/
namespace Pinpoint.Site

namespace Detail

def line? : Detail → Option UInt64
  | .line value | .lineAndColumn value _ => some value
  | .text _ | .name _ => none

def column? : Detail → Option UInt64
  | .lineAndColumn _ value => some value
  | .text _ | .name _ | .line _ => none

def text? : Detail → Option String
  | .text value => some value
  | .name _ | .line _ | .lineAndColumn _ _ => none

def name? : Detail → Option String
  | .name value => some value
  | .text _ | .line _ | .lineAndColumn _ _ => none

end Detail

/-- The last of the details that write a field. -/
def lastWriter {α : Type} (write : Detail → Option α) (details : List Detail) : Option Detail :=
  (details.filter fun d => (write d).isSome).getLast?

/-- What is written last to a field. -/
def lastWritten {α : Type} (write : Detail → Option α) (details : List Detail) : Option α :=
  (lastWriter write details).bind write

section

variable {α : Type} (write : Detail → Option α) (details : List Detail)

theorem lastWriter_concat (d : Detail) : lastWriter write (details ++ [d]) =
    if (write d).isSome then some d else lastWriter write details := by
  rw [lastWriter, lastWriter, List.filter_append, List.filter_cons, List.filter_nil]
  split
  · exact List.getLast?_concat
  · rw [List.append_nil]

theorem lastWritten_concat (d : Detail) :
    lastWritten write (details ++ [d]) = (write d).or (lastWritten write details) := by
  rw [lastWritten, lastWriter_concat]
  cases writes : write d with
  | none => rfl
  | some a => exact writes

end

/-- A detail fills in what it writes, and leaves every other field as it is. -/
theorem add_eq (s : Site) (d : Detail) : s.add d =
    ⟨d.line?.or s.line, d.column?.or s.column, d.text?.or s.text, d.name?.or s.name⟩ := by
  cases d <;> rfl

/-- Each field of a site holds what has been written to it last. -/
theorem ofDetails_eq (details : List Detail) : ofDetails details =
    ⟨lastWritten Detail.line? details, lastWritten Detail.column? details,
      lastWritten Detail.text? details, lastWritten Detail.name? details⟩ := by
  induction details using List.reverseRecOn with
  | nil => rfl
  | append_singleton details d ih =>
    rw [ofDetails_append_singleton, add_eq, ih]
    simp only [lastWritten_concat]

/-- Two lists of details that write the same last to each field, or leave it blank. -/
structure AgreeLast (details others : List Detail) : Prop where
  line : lastWritten Detail.line? details = lastWritten Detail.line? others
  column : lastWritten Detail.column? details = lastWritten Detail.column? others
  text : lastWritten Detail.text? details = lastWritten Detail.text? others
  name : lastWritten Detail.name? details = lastWritten Detail.name? others

theorem ofDetails_eq_iff {details others : List Detail} :
    ofDetails details = ofDetails others ↔ AgreeLast details others := by
  rw [ofDetails_eq, ofDetails_eq, Site.mk.injEq]
  constructor
  · rintro ⟨line, column, text, name⟩
    exact ⟨line, column, text, name⟩
  · intro agree
    exact ⟨agree.line, agree.column, agree.text, agree.name⟩

/-- A column that is known stands in the last detail with a column. That one has a line as well, so
no line comes after it, or the last that does is a line alone. -/
theorem lastWriter_of_column {details : List Detail} {column : UInt64}
    (known : lastWritten Detail.column? details = some column) :
    ∃ given, lastWriter Detail.column? details = some (.lineAndColumn given column) ∧
      (lastWriter Detail.line? details = some (.lineAndColumn given column) ∨
        ∃ later, lastWriter Detail.line? details = some (.line later)) := by
  induction details using List.reverseRecOn with
  | nil => cases known
  | append_singleton details d ih =>
    rw [lastWritten_concat] at known
    rw [lastWriter_concat, lastWriter_concat]
    cases d with
    | text | name => exact ih known
    | line later =>
      obtain ⟨given, source, -⟩ := ih known
      exact ⟨given, source, .inr ⟨later, rfl⟩⟩
    | lineAndColumn given own =>
      cases known
      exact ⟨given, rfl, .inl rfl⟩

end Pinpoint.Site
