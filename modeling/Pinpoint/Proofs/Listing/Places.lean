import Pinpoint.Proofs.Listing.Rows

/-! Where the rows of a listing stand. Below the heading there are the rows of the lines, and the
caret is put in behind the marked one. So the lines down to the marked one stand where they would
without a caret, and the others one row further down. -/
namespace Pinpoint.Listing

theorem insertIdx_append {α : Type} {before : List α} {place : Nat}
    (here : before.length = place) (after : List α) (a : α) :
    (before ++ after).insertIdx place a = before ++ a :: after := by
  subst here
  induction before with
  | nil => rfl
  | cons b before ih => exact congrArg (b :: ·) ih

/-- The rows of the lines, without a caret. -/
def plainRows (gutter : Nat) (numbered : List (UInt64 × String)) : List String :=
  numbered.map fun p => lineRow gutter p.1 p.2

theorem length_plainRows (gutter : Nat) (numbered : List (UInt64 × String)) :
    (plainRows gutter numbered).length = numbered.length :=
  List.length_map _

/-- The row of a line, counted from the heading. The caret takes the row behind the marked line. -/
def rowIndex (l : Listing) (index : Nat) : Nat :=
  if l.column.isSome ∧ l.excerpt.markedIndex.toNat < index then index + 2 else index + 1

theorem body_of_unknown {l : Listing} (unknown : l.column = none) (gutter : Nat) (marked : UInt64)
    (numbered : List (UInt64 × String)) :
    l.body gutter marked numbered = plainRows gutter numbered := by
  rw [body, unknown, plainRows, List.map_eq_flatMap]

namespace Numbering

variable {l : Listing} {last marked : UInt64} {numbered : List (UInt64 × String)} {line : String}
  {column : UInt64}

theorem length_eq {e : Excerpt} (n : Numbering e last marked numbered) :
    numbered.length = e.lines.length := by
  rw [← n.lines, List.length_map]

/-- The caret is put in behind the row of the marked line. -/
theorem body_of_known (n : Numbering l.excerpt last marked numbered)
    (marks : l.excerpt.markedLine? = some line) (known : l.column = some column) (gutter : Nat) :
    l.body gutter marked numbered = (plainRows gutter numbered).insertIdx
      (l.excerpt.markedIndex.toNat + 1) (caretRow gutter line column) := by
  obtain ⟨before, after, rfl, place, body⟩ := n.body_eq marks gutter
  have front : (plainRows gutter before ++ [lineRow gutter marked line]).length =
      l.excerpt.markedIndex.toNat + 1 := by
    rw [List.length_append, length_plainRows, place, List.length_singleton]
  have behind := insertIdx_append front (plainRows gutter after) (caretRow gutter line column)
  rw [body, known]
  simpa [plainRows] using behind.symm

/-- No line takes the row of the caret, and none is lost. -/
theorem getElem?_body_rowIndex (n : Numbering l.excerpt last marked numbered)
    (marks : l.excerpt.markedLine? = some line) (head : String) (gutter index : Nat) :
    (head :: l.body gutter marked numbered)[l.rowIndex index]? =
      (plainRows gutter numbered)[index]? := by
  unfold rowIndex
  cases known : l.column with
  | none =>
    rw [if_neg (by simp), List.getElem?_cons_succ, body_of_unknown known]
  | some column =>
    rw [n.body_of_known marks known]
    split
    · rename_i behind
      rw [List.getElem?_cons_succ, List.getElem?_insertIdx_of_gt (by omega), Nat.add_sub_cancel]
    · rename_i front
      have front : index < l.excerpt.markedIndex.toNat + 1 := by simpa [Nat.lt_succ_iff] using front
      rw [List.getElem?_cons_succ, List.getElem?_insertIdx_of_lt front]

theorem getElem?_body_caret (n : Numbering l.excerpt last marked numbered)
    (marks : l.excerpt.markedLine? = some line) (known : l.column = some column) (head : String)
    (gutter : Nat) :
    (head :: l.body gutter marked numbered)[l.excerpt.markedIndex.toNat + 2]? =
      some (caretRow gutter line column) := by
  obtain ⟨inside, -⟩ := List.getElem?_eq_some_iff.mp marks
  rw [List.getElem?_cons_succ, n.body_of_known marks known, List.getElem?_insertIdx_self,
    length_plainRows, n.length_eq, if_pos (Nat.succ_le_of_lt inside)]

theorem length_body (n : Numbering l.excerpt last marked numbered)
    (marks : l.excerpt.markedLine? = some line) (gutter : Nat) :
    (l.body gutter marked numbered).length =
      l.excerpt.lines.length + if l.column.isSome then 1 else 0 := by
  obtain ⟨inside, -⟩ := List.getElem?_eq_some_iff.mp marks
  cases known : l.column with
  | none => rw [body_of_unknown known, length_plainRows, n.length_eq]; rfl
  | some column =>
    rw [n.body_of_known marks known, List.length_insertIdx, length_plainRows, n.length_eq,
      if_pos (Nat.succ_le_of_lt inside)]
    rfl

theorem getElem?_plainRows {e : Excerpt} (n : Numbering e last marked numbered) {index : Nat}
    (there : e.lines[index]? = some line) (gutter : Nat) : ∃ number : UInt64,
      number.toNat = e.firstLine.toNat + index ∧ digitCount number ≤ digitCount last ∧
      (plainRows gutter numbered)[index]? = some (lineRow gutter number line) := by
  obtain ⟨inside, -⟩ := List.getElem?_eq_some_iff.mp there
  have bound := last.toNat_lt_size
  have behind := n.last_toNat
  obtain ⟨number, place⟩ := exists_word (n := e.firstLine.toNat + index) (by omega)
  have found := (n.getElem?_eq_some_iff (p := (number, line))).mpr ⟨there, place⟩
  have fits := n.digitCount_le (List.mem_of_getElem? found)
  dsimp only at fits
  exact ⟨number, place, fits, by rw [plainRows, List.getElem?_map, found]; rfl⟩

/-- The row of the caret is the only one without a number. -/
theorem unnumbered_iff (n : Numbering l.excerpt last marked numbered)
    (marks : l.excerpt.markedLine? = some line) {place : Nat} {row : String}
    (there : (l.body (digitCount last) marked numbered)[place]? = some row) :
    Unnumbered (digitCount last) row ↔
      l.column.isSome ∧ place = l.excerpt.markedIndex.toNat + 1 := by
  have numbered_of_mem : ∀ row ∈ plainRows (digitCount last) numbered,
      ¬ Unnumbered (digitCount last) row := by
    intro row among
    obtain ⟨p, present, rfl⟩ := List.mem_map.mp among
    exact not_unnumbered_lineRow (n.digitCount_le present) p.2
  cases known : l.column with
  | none =>
    rw [body_of_unknown known] at there
    exact iff_of_false (numbered_of_mem row (List.mem_of_getElem? there)) (by simp)
  | some column =>
    rw [n.body_of_known marks known, List.getElem?_insertIdx] at there
    split at there
    · rename_i front
      exact iff_of_false (numbered_of_mem row (List.mem_of_getElem? there))
        (fun here => Nat.ne_of_lt front here.2)
    split at there
    · rename_i here
      rw [Option.ite_none_right_eq_some, Option.some.injEq] at there
      obtain ⟨-, rfl⟩ := there
      exact iff_of_true (unnumbered_caretRow _ line column) ⟨rfl, here⟩
    · rename_i other
      exact iff_of_false (numbered_of_mem row (List.mem_of_getElem? there))
        (fun here => other here.2)

end Numbering

end Pinpoint.Listing
