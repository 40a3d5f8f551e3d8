import Mathlib.Data.Nat.Log
import Pinpoint.Proofs.Listing.Legible
import Pinpoint.Proofs.Listing.Places

/-! The layout of a listing. The gutter has the size of the number of the last line, and no other
number takes more digits; so the bars of all rows stand below one another. Cut at its newlines, the
text of a listing is a heading, the lines in their order, and the caret right below the marked line
if the column is known. -/
namespace Pinpoint.Listing

/-- The digits of a number are counted by its logarithm. -/
theorem digitCount_eq_log (n : UInt64) : digitCount n = Nat.log 10 n.toNat + 1 := by
  have positive := digitCount_pos n
  rw [digitCount_eq, toList_toString] at *
  apply Nat.le_antisymm
  · rw [Nat.length_toDigits_le_iff (by decide) (Nat.succ_pos _)]
    exact Nat.lt_pow_succ_log_self (by decide) n.toNat
  · have bound := (Nat.length_toDigits_le_iff (b := 10) (by decide) positive).mp (Nat.le_refl _)
    exact Nat.log_lt_of_lt_pow' (Nat.ne_of_gt positive) bound

theorem bar_lineRow {gutter : Nat} {number : UInt64} (fits : digitCount number ≤ gutter)
    (line : String) : (lineRow gutter number line).toList[gutter + 1]? = some '|' := by
  have length := length_numberCells fits
  rw [toList_lineRow, List.getElem?_append_right (by omega), length, Nat.add_sub_cancel_left]
  rfl

theorem bar_caretRow (gutter : Nat) (line : String) (column : UInt64) :
    (caretRow gutter line column).toList[gutter + 1]? = some '|' := by
  rw [toList_caretRow, List.getElem?_append_right (by simp), List.length_replicate,
    Nat.add_sub_cancel_left]
  rfl

/-- Rows laid out behind a gutter of this length. -/
structure LaidOut (l : Listing) (gutter : Nat) (rows : List String) : Prop where
  length_rows : rows.length = 1 + l.excerpt.lines.length + if l.column.isSome then 1 else 0
  heading : ∃ row place, rows[0]? = some row ∧
    row.toList = List.replicate gutter ' ' ++ "--> ".toList ++ place
  line : ∀ index line, l.excerpt.lines[index]? = some line → ∃ row front,
    rows[l.rowIndex index]? = some row ∧
    front + (Nat.toDigits 10 (l.excerpt.firstLine.toNat + index)).length = gutter ∧
    row.toList = List.replicate front ' ' ++
      Nat.toDigits 10 (l.excerpt.firstLine.toNat + index) ++ " |".toList ++
      if line = "" then [] else ' ' :: Text.expandTabs line.toList
  caret : ∀ column, l.column = some column → ∃ row indent,
    rows[l.excerpt.markedIndex.toNat + 2]? = some row ∧
    row.toList = List.replicate gutter ' ' ++ " | ".toList ++ List.replicate indent ' ' ++ ['^']
  /-- The caret has the only row below the heading without a number. -/
  unnumbered_iff : ∀ place row, rows[place + 1]? = some row → (Unnumbered gutter row ↔
    l.column.isSome ∧ place = l.excerpt.markedIndex.toNat + 1)
  bar : ∀ row ∈ rows.tail, row.toList[gutter + 1]? = some '|'
  tab_not_mem : ∀ row ∈ rows.tail, '\t' ∉ row.toList

/-- The rows of a listing that can be shown are laid out behind the digits of its last number. -/
theorem laidOut_of_rows {l : Listing} {rows : List String} (valid : l.excerpt.Valid)
    (made : l.rows = .ok rows) :
    ∃ last, l.excerpt.lastLine = .ok last ∧ l.LaidOut (digitCount last) rows := by
  obtain ⟨last, marked, numbered, lastLine, number, counted, -, rfl⟩ := rows_eq_ok_iff.mp made
  have n := Numbering.of_counted lastLine number counted
  obtain ⟨line, marks⟩ := valid.exists_markedLine
  refine ⟨last, lastLine, ?_⟩
  constructor
  case length_rows =>
    rw [List.length_cons, n.length_body marks]
    omega
  case heading =>
    refine ⟨_, l.placeCells marked, rfl, ?_⟩
    rw [toList_heading]
    simp
  case line =>
    intro index line there
    obtain ⟨number, value, fits, row⟩ := n.getElem?_plainRows there (digitCount last)
    have digits : digitCount number = (Nat.toDigits 10 number.toNat).length := by
      rw [digitCount_eq, toList_toString]
    rw [← n.getElem?_body_rowIndex marks (l.heading (digitCount last) marked)] at row
    refine ⟨_, digitCount last - digitCount number, row, ?_, ?_⟩
    · rw [← value, ← digits]
      omega
    · rw [toList_lineRow, numberCells, lineCells, toList_toString, value]
      simp
  case caret =>
    intro column known
    refine ⟨_, caretIndent line column, n.getElem?_body_caret marks known _ _, ?_⟩
    rw [toList_caretRow]
    simp
  case unnumbered_iff =>
    intro place row there
    exact n.unnumbered_iff marks there
  case bar =>
    apply forall_mem_body
    · intro p among
      exact bar_lineRow (n.digitCount_le among) p.2
    · exact bar_caretRow (digitCount last)
  case tab_not_mem =>
    apply forall_mem_body
    · intro p _
      exact not_mem_lineRow rfl (by decide) (by decide) (.inl rfl) (digitCount last) p.1
    · exact not_mem_caretRow (by decide) (by decide) (by decide) (digitCount last)

/-- Where neither lines nor the name run over the end of a row, the text of a listing is cut at its
newlines into rows that are laid out behind a gutter for the digits of the last number. -/
theorem layout_of_render {l : Listing} {text : String} (valid : l.excerpt.Valid)
    (lines : ∀ line ∈ l.excerpt.lines, '\n' ∉ line.toList)
    (named : ∀ name, l.name = some name → '\n' ∉ name.toList) (shown : l.render = .ok text) :
    ∃ last gutter rows, l.excerpt.lastLine = .ok last ∧
      gutter = (Nat.toDigits 10 last.toNat).length ∧ gutter = Nat.log 10 last.toNat + 1 ∧
      text.toList.splitOn '\n' = rows.map String.toList ∧ l.LaidOut gutter rows := by
  obtain ⟨rows, made, joined⟩ := bind_eq_ok_iff.mp shown
  obtain rfl := Except.ok.inj joined
  obtain ⟨last, lastLine, laidOut⟩ := laidOut_of_rows valid made
  have nonempty : rows ≠ [] := by
    rintro rfl
    have count := laidOut.length_rows
    rw [List.length_nil] at count
    omega
  refine ⟨last, _, rows, lastLine, ?_, digitCount_eq_log last, ?_, laidOut⟩
  · rw [digitCount_eq, toList_toString]
  · exact splitOn_intercalate_rows nonempty (newline_not_mem_rows made lines named)

/-- Lines with a tab, without a character and with a carriage return, the first of them marked. The
numbers gain a digit on the way. -/
def acrossTen : Listing :=
  ⟨⟨9, ["\ta", "", "b\rc"], 0⟩, some 3, some "x"⟩

theorem layout_of_render_across_ten :
    acrossTen.excerpt.Valid ∧ (∀ line ∈ acrossTen.excerpt.lines, '\n' ∉ line.toList) ∧
      (∀ name, acrossTen.name = some name → '\n' ∉ name.toList) ∧
      acrossTen.render = .ok "  --> x:9:3\n 9 |     a\n   |      ^\n10 |\n11 | b\rc" ∧
      ∃ rows, "  --> x:9:3\n 9 |     a\n   |      ^\n10 |\n11 | b\rc".toList.splitOn '\n' =
        rows.map String.toList ∧ acrossTen.LaidOut 2 rows := by
  have valid : acrossTen.excerpt.Valid := by decide
  have lines : ∀ line ∈ acrossTen.excerpt.lines, '\n' ∉ line.toList := by decide
  have named : ∀ name, acrossTen.name = some name → '\n' ∉ name.toList := by
    rintro _ ⟨⟩
    decide
  have shown : acrossTen.render =
      .ok "  --> x:9:3\n 9 |     a\n   |      ^\n10 |\n11 | b\rc" := by
    decide +kernel
  obtain ⟨last, gutter, rows, lastLine, digits, -, cut, laidOut⟩ :=
    layout_of_render valid lines named shown
  cases lastLine
  obtain rfl : gutter = 2 := digits
  exact ⟨valid, lines, named, shown, rows, cut, laidOut⟩

end Pinpoint.Listing
