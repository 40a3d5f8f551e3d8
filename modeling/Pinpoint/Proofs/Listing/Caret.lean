import Pinpoint.Proofs.Listing.Places

/-! Where the caret of a listing stands. The marked line is printed with its tabs as spaces, the
indent of the caret is counted character by character; both take the same cells, so the caret stands
below the column as it is printed. It never moves to the left as the column grows, and beyond the
end of the line it stays in the cell behind the row. -/
namespace Pinpoint.Listing

/-- The cells in front of a column are those that the line takes up to there as it is printed. -/
theorem caretIndent_eq_width (line : String) (column : UInt64) :
    caretIndent line column =
      Text.width (Text.expandTabs (line.toList.take (column.toNat - 1))) :=
  (Text.width_expandTabs _).symm

theorem caretIndent_mono (line : String) {column column' : UInt64} (before : column ≤ column') :
    caretIndent line column ≤ caretIndent line column' := by
  apply Text.cells_le_of_prefix
  apply List.take_prefix_take_left
  exact Nat.sub_le_sub_right (UInt64.le_iff_toNat_le.mp before) 1

theorem expandTabs_take_prefix (cs : List Char) (count : Nat) :
    Text.expandTabs (cs.take count) <+: Text.expandTabs cs := by
  obtain ⟨rest, whole⟩ := List.take_prefix count cs
  refine ⟨Text.expandTabs rest, ?_⟩
  rw [← Text.expandTabs_append, whole]

theorem charWidth_of_isDigit {c : Char} (digit : c.isDigit) : Text.charWidth c = 1 := by
  have range : 48 ≤ c.toNat ∧ c.toNat ≤ 57 := by
    simpa [Char.isDigit, UInt32.le_iff_toNat_le] using digit
  exact Text.charWidth_of_printable (by omega) (by omega)

/-- What a row has in front of its line. -/
def frontCells (gutter : Nat) (number : UInt64) : List Char :=
  numberCells gutter number ++ [' ', '|', ' ']

theorem charWidth_of_mem_frontCells {gutter : Nat} {number : UInt64} {c : Char}
    (there : c ∈ frontCells gutter number) : Text.charWidth c = 1 := by
  have space : Text.charWidth ' ' = 1 := Text.charWidth_of_printable (by decide) (by decide)
  have bar : Text.charWidth '|' = 1 := Text.charWidth_of_printable (by decide) (by decide)
  rw [frontCells, numberCells, List.append_assoc, List.mem_append, List.mem_append] at there
  rcases there with blank | digit | behind
  · obtain rfl := List.eq_of_mem_replicate blank
    exact space
  · exact charWidth_of_isDigit (isDigit_of_mem digit)
  · simp only [List.mem_cons, List.not_mem_nil, or_false] at behind
    rcases behind with rfl | rfl | rfl
    · exact space
    · exact bar
    · exact space

theorem width_frontCells {gutter : Nat} {number : UInt64} (fits : digitCount number ≤ gutter) :
    Text.width (frontCells gutter number) = gutter + 3 := by
  rw [Text.width_eq_length fun c there => charWidth_of_mem_frontCells there, frontCells,
    List.length_append, length_numberCells fits]
  rfl

theorem toList_lineRow_of_ne {line : String} (nonblank : line ≠ "") (gutter : Nat)
    (number : UInt64) : (lineRow gutter number line).toList =
      frontCells gutter number ++ Text.expandTabs line.toList := by
  rw [toList_lineRow, lineCells, if_neg nonblank, frontCells]
  simp

/-- What the row of the caret has in front of the caret. -/
def indentCells (gutter : Nat) (line : String) (column : UInt64) : List Char :=
  List.replicate gutter ' ' ++ [' ', '|', ' '] ++ List.replicate (caretIndent line column) ' '

theorem length_indentCells (gutter : Nat) (line : String) (column : UInt64) :
    (indentCells gutter line column).length = gutter + 3 + caretIndent line column := by
  simp [indentCells]
  omega

theorem caret_not_mem_indentCells (gutter : Nat) (line : String) (column : UInt64) :
    '^' ∉ indentCells gutter line column := by
  simp [indentCells]

theorem caretRow_eq (gutter : Nat) (line : String) (column : UInt64) :
    caretRow gutter line column = String.ofList (indentCells gutter line column ++ ['^']) := by
  rw [← String.toList_inj, toList_caretRow, String.toList_ofList, indentCells]
  simp

/-- The text of a listing has `row` for the marked line, and below it a row of `front` and then the
caret. -/
def PutsCaret (l : Listing) (text row : String) (front : List Char) : Prop :=
  ∃ rows, l.rows = .ok rows ∧ text = "\n".intercalate rows ∧ '^' ∉ front ∧
    rows[l.excerpt.markedIndex.toNat + 1]? = some row ∧
    rows[l.excerpt.markedIndex.toNat + 2]? = some (String.ofList (front ++ ['^']))

section

variable {l : Listing} {line : String} {column : UInt64}

/-- The caret of a column is right below the marked line, whatever the other lines are. -/
theorem getElem?_rows {rows : List String} (known : l.column = some column)
    (marks : l.excerpt.markedLine? = some line) (made : l.rows = .ok rows) :
    ∃ last marked, l.excerpt.lastLine = .ok last ∧ l.excerpt.markedNumber = .ok marked ∧
      digitCount marked ≤ digitCount last ∧
      rows[l.excerpt.markedIndex.toNat + 1]? = some (lineRow (digitCount last) marked line) ∧
      rows[l.excerpt.markedIndex.toNat + 2]? = some (caretRow (digitCount last) line column) := by
  obtain ⟨last, marked, numbered, lastLine, number, counted, -, rfl⟩ := rows_eq_ok_iff.mp made
  have n := Numbering.of_counted lastLine number counted
  have here := n.getElem?_marked marks
  have fits := n.digitCount_le (List.mem_of_getElem? here)
  dsimp only at fits
  have row := n.getElem?_body_rowIndex marks (l.heading (digitCount last) marked) (digitCount last)
    l.excerpt.markedIndex.toNat
  rw [plainRows, List.getElem?_map, here, rowIndex, if_neg (by simp)] at row
  exact ⟨last, marked, lastLine, number, fits, row, n.getElem?_body_caret marks known _ _⟩

theorem exists_putsCaret {text : String} (known : l.column = some column)
    (marks : l.excerpt.markedLine? = some line) (shown : l.render = .ok text) :
    ∃ last marked, l.excerpt.lastLine = .ok last ∧ l.excerpt.markedNumber = .ok marked ∧
      digitCount marked ≤ digitCount last ∧
      l.PutsCaret text (lineRow (digitCount last) marked line)
        (indentCells (digitCount last) line column) := by
  obtain ⟨rows, made, joined⟩ := bind_eq_ok_iff.mp shown
  obtain ⟨last, marked, lastLine, number, fits, row, caret⟩ := getElem?_rows known marks made
  rw [caretRow_eq] at caret
  refine ⟨last, marked, lastLine, number, fits, rows, made, ?_, ?_, row, caret⟩
  · exact (Except.ok.inj joined).symm
  · exact caret_not_mem_indentCells (digitCount last) line column

/-- There is only one place for the caret. -/
theorem front_of_putsCaret {text row : String} {front : List Char} (known : l.column = some column)
    (marks : l.excerpt.markedLine? = some line) (puts : l.PutsCaret text row front) :
    ∃ last, l.excerpt.lastLine = .ok last ∧
      front = indentCells (digitCount last) line column := by
  obtain ⟨rows, made, -, -, -, below⟩ := puts
  obtain ⟨last, marked, lastLine, -, -, -, caret⟩ := getElem?_rows known marks made
  refine ⟨last, lastLine, ?_⟩
  rw [below, caretRow_eq, Option.some.injEq, String.ofList_inj] at caret
  exact List.append_cancel_right caret

end

/-- The caret stands in the cell in which the column begins as it is printed, and behind the row if
the column is beyond the end of the line. It does not move to the left as the column grows. -/
theorem caret_below_column {l : Listing} {column : UInt64} {text line : String}
    (known : l.column = some column) (shown : l.render = .ok text)
    (marks : l.excerpt.markedLine? = some line) (nonblank : line ≠ "") :
    ∃ last marked row front, l.excerpt.lastLine = .ok last ∧ l.excerpt.markedNumber = .ok marked ∧
      l.PutsCaret text row front ∧
      row.toList = frontCells (digitCount last) marked ++ Text.expandTabs line.toList ∧
      Text.expandTabs (line.toList.take (column.toNat - 1)) <+: Text.expandTabs line.toList ∧
      front.length = Text.width (frontCells (digitCount last) marked ++
        Text.expandTabs (line.toList.take (column.toNat - 1))) ∧
      (line.length < column.toNat → front.length = Text.width row.toList) ∧
      ∀ column', column ≤ column' → ∀ text' row' front',
        PutsCaret { l with column := some column' } text' row' front' →
        front.length ≤ front'.length := by
  obtain ⟨last, marked, lastLine, number, fits, puts⟩ := exists_putsCaret known marks shown
  have printed := toList_lineRow_of_ne nonblank (digitCount last) marked
  have place : (indentCells (digitCount last) line column).length =
      Text.width (frontCells (digitCount last) marked ++
        Text.expandTabs (line.toList.take (column.toNat - 1))) := by
    rw [length_indentCells, caretIndent_eq_width, Text.width_append, width_frontCells fits]
  refine ⟨last, marked, _, _, lastLine, number, puts, printed, expandTabs_take_prefix _ _, place,
    ?_, ?_⟩
  · intro beyond
    have whole : line.toList.length ≤ column.toNat - 1 := by
      rw [String.length_toList]
      omega
    rw [place, printed, List.take_of_length_le whole]
  · intro column' before text' row' front' puts'
    have known' : Listing.column { l with column := some column' } = some column' := rfl
    obtain ⟨last', lastLine', rfl⟩ := front_of_putsCaret known' marks puts'
    obtain rfl := Except.ok.inj (lastLine.symm.trans lastLine')
    rw [length_indentCells, length_indentCells]
    exact Nat.add_le_add_left (caretIndent_mono line before) _

/-- A line that holds a tab, a character of two cells and one without a cell. -/
def uneven (column : UInt64) : Listing :=
  ⟨⟨9, ["", "\t漢e\u0301z"], 1⟩, some column, none⟩

theorem caret_below_column_uneven :
    (uneven 4).render = .ok "  --> ?:10:4\n 9 |\n10 |     漢e\u0301z\n   |        ^" ∧
      (uneven 6).render = .ok "  --> ?:10:6\n 9 |\n10 |     漢e\u0301z\n   |         ^" ∧
      ∃ row front, (uneven 4).PutsCaret
          "  --> ?:10:4\n 9 |\n10 |     漢e\u0301z\n   |        ^" row front ∧
        row.toList = "10 | ".toList ++ Text.expandTabs "\t漢e\u0301z".toList ∧
        Text.expandTabs "\t漢e".toList <+: Text.expandTabs "\t漢e\u0301z".toList ∧
        front.length = Text.width ("10 | ".toList ++ Text.expandTabs "\t漢e".toList) ∧
        ∀ text' row' front', (uneven 6).PutsCaret text' row' front' →
          front.length ≤ front'.length := by
  have shown : (uneven 4).render =
      .ok "  --> ?:10:4\n 9 |\n10 |     漢e\u0301z\n   |        ^" := by decide +kernel
  have shown' : (uneven 6).render =
      .ok "  --> ?:10:6\n 9 |\n10 |     漢e\u0301z\n   |         ^" := by decide +kernel
  obtain ⟨last, marked, row, front, lastLine, number, puts, printed, part, place, -, mono⟩ :=
    caret_below_column rfl shown rfl (by decide)
  obtain rfl : 10 = last := Except.ok.inj lastLine
  obtain rfl : 10 = marked := Except.ok.inj number
  have gutter : frontCells (digitCount 10) 10 = "10 | ".toList := by decide +kernel
  rw [gutter] at printed place
  exact ⟨shown, shown', row, front, puts, printed, part, place, mono 6 (by decide)⟩

end Pinpoint.Listing
