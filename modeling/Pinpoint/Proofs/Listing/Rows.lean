import Mathlib.Data.List.Nodup
import Pinpoint.Listing

/-! The rows of a listing. In front of the bar, every row below the heading has a gutter of the same
length. The gutter of a line holds its number, that of the caret holds nothing; so the caret can be
told from the lines, whatever these are. -/
namespace Pinpoint.Listing

theorem toList_toString (n : UInt64) : (toString n).toList = Nat.toDigits 10 n.toNat := by
  simp [toString]

theorem isDigit_of_mem {n : UInt64} {c : Char} (there : c ∈ (toString n).toList) : c.isDigit := by
  rw [toList_toString] at there
  exact Nat.isDigit_of_mem_toDigits (by decide) (by decide) there

theorem not_mem_toString {c : Char} (other : c.isDigit = false) (n : UInt64) :
    c ∉ (toString n).toList := by
  intro there
  rw [isDigit_of_mem there] at other
  cases other

theorem toString_inj {m n : UInt64} (same : (toString m).toList = (toString n).toList) :
    m = n := by
  rw [toList_toString, toList_toString] at same
  have value := congrArg (Nat.ofDigitChars 10 · 0) same
  simp only [Nat.ofDigitChars_ten_toDigits] at value
  exact UInt64.toNat_inj.mp value

theorem length_toDigits (n : Nat) : (Nat.toDigits 10 n).length = logTen n + 1 := by
  induction n using logTen.induct with
  | case1 n small =>
    rw [logTen, if_pos small, Nat.toDigits_of_lt_base small]
    rfl
  | case2 n large ih =>
    rw [logTen, if_neg large, Nat.toDigits_of_base_le (by decide) (Nat.not_lt.mp large),
      List.length_append, ih]
    rfl

/-- The digits that are counted are those of the decimal text. -/
theorem digitCount_eq (n : UInt64) : digitCount n = (toString n).toList.length := by
  rw [toList_toString, length_toDigits, digitCount]
  split
  · rename_i zero
    rw [zero, UInt64.toNat_zero, logTen, if_pos (by decide)]
  · rfl

theorem digitCount_pos (n : UInt64) : 0 < digitCount n := by
  rw [digitCount_eq, toList_toString]
  exact List.length_pos_iff.mpr Nat.toDigits_ne_nil

/-- No number takes more digits than a greater one. -/
theorem digitCount_le {m n : UInt64} (below : m.toNat ≤ n.toNat) :
    digitCount m ≤ digitCount n := by
  have greater := digitCount_pos n
  rw [digitCount_eq, digitCount_eq, toList_toString, toList_toString] at *
  have bound := (Nat.length_toDigits_le_iff (b := 10) (by decide) greater).mp (Nat.le_refl _)
  exact (Nat.length_toDigits_le_iff (by decide) greater).mpr (Nat.lt_of_le_of_lt below bound)

theorem toList_spaces (count : Nat) : (spaces count).toList = List.replicate count ' ' := by
  rw [spaces, String.toList_ofList]

/-- The gutter of a line. -/
def numberCells (gutter : Nat) (number : UInt64) : List Char :=
  List.replicate (gutter - digitCount number) ' ' ++ (toString number).toList

theorem toList_rightAligned (gutter : Nat) (number : UInt64) :
    (rightAligned gutter (toString number)).toList = numberCells gutter number := by
  rw [rightAligned, String.toList_append, toList_spaces, numberCells, digitCount_eq,
    String.length_toList]

theorem length_numberCells {gutter : Nat} {number : UInt64} (fits : digitCount number ≤ gutter) :
    (numberCells gutter number).length = gutter := by
  rw [numberCells, List.length_append, List.length_replicate, ← digitCount_eq]
  omega

theorem exists_digit_numberCells (gutter : Nat) (number : UInt64) :
    ∃ c ∈ numberCells gutter number, c.isDigit := by
  have digits := digitCount_pos number
  rw [digitCount_eq] at digits
  obtain ⟨c, there⟩ := List.exists_mem_of_length_pos digits
  exact ⟨c, List.mem_append_right _ there, isDigit_of_mem there⟩

/-- The digits of a number are what is left of its gutter without the spaces. -/
theorem numberCells_inj {gutter : Nat} {m n : UInt64}
    (same : numberCells gutter m = numberCells gutter n) : m = n := by
  have digits : ∀ number : UInt64,
      (numberCells gutter number).filter (· ≠ ' ') = (toString number).toList := by
    intro number
    have space : ' ' ∉ (toString number).toList := not_mem_toString rfl number
    rw [numberCells, List.filter_append, List.filter_replicate_of_neg (by simp), List.nil_append,
      List.filter_eq_self]
    rintro c there
    simpa using ne_of_mem_of_not_mem there space
  apply toString_inj
  rw [← digits m, ← digits n, same]

/-- What stands behind the bar of a line. -/
def lineCells (line : String) : List Char :=
  if line = "" then [] else ' ' :: Text.expandTabs line.toList

theorem toList_lineRow (gutter : Nat) (number : UInt64) (line : String) :
    (lineRow gutter number line).toList =
      numberCells gutter number ++ ' ' :: '|' :: lineCells line := by
  rw [lineRow, String.toList_append, String.toList_append, toList_rightAligned, lineCells]
  split <;> simp

theorem toList_caretRow (gutter : Nat) (line : String) (column : UInt64) :
    (caretRow gutter line column).toList = List.replicate gutter ' ' ++
      ' ' :: '|' :: ' ' :: (List.replicate (caretIndent line column) ' ' ++ ['^']) := by
  simp [caretRow, toList_spaces]

/-- A row adds digits, spaces and its bar to what the line holds, and takes the tabs away. -/
theorem not_mem_lineRow {c : Char} {line : String} (digit : c.isDigit = false) (space : c ≠ ' ')
    (bar : c ≠ '|') (absent : c = '\t' ∨ c ∉ line.toList) (gutter : Nat) (number : UInt64) :
    c ∉ (lineRow gutter number line).toList := by
  have behind : c ∉ lineCells line := by
    unfold lineCells
    split
    · simp
    · rw [List.mem_cons, not_or]
      refine ⟨space, fun there => ?_⟩
      rcases Text.mem_of_mem_expandTabs there with blank | ⟨other, among⟩
      · exact space blank
      · exact absent.elim other fun missing => missing among
  have digits := not_mem_toString digit number
  rw [toList_lineRow, numberCells]
  simp [digits, behind, space, bar]

theorem not_mem_caretRow {c : Char} (space : c ≠ ' ') (bar : c ≠ '|') (caret : c ≠ '^')
    (gutter : Nat) (line : String) (column : UInt64) :
    c ∉ (caretRow gutter line column).toList := by
  rw [toList_caretRow]
  simp [space, bar, caret]

/-- Nothing stands in the gutter of a row. -/
def Unnumbered (gutter : Nat) (row : String) : Prop :=
  row.toList.take gutter = List.replicate gutter ' '

instance (gutter : Nat) (row : String) : Decidable (Unnumbered gutter row) :=
  inferInstanceAs (Decidable (_ = _))

theorem unnumbered_caretRow (gutter : Nat) (line : String) (column : UInt64) :
    Unnumbered gutter (caretRow gutter line column) := by
  rw [Unnumbered, toList_caretRow]
  exact List.take_left' List.length_replicate

theorem not_unnumbered_lineRow {gutter : Nat} {number : UInt64}
    (fits : digitCount number ≤ gutter) (line : String) :
    ¬ Unnumbered gutter (lineRow gutter number line) := by
  intro blank
  obtain ⟨c, there, digit⟩ := exists_digit_numberCells gutter number
  rw [Unnumbered, toList_lineRow, List.take_left' (length_numberCells fits)] at blank
  rw [blank] at there
  obtain rfl := List.eq_of_mem_replicate there
  exact absurd digit (by decide)

theorem foldlM_addWord {cs : List Char} {count sum : UInt64} :
    cs.foldlM (fun count c => addWord count (Text.displayWidth c)) count = .ok sum ↔
      sum.toNat = count.toNat + Text.cells Text.displayWidth cs := by
  have bound := sum.toNat_lt_size
  induction cs generalizing count with
  | nil => simp [pure, Except.pure, ← UInt64.toNat_inj, eq_comm]
  | cons c cs ih =>
    rw [List.foldlM_cons, bind_eq_ok_iff, Text.cells_cons]
    simp only [addWord_eq_ok_iff, ih]
    constructor
    · rintro ⟨next, step, rest⟩
      omega
    · intro total
      obtain ⟨next, step⟩ :=
        exists_word (n := count.toNat + Text.displayWidth c) (by omega)
      exact ⟨next, step, by omega⟩

/-- The indent of the caret can be counted exactly if it is a word. No sum on the way is greater. -/
theorem countCells_eq_ok_iff {line : String} {column indent : UInt64} :
    countCells (line.toList.take (column.toNat - 1)) = .ok indent ↔
      indent.toNat = caretIndent line column := by
  rw [countCells, foldlM_addWord, UInt64.toNat_zero, Nat.zero_add, caretIndent]

theorem caretRow?_eq_ok_iff {gutter : Nat} {line row : String} {column : UInt64} :
    caretRow? gutter line column = .ok row ↔
      caretIndent line column < UInt64.size ∧ caretRow gutter line column = row := by
  rw [caretRow?, bind_eq_ok_iff]
  simp only [countCells_eq_ok_iff]
  constructor
  · rintro ⟨indent, count, made⟩
    cases made
    rw [caretRow, ← count]
    exact ⟨indent.toNat_lt_size, rfl⟩
  · rintro ⟨fits, rfl⟩
    obtain ⟨indent, count⟩ := exists_word fits
    refine ⟨indent, count, ?_⟩
    rw [caretRow, ← count]
    rfl

def body (l : Listing) (gutter : Nat) (marked : UInt64) (numbered : List (UInt64 × String)) :
    List String :=
  numbered.flatMap fun (number, line) =>
    lineRow gutter number line ::
      match l.column with
      | some column => if number = marked then [caretRow gutter line column] else []
      | none => []

theorem mem_body_iff {l : Listing} {gutter : Nat} {marked : UInt64}
    {numbered : List (UInt64 × String)} {row : String} :
    row ∈ l.body gutter marked numbered ↔ ∃ p ∈ numbered, row = lineRow gutter p.1 p.2 ∨
      ∃ column, l.column = some column ∧ p.1 = marked ∧ row = caretRow gutter p.2 column := by
  rw [body, List.mem_flatMap]
  refine exists_congr fun p => and_congr_right fun _ => ?_
  cases l.column with
  | none => simp
  | some column =>
    rw [List.mem_cons]
    dsimp only
    split
    · rename_i here
      simp [here]
    · rename_i elsewhere
      simp [elsewhere]

theorem forall_mem_body {l : Listing} {gutter : Nat} {marked : UInt64}
    {numbered : List (UInt64 × String)} {P : String → Prop}
    (lines : ∀ p ∈ numbered, P (lineRow gutter p.1 p.2))
    (caret : ∀ line column, P (caretRow gutter line column)) :
    ∀ row ∈ l.body gutter marked numbered, P row := by
  intro row there
  obtain ⟨p, among, rfl | ⟨column, -, -, rfl⟩⟩ := mem_body_iff.mp there
  · exact lines p among
  · exact caret p.2 column

/-- Where no line has the marked number, there is no caret either. -/
theorem body_of_unmarked {l : Listing} {gutter : Nat} {marked : UInt64}
    {numbered : List (UInt64 × String)} (other : ∀ p ∈ numbered, p.1 ≠ marked) :
    l.body gutter marked numbered = numbered.map fun p => lineRow gutter p.1 p.2 := by
  rw [body, List.map_eq_flatMap]
  apply List.flatMap_congr
  rintro ⟨number, line⟩ there
  cases l.column with
  | none => rfl
  | some column => simp [other _ there]

theorem body_append (l : Listing) (gutter : Nat) (marked : UInt64)
    (before after : List (UInt64 × String)) :
    l.body gutter marked (before ++ after) =
      l.body gutter marked before ++ l.body gutter marked after :=
  List.flatMap_append

theorem body_cons_marked (l : Listing) (gutter : Nat) (marked : UInt64) (line : String)
    (after : List (UInt64 × String)) :
    l.body gutter marked ((marked, line) :: after) =
      lineRow gutter marked line ::
        ((l.column.map (caretRow gutter line)).toList ++ l.body gutter marked after) := by
  rw [body, List.flatMap_cons, ← body]
  cases l.column <;> simp

/-- The numbers in a listing of an excerpt: of the lines, of the last and of the marked one. -/
structure Numbering (e : Excerpt) (last marked : UInt64) (numbered : List (UInt64 × String)) :
    Prop where
  numbers : numbered.map (·.1.toNat) = List.range' e.firstLine.toNat e.lines.length
  lines : numbered.map (·.2) = e.lines
  last_toNat : last.toNat + 1 = e.firstLine.toNat + e.lines.length
  marked_toNat : marked.toNat = e.firstLine.toNat + e.markedIndex.toNat

def CaretFits (l : Listing) (marked : UInt64) (numbered : List (UInt64 × String)) : Prop :=
  ∀ p ∈ numbered, ∀ column, l.column = some column → p.1 = marked →
    caretIndent p.2 column < UInt64.size

theorem lineRows_eq_ok_iff {l : Listing} {gutter : Nat} {marked number : UInt64} {line : String}
    {rows : List String} : l.lineRows gutter marked number line = .ok rows ↔
      (∀ column, l.column = some column → number = marked →
        caretIndent line column < UInt64.size) ∧
      (lineRow gutter number line ::
        match l.column with
        | some column => if number = marked then [caretRow gutter line column] else []
        | none => []) = rows := by
  unfold lineRows
  cases l.column with
  | none => simp [pure, Except.pure]
  | some column =>
    dsimp only
    split
    · rename_i here
      simp only [bind_eq_ok_iff, caretRow?_eq_ok_iff, pure, Except.pure, Except.ok.injEq]
      constructor
      · rintro ⟨caret, ⟨fits, rfl⟩, rfl⟩
        exact ⟨by simpa [here] using fits, rfl⟩
      · rintro ⟨fits, rfl⟩
        exact ⟨_, ⟨fits column rfl here, rfl⟩, rfl⟩
    · rename_i elsewhere
      simp [elsewhere, pure, Except.pure]

/-- The rows of a listing are the heading and the body, if everything in them can be counted. -/
theorem rows_eq_ok_iff {l : Listing} {rows : List String} :
    l.rows = .ok rows ↔ ∃ last marked numbered, l.excerpt.lastLine = .ok last ∧
      l.excerpt.markedNumber = .ok marked ∧ l.excerpt.numbered = .ok numbered ∧
      l.CaretFits marked numbered ∧
      l.heading (digitCount last) marked :: l.body (digitCount last) marked numbered = rows := by
  rw [Listing.rows, bind_eq_ok_iff]
  refine exists_congr fun last => ?_
  simp only [bind_eq_ok_iff, exists_and_left]
  refine and_congr_right fun _ => exists_congr fun marked => and_congr_right fun _ =>
    exists_congr fun numbered => and_congr_right fun _ => ?_
  simp only [mapM_eq_ok_iff fun (p : UInt64 × String) _ => @lineRows_eq_ok_iff l _ _ p.1 p.2 _]
  constructor
  · rintro ⟨below, ⟨fits, rfl⟩, made⟩
    exact ⟨fits, Except.ok.inj made⟩
  · rintro ⟨fits, rfl⟩
    exact ⟨_, ⟨fits, rfl⟩, rfl⟩

theorem Numbering.of_counted {e : Excerpt} {last marked : UInt64}
    {numbered : List (UInt64 × String)} (lastLine : e.lastLine = .ok last)
    (markedNumber : e.markedNumber = .ok marked) (counted : e.numbered = .ok numbered) :
    Numbering e last marked numbered := by
  obtain ⟨behind, fits⟩ := Excerpt.lastLine_eq_ok_iff.mp lastLine
  obtain ⟨numbers, lines⟩ := Excerpt.numbers_of_numbered (Nat.le_of_lt fits) counted
  exact ⟨numbers, lines, behind, addWord_eq_ok_iff.mp markedNumber⟩

/-- A listing that can be shown has a heading, the lines with their numbers, and nothing else but
the caret. -/
theorem numbering_of_rows {l : Listing} {rows : List String} (made : l.rows = .ok rows) :
    ∃ last marked numbered, Numbering l.excerpt last marked numbered ∧
      rows = l.heading (digitCount last) marked :: l.body (digitCount last) marked numbered := by
  obtain ⟨last, marked, numbered, lastLine, markedNumber, counted, -, rfl⟩ :=
    rows_eq_ok_iff.mp made
  exact ⟨last, marked, numbered, .of_counted lastLine markedNumber counted, rfl⟩

namespace Numbering

variable {e : Excerpt} {last marked : UInt64} {numbered : List (UInt64 × String)}

theorem line_mem (n : Numbering e last marked numbered) {p : UInt64 × String}
    (there : p ∈ numbered) : p.2 ∈ e.lines := by
  rw [← n.lines]
  exact List.mem_map_of_mem there

/-- The gutter has room for every number. -/
theorem digitCount_le (n : Numbering e last marked numbered) {p : UInt64 × String}
    (there : p ∈ numbered) : digitCount p.1 ≤ digitCount last := by
  have among : p.1.toNat ∈ numbered.map (·.1.toNat) := List.mem_map_of_mem there
  rw [n.numbers, List.mem_range'_1] at among
  have behind := n.last_toNat
  exact Listing.digitCount_le (by omega)

/-- A line is found where it stands, behind the number that its place gives it. -/
theorem getElem?_eq_some_iff (n : Numbering e last marked numbered) {index : Nat}
    {p : UInt64 × String} : numbered[index]? = some p ↔
      e.lines[index]? = some p.2 ∧ p.1.toNat = e.firstLine.toNat + index := by
  have stands : ∀ {q : UInt64 × String}, numbered[index]? = some q →
      e.lines[index]? = some q.2 ∧ q.1.toNat = e.firstLine.toNat + index := by
    intro q there
    have line : e.lines[index]? = some q.2 := by rw [← n.lines, List.getElem?_map, there]; rfl
    obtain ⟨inside, -⟩ := List.getElem?_eq_some_iff.mp line
    have number := congrArg (·[index]?) n.numbers
    refine ⟨line, ?_⟩
    simpa [there, List.getElem?_range' inside] using number
  constructor
  · exact stands
  · rintro ⟨line, place⟩
    have found := line
    rw [← n.lines, List.getElem?_map, Option.map_eq_some_iff] at found
    obtain ⟨q, there, same⟩ := found
    have number : q.1 = p.1 := UInt64.toNat_inj.mp ((stands there).2.trans place.symm)
    rw [there, Option.some.injEq]
    exact Prod.ext number same

theorem getElem?_marked (n : Numbering e last marked numbered) {line : String}
    (marks : e.markedLine? = some line) : numbered[e.markedIndex.toNat]? = some (marked, line) :=
  n.getElem?_eq_some_iff.mpr ⟨marks, n.marked_toNat⟩

theorem marked_mem (n : Numbering e last marked numbered) (valid : e.Valid) :
    ∃ line, (marked, line) ∈ numbered := by
  obtain ⟨line, marks⟩ := valid.exists_markedLine
  exact ⟨line, List.mem_of_getElem? (n.getElem?_marked marks)⟩

/-- Exactly one of the lines has the marked number, the one at the marked index. -/
theorem exists_split (n : Numbering e last marked numbered) {line : String}
    (marks : e.markedLine? = some line) :
    ∃ before after, numbered = before ++ (marked, line) :: after ∧
      before.length = e.markedIndex.toNat ∧ ∀ p ∈ before ++ after, p.1 ≠ marked := by
  obtain ⟨inside, here⟩ := List.getElem?_eq_some_iff.mp (n.getElem?_marked marks)
  have split : numbered = numbered.take e.markedIndex.toNat ++
      (marked, line) :: numbered.drop (e.markedIndex.toNat + 1) := by
    rw [← here, List.getElem_cons_drop, List.take_append_drop]
  have once : (numbered.map (·.1.toNat)).Nodup := n.numbers ▸ List.nodup_range'
  refine ⟨_, _, split, List.length_take_of_le (Nat.le_of_lt inside), ?_⟩
  rw [split, List.map_append, List.map_cons, List.nodup_middle, ← List.map_append,
    List.nodup_cons] at once
  intro p there same
  exact once.1 (List.mem_map.mpr ⟨p, there, congrArg UInt64.toNat same⟩)

/-- Below the heading there are the lines with their numbers, and the caret below the marked one,
if there is one. -/
theorem body_eq {l : Listing} (n : Numbering l.excerpt last marked numbered) {line : String}
    (marks : l.excerpt.markedLine? = some line) (gutter : Nat) :
    ∃ before after, numbered = before ++ (marked, line) :: after ∧
      before.length = l.excerpt.markedIndex.toNat ∧
      l.body gutter marked numbered = before.map (fun p => lineRow gutter p.1 p.2) ++
        lineRow gutter marked line :: ((l.column.map (caretRow gutter line)).toList ++
          after.map fun p => lineRow gutter p.1 p.2) := by
  obtain ⟨before, after, rfl, place, other⟩ := n.exists_split marks
  refine ⟨before, after, rfl, place, ?_⟩
  rw [body_append, body_cons_marked,
    body_of_unmarked fun p there => other p (List.mem_append_left after there),
    body_of_unmarked fun p there => other p (List.mem_append_right before there)]

/-- The lines with their numbers, and the number of the marked line, are those of one excerpt. -/
theorem unique {e' : Excerpt} {last' : UInt64} (n : Numbering e last marked numbered)
    (n' : Numbering e' last' marked numbered) (nonempty : e.lines ≠ []) : e = e' := by
  have lines := n.lines.symm.trans n'.lines
  have numbers := n.numbers.symm.trans n'.numbers
  have first : e.firstLine.toNat = e'.firstLine.toNat := by
    obtain ⟨line, more, shown⟩ := List.exists_cons_of_ne_nil nonempty
    rw [← lines, shown, List.length_cons, List.range'_succ, List.range'_succ] at numbers
    exact (List.cons.inj numbers).1
  have index : e.markedIndex.toNat = e'.markedIndex.toNat := by
    have place := n.marked_toNat
    have place' := n'.marked_toNat
    omega
  obtain ⟨firstLine, shown, markedIndex⟩ := e
  obtain ⟨firstLine', shown', markedIndex'⟩ := e'
  obtain rfl := UInt64.toNat_inj.mp first
  obtain rfl := UInt64.toNat_inj.mp index
  obtain rfl : shown = shown' := lines
  rfl

end Numbering

end Pinpoint.Listing
