import Mathlib.Data.List.Basic
import Pinpoint.Proofs.Listing.Rows

/-! Reading a listing back. Where neither lines nor names run over the end of a row, the text of a
listing says which rows there are; the heading and the gutters then say everything else. Names may
look like places, and lines like headings, gutters or carets: only the first dash, the last colons
and what stands in the gutter matter. -/
namespace Pinpoint.Listing

/-- Two lists that are the same come apart at the first place where something holds. -/
theorem append_cons_inj {α : Type} {P : α → Prop} {as bs cs ds : List α} {a c : α}
    (before : ∀ x ∈ as, ¬ P x) (before' : ∀ x ∈ cs, ¬ P x) (holds : P a) (holds' : P c)
    (same : as ++ a :: bs = cs ++ c :: ds) : as = cs ∧ a = c ∧ bs = ds := by
  induction as generalizing cs with
  | nil =>
    cases cs with
    | nil =>
      cases same
      exact ⟨rfl, rfl, rfl⟩
    | cons x cs =>
      cases same
      exact absurd holds (before' a (List.mem_cons_self ..))
  | cons x as ih =>
    cases cs with
    | nil =>
      cases same
      exact absurd holds' (before c (List.mem_cons_self ..))
    | cons y cs =>
      obtain ⟨rfl, rest⟩ := List.cons.inj same
      obtain ⟨rfl, rfl, rfl⟩ := ih (fun x there => before x (List.mem_cons_of_mem _ there))
        (fun x there => before' x (List.mem_cons_of_mem _ there)) rest
      exact ⟨rfl, rfl, rfl⟩

/-- The same for the last place. -/
theorem append_cons_inj_last {as bs cs ds : List Char} (colon : ':' ∉ bs) (colon' : ':' ∉ ds)
    (same : as ++ ':' :: bs = cs ++ ':' :: ds) : as = cs ∧ bs = ds := by
  have reversed : bs.reverse ++ ':' :: as.reverse = ds.reverse ++ ':' :: cs.reverse := by
    simpa using congrArg List.reverse same
  have last : ∀ {cs : List Char}, ':' ∉ cs → ∀ x ∈ cs.reverse, ¬ x = ':' := by
    rintro cs none x there rfl
    exact none (List.mem_reverse.mp there)
  obtain ⟨behind, -, front⟩ := append_cons_inj (last colon) (last colon') rfl rfl reversed
  exact ⟨List.reverse_inj.mp front, List.reverse_inj.mp behind⟩

/-- Rows are found again between the newlines of a text. -/
theorem splitOn_intercalate_rows {rows : List String} (nonempty : rows ≠ [])
    (newline : ∀ row ∈ rows, '\n' ∉ row.toList) :
    ("\n".intercalate rows).toList.splitOn '\n' = rows.map String.toList := by
  rw [String.toList_intercalate]
  exact List.splitOn_intercalate '\n' (by simpa using newline) (by simpa using nonempty)

theorem intercalate_newline_inj {rows rows' : List String} (nonempty : rows ≠ [])
    (nonempty' : rows' ≠ []) (newline : ∀ row ∈ rows, '\n' ∉ row.toList)
    (newline' : ∀ row ∈ rows', '\n' ∉ row.toList)
    (same : "\n".intercalate rows = "\n".intercalate rows') : rows = rows' := by
  have chars : rows.map String.toList = rows'.map String.toList := by
    rw [← splitOn_intercalate_rows nonempty newline, same,
      splitOn_intercalate_rows nonempty' newline']
  exact (List.map_inj_right fun _ _ => String.toList_inj.mp).mp chars

theorem eq_of_map_eq_map {α β : Type} {f : α → β} {as bs : List α}
    (inj : ∀ a ∈ as, ∀ b ∈ bs, f a = f b → a = b) (same : as.map f = bs.map f) : as = bs := by
  induction as generalizing bs with
  | nil =>
    cases bs with
    | nil => rfl
    | cons => cases same
  | cons a as ih =>
    cases bs with
    | nil => cases same
    | cons b bs =>
      obtain ⟨first, rest⟩ := List.cons.inj same
      rw [inj a (List.mem_cons_self ..) b (List.mem_cons_self ..) first]
      congr 1
      exact ih (fun x there y there' =>
        inj x (List.mem_cons_of_mem _ there) y (List.mem_cons_of_mem _ there')) rest

theorem toList_placeText (name : Option String) (marked : UInt64) :
    (placeText name (some marked)).toList =
      (name.getD unknown).toList ++ ':' :: (toString marked).toList := by
  simp [placeText]

/-- What the heading says behind its arrow. -/
def placeCells (l : Listing) (marked : UInt64) : List Char :=
  (placeText l.name (some marked)).toList ++
    match l.column with
    | some column => ':' :: (toString column).toList
    | none => []

theorem toList_heading (l : Listing) (gutter : Nat) (marked : UInt64) :
    (l.heading gutter marked).toList =
      List.replicate gutter ' ' ++ '-' :: '-' :: '>' :: ' ' :: l.placeCells marked := by
  unfold heading placeCells
  cases l.column <;> simp [toList_spaces]

theorem newline_not_mem_heading {l : Listing} (gutter : Nat) (marked : UInt64)
    (newline : ∀ name, l.name = some name → '\n' ∉ name.toList) :
    '\n' ∉ (l.heading gutter marked).toList := by
  have named : '\n' ∉ (l.name.getD unknown).toList := by
    cases named : l.name with
    | none => decide
    | some name => exact newline name named
  have digits := not_mem_toString (c := '\n') rfl
  rw [toList_heading, placeCells, toList_placeText]
  cases l.column <;> simp [named, digits]

theorem newline_not_mem_body {l : Listing} (gutter : Nat) (marked : UInt64)
    {numbered : List (UInt64 × String)} (newline : ∀ p ∈ numbered, '\n' ∉ p.2.toList) :
    ∀ row ∈ l.body gutter marked numbered, '\n' ∉ row.toList := by
  apply forall_mem_body
  · intro p among
    exact not_mem_lineRow rfl (by decide) (by decide) (.inr (newline p among)) gutter p.1
  · exact not_mem_caretRow (by decide) (by decide) (by decide) gutter

theorem lineCells_inj {line line' : String} (tab : '\t' ∉ line.toList)
    (tab' : '\t' ∉ line'.toList) (same : lineCells line = lineCells line') : line = line' := by
  have cells : ∀ {line : String}, '\t' ∉ line.toList →
      (lineCells line).drop 1 = line.toList := by
    intro line tab
    unfold lineCells
    split
    · rename_i empty
      simp [empty]
    · rw [List.drop_one, List.tail_cons, Text.expandTabs_eq_self tab]
  rw [← String.toList_inj, ← cells tab, ← cells tab', same]

theorem lineRow_inj {gutter : Nat} {number number' : UInt64} {line line' : String}
    (fits : digitCount number ≤ gutter) (fits' : digitCount number' ≤ gutter)
    (tab : '\t' ∉ line.toList) (tab' : '\t' ∉ line'.toList)
    (same : lineRow gutter number line = lineRow gutter number' line') :
    number = number' ∧ line = line' := by
  have cells := congrArg String.toList same
  rw [toList_lineRow, toList_lineRow] at cells
  obtain ⟨front, behind⟩ := List.append_inj cells
    ((length_numberCells fits).trans (length_numberCells fits').symm)
  have shown := (List.cons.inj (List.cons.inj behind).2).2
  exact ⟨numberCells_inj front, lineCells_inj tab tab' shown⟩

theorem heading_inj {l m : Listing} {gutter gutter' : Nat} {marked marked' : UInt64}
    (same : l.heading gutter marked = m.heading gutter' marked') :
    gutter = gutter' ∧ l.placeCells marked = m.placeCells marked' := by
  have cells := congrArg String.toList same
  rw [toList_heading, toList_heading] at cells
  have spaces : ∀ gutter, ∀ c ∈ List.replicate gutter ' ', ¬ c = '-' := by
    intro gutter c there
    obtain rfl := List.eq_of_mem_replicate there
    decide
  obtain ⟨front, -, behind⟩ := append_cons_inj (spaces gutter) (spaces gutter') rfl rfl cells
  refine ⟨?_, ?_⟩
  · simpa using congrArg List.length front
  · simpa using behind

/-- Names may hold colons and digits, so a place is read from its end. -/
theorem placeText_inj {name name' : Option String} {marked marked' : UInt64}
    (same : placeText name (some marked) = placeText name' (some marked')) :
    name.getD unknown = name'.getD unknown ∧ marked = marked' := by
  have cells := congrArg String.toList same
  rw [toList_placeText, toList_placeText] at cells
  obtain ⟨front, behind⟩ := append_cons_inj_last (not_mem_toString rfl marked)
    (not_mem_toString rfl marked') cells
  exact ⟨String.toList_inj.mp front, toString_inj behind⟩

theorem placeCells_inj {l m : Listing} {marked marked' : UInt64}
    (columns : l.column.isSome = m.column.isSome)
    (same : l.placeCells marked = m.placeCells marked') :
    l.name.getD unknown = m.name.getD unknown ∧ marked = marked' ∧ l.column = m.column := by
  unfold placeCells at same
  cases column : l.column with
  | none =>
    cases column' : m.column with
    | some => simp [column, column'] at columns
    | none =>
      simp only [column, column', List.append_nil] at same
      obtain ⟨name, marked⟩ := placeText_inj (String.toList_inj.mp same)
      exact ⟨name, marked, rfl⟩
  | some c =>
    cases column' : m.column with
    | none => simp [column, column'] at columns
    | some c' =>
      simp only [column, column'] at same
      obtain ⟨front, behind⟩ := append_cons_inj_last (not_mem_toString rfl c)
        (not_mem_toString rfl c') same
      obtain ⟨name, marked⟩ := placeText_inj (String.toList_inj.mp front)
      exact ⟨name, marked, congrArg some (toString_inj behind)⟩

section

variable {l : Listing} {gutter : Nat} {marked : UInt64} {numbered : List (UInt64 × String)}

theorem filter_body (fits : ∀ p ∈ numbered, digitCount p.1 ≤ gutter) :
    (l.body gutter marked numbered).filter (fun row => ¬ Unnumbered gutter row) =
      numbered.map fun p => lineRow gutter p.1 p.2 := by
  rw [body, List.filter_flatMap, List.map_eq_flatMap]
  refine List.flatMap_congr ?_
  rintro ⟨number, line⟩ there
  have numbered := not_unnumbered_lineRow (fits _ there) line
  cases l.column with
  | none => simp [numbered]
  | some column =>
    have blank := unnumbered_caretRow gutter line column
    dsimp only
    split <;> simp [numbered, blank]

/-- There is a caret exactly if the column is known. -/
theorem exists_unnumbered_iff (fits : ∀ p ∈ numbered, digitCount p.1 ≤ gutter)
    (present : ∃ line, (marked, line) ∈ numbered) :
    (∃ row ∈ l.body gutter marked numbered, Unnumbered gutter row) ↔
      l.column.isSome = true := by
  constructor
  · rintro ⟨row, there, blank⟩
    obtain ⟨p, among, rfl | ⟨column, known, -, -⟩⟩ := mem_body_iff.mp there
    · exact absurd blank (not_unnumbered_lineRow (fits p among) p.2)
    · exact Option.isSome_of_eq_some known
  · intro known
    obtain ⟨column, known⟩ := Option.isSome_iff_exists.mp known
    obtain ⟨line, among⟩ := present
    refine ⟨caretRow gutter line column, ?_, unnumbered_caretRow gutter line column⟩
    exact mem_body_iff.mpr ⟨(marked, line), among, .inr ⟨column, known, rfl, rfl⟩⟩

end

/-- An excerpt without a defect, whose lines and whose name stay within their rows. A line with a
tab is left out, as it is shown like one with spaces. -/
structure Legible (l : Listing) : Prop where
  valid : l.excerpt.Valid
  newline_not_mem_line : ∀ line ∈ l.excerpt.lines, '\n' ∉ line.toList
  tab_not_mem_line : ∀ line ∈ l.excerpt.lines, '\t' ∉ line.toList
  newline_not_mem_name : ∀ name, l.name = some name → '\n' ∉ name.toList

theorem newline_not_mem_rows {l : Listing} {rows : List String} (made : l.rows = .ok rows)
    (lines : ∀ line ∈ l.excerpt.lines, '\n' ∉ line.toList)
    (named : ∀ name, l.name = some name → '\n' ∉ name.toList) :
    ∀ row ∈ rows, '\n' ∉ row.toList := by
  obtain ⟨last, marked, numbered, numbering, rfl⟩ := numbering_of_rows made
  intro row there
  rcases List.mem_cons.mp there with rfl | below
  · exact newline_not_mem_heading _ _ named
  · refine newline_not_mem_body _ _ ?_ row below
    intro p among
    exact lines _ (numbering.line_mem among)

theorem rows_eq_of_render_eq {l m : Listing} {text : String} (legible : l.Legible)
    (legible' : m.Legible) (shown : l.render = .ok text) (shown' : m.render = .ok text) :
    ∃ rows, l.rows = .ok rows ∧ m.rows = .ok rows := by
  obtain ⟨rows, made, joined⟩ := bind_eq_ok_iff.mp shown
  obtain ⟨rows', made', joined'⟩ := bind_eq_ok_iff.mp shown'
  have nonempty : ∀ {l : Listing} {rows : List String}, l.rows = .ok rows → rows ≠ [] := by
    intro l rows made
    obtain ⟨last, marked, numbered, -, rfl⟩ := numbering_of_rows made
    simp
  have same : "\n".intercalate rows = "\n".intercalate rows' :=
    Except.ok.inj (joined.trans joined'.symm)
  obtain rfl := intercalate_newline_inj (nonempty made) (nonempty made')
    (newline_not_mem_rows made legible.newline_not_mem_line legible.newline_not_mem_name)
    (newline_not_mem_rows made' legible'.newline_not_mem_line legible'.newline_not_mem_name) same
  exact ⟨rows, made, made'⟩

/-- Two listings with the same text show the same: the same excerpt, the same column and the same
name, up to what is written for a name that is not known. The caret tells whether there is a column,
so that the last colon of the heading can be read. -/
theorem eq_of_render_eq {l m : Listing} {text : String} (legible : l.Legible)
    (legible' : m.Legible) (shown : l.render = .ok text) (shown' : m.render = .ok text) :
    l.excerpt = m.excerpt ∧ l.column = m.column ∧ l.name.getD unknown = m.name.getD unknown := by
  obtain ⟨rows, made, made'⟩ := rows_eq_of_render_eq legible legible' shown shown'
  obtain ⟨last, marked, numbered, numbering, rfl⟩ := numbering_of_rows made
  obtain ⟨last', marked', numbered', numbering', same⟩ := numbering_of_rows made'
  obtain ⟨headings, bodies⟩ := List.cons.inj same
  obtain ⟨gutter, places⟩ := heading_inj headings
  have fits := fun p there => numbering.digitCount_le (p := p) there
  have fits' := fun p there => numbering'.digitCount_le (p := p) there
  rw [← gutter] at bodies fits'
  have columns : l.column.isSome = m.column.isSome := by
    rw [Bool.eq_iff_iff, ← exists_unnumbered_iff fits (numbering.marked_mem legible.valid),
      ← exists_unnumbered_iff fits' (numbering'.marked_mem legible'.valid), bodies]
  obtain ⟨name, rfl, column⟩ := placeCells_inj columns places
  have lines : numbered = numbered' := by
    apply eq_of_map_eq_map (f := fun p => lineRow (digitCount last) p.1 p.2)
    · intro p there p' there' row
      obtain ⟨number, line⟩ := lineRow_inj (fits p there) (fits' p' there')
        (legible.tab_not_mem_line _ (numbering.line_mem there))
        (legible'.tab_not_mem_line _ (numbering'.line_mem there')) row
      exact Prod.ext number line
    · rw [← filter_body fits, ← filter_body fits', bodies]
  subst lines
  exact ⟨numbering.unique numbering' legible.valid.lines_ne_nil, column, name⟩

def caretLike (name : Option String) : Listing :=
  ⟨⟨9, ["   | ^", ""], 1⟩, some 7, name⟩

theorem eq_of_render_eq_unknown :
    (caretLike none).Legible ∧ (caretLike (some "?")).Legible ∧
      (caretLike none).render = .ok "  --> ?:10:7\n 9 |    | ^\n10 |\n   | ^" ∧
      (caretLike (some "?")).render = .ok "  --> ?:10:7\n 9 |    | ^\n10 |\n   | ^" ∧
      (caretLike none).excerpt = (caretLike (some "?")).excerpt ∧
      (caretLike none).column = (caretLike (some "?")).column ∧
      (caretLike none).name.getD unknown = (caretLike (some "?")).name.getD unknown := by
  have unnamed : (caretLike none).Legible := by
    refine ⟨by decide, by decide, by decide, ?_⟩
    intro name known
    cases known
  have named : (caretLike (some "?")).Legible := by
    refine ⟨by decide, by decide, by decide, ?_⟩
    intro name known
    cases known
    decide
  have shown : (caretLike none).render = .ok "  --> ?:10:7\n 9 |    | ^\n10 |\n   | ^" := by
    decide +kernel
  have shown' : (caretLike (some "?")).render =
      .ok "  --> ?:10:7\n 9 |    | ^\n10 |\n   | ^" := by
    decide +kernel
  exact ⟨unnamed, named, shown, shown', eq_of_render_eq unnamed named shown shown'⟩

end Pinpoint.Listing
