import Mathlib.Data.List.TakeWhile
import Pinpoint.Text.Lines

/-! Places in a text. A place is reached by counting characters from the start of the text, or by
counting newlines first and then the characters behind the last of them. A character that is no part
of a line end has the same line and column in the segments of the text. -/
namespace Pinpoint.Text

/-- The number of the line at a place: one more than the newlines in front of it. -/
def lineAt (cs : List Char) (place : Nat) : Nat :=
  (cs.take place).count '\n' + 1

/-- The column at a place: one more than the characters behind the newline in front of it. -/
def columnAt (cs : List Char) (place : Nat) : Nat :=
  ((cs.take place).reverse.takeWhile (· ≠ '\n')).length + 1

/-- There is a character at a place, and it is no part of a line end. -/
structure Shows (cs : List Char) (place : Nat) (c : Char) : Prop where
  there : cs[place]? = some c
  no_newline : c ≠ '\n'
  no_return : c = '\r' → cs[place + 1]? ≠ some '\n'

theorem Shows.place_le {cs : List Char} {place : Nat} {c : Char} (shows : Shows cs place c) :
    place ≤ cs.length :=
  Nat.le_of_lt (List.getElem?_eq_some_iff.mp shows.there).1

theorem shows_cons_succ {d : Char} {cs : List Char} {place : Nat} {c : Char} :
    Shows (d :: cs) (place + 1) c ↔ Shows cs place c := by
  constructor
  · rintro ⟨there, noNewline, noReturn⟩
    exact ⟨there, noNewline, noReturn⟩
  · rintro ⟨there, noNewline, noReturn⟩
    exact ⟨there, noNewline, noReturn⟩

theorem lineAt_newline_succ (cs : List Char) (place : Nat) :
    lineAt ('\n' :: cs) (place + 1) = lineAt cs place + 1 := by
  rw [lineAt, List.take_succ_cons, List.count_cons_self, lineAt]

theorem lineAt_cons_succ {c : Char} (other : c ≠ '\n') (cs : List Char) (place : Nat) :
    lineAt (c :: cs) (place + 1) = lineAt cs place := by
  rw [lineAt, List.take_succ_cons, List.count_cons_of_ne other, lineAt]

theorem columnAt_newline_succ (cs : List Char) (place : Nat) :
    columnAt ('\n' :: cs) (place + 1) = columnAt cs place := by
  rw [columnAt, columnAt, List.take_succ_cons, List.reverse_cons, List.takeWhile_append]
  split
  · rename_i whole
    rw [whole, List.takeWhile_cons_of_neg (by decide), List.append_nil]
  · rfl

/-- On the first line, every character in front of a place counts for its column. -/
theorem columnAt_cons_succ {c : Char} (other : c ≠ '\n') (cs : List Char) (place : Nat) :
    columnAt (c :: cs) (place + 1) =
      if lineAt cs place = 1 then columnAt cs place + 1 else columnAt cs place := by
  have first : ((cs.take place).reverse.takeWhile (· ≠ '\n')).length =
      (cs.take place).reverse.length ↔ lineAt cs place = 1 := by
    rw [lineAt, Nat.add_eq_right, List.count_eq_zero]
    constructor
    · intro whole member
      have all := List.takeWhile_eq_self_iff.mp ((List.takeWhile_prefix _).eq_of_length whole)
      simpa using all '\n' (List.mem_reverse.mpr member)
    · intro none
      rw [List.takeWhile_eq_self_iff.mpr]
      intro x member
      rw [decide_eq_true_eq]
      rintro rfl
      exact none (List.mem_reverse.mp member)
  rw [columnAt, columnAt, List.take_succ_cons, List.reverse_cons, List.takeWhile_append]
  simp only [first]
  split
  · rename_i onFirst
    rw [first.mpr onFirst, List.takeWhile_cons_of_pos (by simpa using other)]
    simp
  · rfl

theorem lineAt_ne_one (cs : List Char) (place : Nat) : lineAt cs place + 1 ≠ 1 := by
  rw [lineAt]
  omega

theorem lineAt_return_newline (cs : List Char) (place : Nat) :
    lineAt ('\r' :: '\n' :: cs) (place + 2) = lineAt cs place + 1 := by
  rw [lineAt_cons_succ (by decide), lineAt_newline_succ]

theorem columnAt_return_newline (cs : List Char) (place : Nat) :
    columnAt ('\r' :: '\n' :: cs) (place + 2) = columnAt cs place := by
  rw [columnAt_cons_succ (by decide), lineAt_newline_succ, if_neg (lineAt_ne_one cs place),
    columnAt_newline_succ]

/-- Only the start of a text is at the first column of the first line. -/
theorem not_start {c : Char} {cs : List Char} {place : Nat}
    (line : lineAt (c :: cs) (place + 1) = 1) : columnAt (c :: cs) (place + 1) ≠ 1 := by
  by_cases newline : c = '\n'
  · subst newline
    rw [lineAt_newline_succ, lineAt] at line
    omega
  · rw [lineAt_cons_succ newline] at line
    rw [columnAt_cons_succ newline, if_pos line, columnAt]
    omega

/-- A line and a column belong to one place only. -/
theorem place_unique {cs : List Char} {p q : Nat} (pInside : p ≤ cs.length)
    (qInside : q ≤ cs.length) (line : lineAt cs p = lineAt cs q)
    (column : columnAt cs p = columnAt cs q) : p = q := by
  induction cs generalizing p q with
  | nil =>
    rw [List.length_nil] at pInside qInside
    omega
  | cons c cs ih =>
    rw [List.length_cons] at pInside qInside
    cases p with
    | zero =>
      cases q with
      | zero => rfl
      | succ q => exact absurd column.symm (not_start line.symm)
    | succ p =>
      cases q with
      | zero => exact absurd column (not_start line)
      | succ q =>
        refine congrArg (· + 1) (ih (by omega) (by omega) ?_ ?_)
        all_goals
          by_cases newline : c = '\n'
          · subst newline
            rw [lineAt_newline_succ, lineAt_newline_succ] at line
            rw [columnAt_newline_succ, columnAt_newline_succ] at column
            omega
          · rw [lineAt_cons_succ newline, lineAt_cons_succ newline] at line
            rw [columnAt_cons_succ newline, columnAt_cons_succ newline, line] at column
            split at column <;> omega

/-- What a place shows is found in the segment of its line, at its column. -/
theorem segment_of_shows {cs : List Char} {place : Nat} {c : Char} (shows : Shows cs place c) :
    ∃ segment, (segments cs)[lineAt cs place - 1]? = some segment ∧
      segment[columnAt cs place - 1]? = some c := by
  fun_induction segments cs generalizing place with
  | case1 => exact absurd shows.there (by simp)
  | case2 rest ih =>
    cases place with
    | zero => exact absurd (Option.some.inj shows.there).symm shows.no_newline
    | succ place =>
      rw [lineAt_newline_succ, columnAt_newline_succ]
      exact ih (shows_cons_succ.mp shows)
  | case3 rest ih =>
    cases place with
    | zero => exact absurd rfl (shows.no_return (Option.some.inj shows.there).symm)
    | succ place =>
      cases place with
      | zero => exact absurd (Option.some.inj shows.there).symm shows.no_newline
      | succ place =>
        rw [lineAt_return_newline, columnAt_return_newline]
        exact ih (shows_cons_succ.mp (shows_cons_succ.mp shows))
  | case4 d rest other alone ih =>
    obtain ⟨first, more, cut⟩ := List.exists_cons_of_ne_nil (segments_ne_nil rest)
    rw [cut] at ih ⊢
    cases place with
    | zero => exact ⟨d :: first, rfl, shows.there⟩
    | succ place =>
      obtain ⟨segment, found, there⟩ := ih (shows_cons_succ.mp shows)
      rw [lineAt_cons_succ other, columnAt_cons_succ other]
      split
      · rename_i onFirst
        rw [onFirst] at found ⊢
        cases found
        exact ⟨d :: first, rfl, there⟩
      · rename_i later
        have positive : lineAt rest place ≠ 0 := Nat.succ_ne_zero _
        obtain ⟨line, onLater⟩ : ∃ line, lineAt rest place = line + 2 :=
          ⟨lineAt rest place - 2, by omega⟩
        rw [onLater] at found ⊢
        exact ⟨segment, found, there⟩

theorem shows_of_segment {cs segment : List Char} {c : Char} {line column : Nat}
    (found : (segments cs)[line]? = some segment) (there : segment[column]? = some c) :
    ∃ place, Shows cs place c ∧ lineAt cs place = line + 1 ∧ columnAt cs place = column + 1 := by
  fun_induction segments cs generalizing line column segment with
  | case1 =>
    cases line with
    | zero =>
      cases found
      cases there
    | succ line => cases found
  | case2 rest ih =>
    cases line with
    | zero =>
      cases found
      cases there
    | succ line =>
      obtain ⟨place, shows, onLine, onColumn⟩ := ih found there
      refine ⟨place + 1, shows_cons_succ.mpr shows, ?_, ?_⟩
      · rw [lineAt_newline_succ, onLine]
      · rw [columnAt_newline_succ, onColumn]
  | case3 rest ih =>
    cases line with
    | zero =>
      cases found
      cases there
    | succ line =>
      obtain ⟨place, shows, onLine, onColumn⟩ := ih found there
      refine ⟨place + 2, shows_cons_succ.mpr (shows_cons_succ.mpr shows), ?_, ?_⟩
      · rw [lineAt_return_newline, onLine]
      · rw [columnAt_return_newline, onColumn]
  | case4 d rest other alone ih =>
    rw [List.getElem?_modifyHead] at found
    cases line with
    | zero =>
      obtain ⟨first, cut, rfl⟩ := Option.map_eq_some_iff.mp found
      cases column with
      | zero =>
        cases there
        refine ⟨0, ⟨rfl, other, ?_⟩, rfl, rfl⟩
        rintro rfl begins
        obtain ⟨more, starts⟩ := List.head?_eq_some_iff.mp (List.head?_eq_getElem?.trans begins)
        exact alone more rfl starts
      | succ column =>
        obtain ⟨place, shows, onLine, onColumn⟩ := ih cut there
        refine ⟨place + 1, shows_cons_succ.mpr shows, ?_, ?_⟩
        · rw [lineAt_cons_succ other, onLine]
        · rw [columnAt_cons_succ other, if_pos onLine, onColumn]
    | succ line =>
      obtain ⟨place, shows, onLine, onColumn⟩ := ih found there
      refine ⟨place + 1, shows_cons_succ.mpr shows, ?_, ?_⟩
      · rw [lineAt_cons_succ other, onLine]
      · rw [columnAt_cons_succ other, if_neg (by omega), onColumn]

end Pinpoint.Text
