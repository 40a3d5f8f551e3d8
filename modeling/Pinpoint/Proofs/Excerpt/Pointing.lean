import Pinpoint.Excerpt.Around
import Pinpoint.Proofs.Text.Division
import Pinpoint.Proofs.Text.Position

/-! Pointing at characters. The line and the column of a character lead to it again in every excerpt
around that line, and each column of a marked line is that of one character of the text. -/
namespace Pinpoint.Excerpt

open Text (Shows lineAt columnAt)

/-- The line and the column at a place can be written as words. -/
theorem exists_claim {text : String} (storable : Text.Storable text) (place : Nat) :
    ∃ line column : UInt64, line.toNat = lineAt text.toList place ∧
      column.toNat = columnAt text.toList place := by
  have bytes := Text.length_le_utf8ByteSize text.toList
  rw [String.ofList_toList] at bytes
  have before : (text.toList.take place).length ≤ text.toList.length := by
    rw [List.length_take]
    exact Nat.min_le_right _ _
  have newlines := List.count_le_length (a := '\n') (l := text.toList.take place)
  have behind :=
    (List.takeWhile_sublist (· ≠ '\n') (l := (text.toList.take place).reverse)).length_le
  rw [List.length_reverse] at behind
  have words : UInt64.size = 2 ^ 64 := rfl
  unfold Text.Storable at storable
  obtain ⟨line, onLine⟩ := exists_word (n := lineAt text.toList place) (by
    rw [lineAt]
    omega)
  obtain ⟨column, onColumn⟩ := exists_word (n := columnAt text.toList place) (by
    rw [columnAt]
    omega)
  exact ⟨line, column, onLine, onColumn⟩

theorem line_of_shows {text : String} {place : Nat} {c : Char} (shows : Shows text.toList place c) :
    ∃ marked, (Text.lines text)[lineAt text.toList place - 1]? = some marked ∧
      marked.toList[columnAt text.toList place - 1]? = some c := by
  obtain ⟨segment, found, there⟩ := Text.segment_of_shows shows
  refine ⟨String.ofList segment, ?_, by rwa [String.toList_ofList]⟩
  have nonblank : String.ofList segment ≠ "" := by
    rintro blank
    cases String.ofList_injective blank
    cases there
  rw [Text.getElem?_lines_iff nonblank, String.toList_ofList, found]

/-- Each character of a line is shown at exactly one place. -/
theorem shows_of_line {text marked : String} {line column : Nat}
    (found : (Text.lines text)[line]? = some marked) (inside : column < marked.length) :
    ∃! place, (∃ c, Shows text.toList place c) ∧ lineAt text.toList place = line + 1 ∧
      columnAt text.toList place = column + 1 := by
  have nonblank : marked ≠ "" := by
    rintro rfl
    exact Nat.not_lt_zero _ inside
  rw [← String.length_toList] at inside
  obtain ⟨place, shows, onLine, onColumn⟩ := Text.shows_of_segment
    ((Text.getElem?_lines_iff nonblank).mp found) (List.getElem?_eq_getElem inside)
  refine ⟨place, ⟨⟨_, shows⟩, onLine, onColumn⟩, ?_⟩
  rintro other ⟨⟨c, otherShows⟩, otherLine, otherColumn⟩
  exact Text.place_unique otherShows.place_le shows.place_le (otherLine.trans onLine.symm)
    (otherColumn.trans onColumn.symm)

/-- Every character that is no part of a line end can be pointed at: around its line there is an
excerpt with any border, and its column leads to it in the marked line. Conversely, a column of the
marked line belongs to exactly one such character of the text. -/
theorem around?_points {text : String} (storable : Text.Storable text) :
    (∀ place c, Shows text.toList place c →
      ∃ line column : UInt64, line.toNat = lineAt text.toList place ∧
        column.toNat = columnAt text.toList place ∧
        ∀ border, ∃ e marked, around? (some text) (some line) border = .ok (some e) ∧
          e.markedNumber = .ok line ∧ e.markedLine? = some marked ∧
          marked.toList[column.toNat - 1]? = some c) ∧
    ∀ (line column border : UInt64) e marked,
      around? (some text) (some line) border = .ok (some e) → e.markedLine? = some marked →
      1 ≤ column.toNat → column.toNat ≤ marked.length →
      ∃! place, (∃ c, Shows text.toList place c) ∧ lineAt text.toList place = line.toNat ∧
        columnAt text.toList place = column.toNat := by
  have fits := storable.length_lines_lt
  constructor
  · intro place c shows
    obtain ⟨line, column, onLine, onColumn⟩ := exists_claim storable place
    obtain ⟨marked, found, there⟩ := line_of_shows shows
    rw [← onLine] at found
    rw [← onColumn] at there
    have positive : 1 ≤ line.toNat := by
      rw [onLine]
      exact Nat.succ_pos _
    have inside := (List.getElem?_eq_some_iff.mp found).1
    refine ⟨line, column, onLine, onColumn, fun border => ⟨_, marked,
      (around?_eq_some_iff fits).mpr ⟨⟨positive, by omega⟩, rfl⟩,
      markedNumber_ofLinesAround (by omega) _, ?_, there⟩⟩
    rw [markedLine?_ofLinesAround (by omega), found]
  · intro line column border e marked cut shown positive inside
    obtain ⟨present, rfl⟩ := (around?_eq_some_iff fits).mp cut
    rw [markedLine?_ofLinesAround (by omega)] at shown
    have unique := shows_of_line shown (show column.toNat - 1 < marked.length by omega)
    rwa [Nat.sub_add_cancel present.1, Nat.sub_add_cancel positive] at unique

/-- The carriage return in the middle of a line is pointed at, and so is nothing else there. -/
theorem around?_points_return :
    Text.Storable "x\r\n\r\ry\r\n" ∧ Shows "x\r\n\r\ry\r\n".toList 4 '\r' ∧
    (∀ border, ∃ e marked, around? (some "x\r\n\r\ry\r\n") (some 2) border = .ok (some e) ∧
      e.markedNumber = .ok 2 ∧ e.markedLine? = some marked ∧ marked.toList[1]? = some '\r') ∧
    ∃! place, (∃ c, Shows "x\r\n\r\ry\r\n".toList place c) ∧
      lineAt "x\r\n\r\ry\r\n".toList place = 2 ∧
      columnAt "x\r\n\r\ry\r\n".toList place = 2 := by
  have storable : Text.Storable "x\r\n\r\ry\r\n" := by decide
  have shows : Shows "x\r\n\r\ry\r\n".toList 4 '\r' := ⟨by decide, by decide, by decide⟩
  obtain ⟨points, pointed⟩ := around?_points storable
  obtain ⟨line, column, onLine, onColumn, cut⟩ := points 4 '\r' shows
  obtain rfl : line = 2 := UInt64.toNat_inj.mp (onLine.trans (by decide))
  obtain rfl : column = 2 := UInt64.toNat_inj.mp (onColumn.trans (by decide))
  obtain ⟨e, marked, around, -, there, holds⟩ := cut 0
  have inside := (List.getElem?_eq_some_iff.mp holds).1
  rw [String.length_toList] at inside
  exact ⟨storable, shows, cut, pointed 2 2 0 e marked around there (by decide) inside⟩

end Pinpoint.Excerpt
