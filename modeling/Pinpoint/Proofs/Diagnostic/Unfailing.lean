import Pinpoint.Diagnostic.Basic
import Pinpoint.Proofs.Listing.Displayed

/-! Diagnostics never fail. The line, the column and the border are claims and may be any words, but
every count on the way to a listing and to its text is bounded by the number of lines that the text
has. Only a marked line of `2 ^ 62` characters or more could have too many cells to count. -/
namespace Pinpoint

namespace Excerpt

theorem exists_around? {text : Option String} {line : Option UInt64}
    (storable : ∀ whole, text = some whole → Text.Storable whole) (border : UInt64) :
    ∃ found, around? text line border = .ok found := by
  cases text with
  | none => exact ⟨none, around?_none_left line border⟩
  | some whole =>
    cases line with
    | none => exact ⟨none, around?_none_right (some whole) border⟩
    | some number => exact ⟨_, around?_eq number border (storable whole rfl).length_lines_lt⟩

/-- An excerpt ends with a line of the text that it is cut out of. -/
theorem lastLine_of_around? {whole : String} {line border : UInt64} {e : Excerpt}
    (storable : Text.Storable whole)
    (cut : around? (some whole) (some line) border = .ok (some e)) :
    ∃ last, e.lastLine = .ok last ∧ last.toNat ≤ (Text.lines whole).length := by
  obtain ⟨present, rfl⟩ := (around?_eq_some_iff storable.length_lines_lt).mp cut
  have there : line.toNat - 1 < (Text.lines whole).length := by omega
  obtain ⟨last, counted, place⟩ :=
    exists_lastLine_ofLinesAround storable.length_lines_succ_lt there border.toNat
  exact ⟨last, counted, place ▸ Nat.min_le_right _ _⟩

theorem mem_lines_of_around? {whole shown : String} {line border : UInt64} {e : Excerpt}
    (storable : Text.Storable whole) (cut : around? (some whole) (some line) border = .ok (some e))
    (there : shown ∈ e.lines) : shown ∈ Text.lines whole := by
  obtain ⟨-, rfl⟩ := (around?_eq_some_iff storable.length_lines_lt).mp cut
  exact mem_of_mem_ofLinesAround there

end Excerpt

namespace Diagnostic

theorem summary_ne_empty (d : Diagnostic) : d.summary ≠ "" := by
  intro empty
  have cells := congrArg String.toList empty
  simp [summary] at cells

theorem exists_listing? {d : Diagnostic} {border : UInt64} {found : Option Excerpt}
    (cut : d.excerpt? border = .ok found) (log : List Notice) :
    ∃ listing log', (d.listing? border).run log = (.ok listing, log') := by
  unfold listing?
  rw [cut]
  cases found with
  | none => exact ⟨_, _, rfl⟩
  | some e => exact ⟨_, _, rfl⟩

/-- Whatever a diagnostic claims and whatever border is asked for, its summary, its excerpt and its
listing are given, and so are the text of the listing and all numbers of its lines. -/
theorem answered_without_overflow {d : Diagnostic}
    (storable : ∀ whole, d.site.text = some whole → Text.Storable whole)
    (short : ∀ whole, d.site.text = some whole →
      ∀ line ∈ Text.lines whole, line.length < 1 <<< 62) (border : UInt64) (log : List Notice) :
    d.summary ≠ "" ∧
    (∃ found, d.excerpt? border = .ok found) ∧
    ∃ listing log', (d.listing? border).run log = (.ok listing, log') ∧
      ∀ l ∈ listing,
        (∃ shown, l.render = .ok shown) ∧
        (∃ whole last, d.site.text = some whole ∧ l.excerpt.lastLine = .ok last ∧
          last.toNat ≤ (Text.lines whole).length) ∧
        (∃ number, l.excerpt.markedNumber = .ok number) ∧
        ∃ numbered, l.excerpt.numbered = .ok numbered := by
  obtain ⟨found, cut⟩ := Excerpt.exists_around? storable border
  obtain ⟨listing, log', made⟩ := exists_listing? cut log
  refine ⟨d.summary_ne_empty, ⟨found, cut⟩, listing, log', made, ?_⟩
  rintro l rfl
  have around := (listing?_eq_some_iff.mp made).1
  obtain ⟨whole, line, -, -, -, text, claim, -⟩ := Excerpt.exists_bounds_of_around? around
  rw [excerpt?, text, claim] at around
  have valid := Excerpt.valid_of_around? around
  obtain ⟨last, counted, bound⟩ := Excerpt.lastLine_of_around? (storable whole text) around
  refine ⟨?_, ⟨whole, last, text, counted, bound⟩, Excerpt.exists_markedNumber valid counted,
    Excerpt.exists_numbered counted⟩
  apply Listing.exists_render valid counted
  intro shown there
  exact short whole text shown (Excerpt.mem_lines_of_around? (storable whole text) around there)

def farOff : Diagnostic :=
  ⟨"bad tab", ⟨some 2, some 0xffffffffffffffff, some "a\r\n\tb\n\n", none⟩⟩

theorem answered_without_overflow_far :
    Text.Storable "a\r\n\tb\n\n" ∧
    (∀ line ∈ Text.lines "a\r\n\tb\n\n", line.length < 1 <<< 62) ∧
    ∃ l log', (farOff.listing? 0xffffffffffffffff).run [] = (.ok (some l), log') ∧
      l.excerpt.lines = ["a", "\tb"] ∧ (∃ shown, l.render = .ok shown) ∧
      (∃ last, l.excerpt.lastLine = .ok last ∧ last.toNat ≤ 2) ∧
      (∃ number, l.excerpt.markedNumber = .ok number) ∧
      ∃ numbered, l.excerpt.numbered = .ok numbered := by
  have storable : Text.Storable "a\r\n\tb\n\n" := by decide
  have lines : Text.lines "a\r\n\tb\n\n" = ["a", "\tb"] := by decide
  have short : ∀ line ∈ Text.lines "a\r\n\tb\n\n", line.length < 1 <<< 62 := by
    rw [lines]
    decide
  have listing : (farOff.listing? 0xffffffffffffffff).run [] =
      (.ok (some ⟨⟨1, ["a", "\tb"], 1⟩, some 0xffffffffffffffff, none⟩), []) := by
    rfl
  obtain ⟨-, -, found, log', made, answers⟩ := answered_without_overflow (d := farOff)
    (by rintro _ ⟨⟩; exact storable) (by rintro _ ⟨⟩; exact short) 0xffffffffffffffff []
  cases made.symm.trans listing
  obtain ⟨shown, ⟨_, last, ⟨⟩, counted, bound⟩, number, numbered⟩ := answers _ rfl
  rw [lines] at bound
  exact ⟨storable, short, _, _, listing, rfl, shown, ⟨last, counted, bound⟩, number, numbered⟩

end Diagnostic
end Pinpoint
