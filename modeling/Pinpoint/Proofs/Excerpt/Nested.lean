import Pinpoint.Excerpt.Recut
import Pinpoint.Proofs.Text.Concat

/-! Excerpts of excerpts. The lines of an excerpt, joined to a text, have an excerpt of their own.
It shows what an excerpt of the whole text shows around the same line with the smaller one of the
two borders, and its numbers begin again at 1. -/
namespace Pinpoint.Excerpt

/-- Neither border shows more than the smaller one. -/
theorem lines_ofLinesAround_ofLinesAround (lines : List String) (index border border' : Nat) :
    (ofLinesAround (ofLinesAround lines index border).lines (index - (index - border))
        border').lines =
      (ofLinesAround lines index (min border border')).lines := by
  simp only [ofLinesAround]
  rw [List.take_drop, List.drop_drop, List.take_take]
  congr 1
  · omega
  · congr 1
    omega

theorem lines_joined {text : String} {lineEnd : Text.LineEnd} {e : Excerpt}
    (valid : e.Valid) (among : ∀ shown ∈ e.lines, shown ∈ Text.lines text)
    (last : e.lines.getLast? ≠ some "" ∨ e.lines = [""])
    (whole : lineEnd = .newline →
      ∀ shown ∈ e.lines.dropLast, shown.toList.getLast? ≠ some '\r') :
    Text.lines (e.joined (String.ofList lineEnd.chars)) = e.lines := by
  apply Text.lines_intercalate valid.lines_ne_nil _ last whole
  intro shown there
  exact Text.newline_not_mem_of_mem_lines (among shown there)

/-- The lines of an excerpt, joined by line ends that are read as they are meant, give the same
excerpt again, or a narrower one if the border is smaller. -/
theorem around?_nested {text : String} (storable : Text.Storable text) {line border : UInt64}
    {e : Excerpt} (cut : around? (some text) (some line) border = .ok (some e))
    (last : e.lines.getLast? ≠ some "" ∨ e.lines = [""]) {lineEnd : Text.LineEnd}
    (whole : lineEnd = .newline →
      ∀ shown ∈ e.lines.dropLast, shown.toList.getLast? ≠ some '\r') :
    ∃ next, addWord e.markedIndex 1 = .ok next ∧ ∀ border', ∃ again narrow,
      around? (some (e.joined (String.ofList lineEnd.chars))) (some next) border' =
        .ok (some again) ∧
      around? (some text) (some line) (min border border') = .ok (some narrow) ∧
      again.lines = narrow.lines ∧ again.markedIndex = narrow.markedIndex ∧
      again.firstLine.toNat + e.firstLine.toNat - 1 = narrow.firstLine.toNat ∧
      (border ≤ border' → again.lines = e.lines) := by
  have fits := storable.length_lines_lt
  have valid := valid_of_around? cut
  obtain ⟨present, rfl⟩ := (around?_eq_some_iff fits).mp cut
  have lines := lines_joined valid (fun _ there => mem_of_mem_ofLinesAround there) last whole
  have mark := @markedIndex_ofLinesAround (line.toNat - 1) (by omega)
    (Text.lines text) border.toNat
  have length := length_lines_ofLinesAround (Text.lines text) (line.toNat - 1) border.toNat
  obtain ⟨next, place⟩ := exists_word
    (n := line.toNat - 1 - (line.toNat - 1 - border.toNat) + 1) (by omega)
  refine ⟨next, addWord_eq_ok_iff.mpr (by omega), ?_⟩
  intro border'
  refine ⟨_, _, (around?_eq_some_iff ?_).mpr ⟨?_, rfl⟩,
    (around?_eq_some_iff fits).mpr ⟨present, rfl⟩, ?_⟩
  · rw [lines]
    omega
  · rw [lines]
    omega
  have index : next.toNat - 1 = line.toNat - 1 - (line.toNat - 1 - border.toNat) := by omega
  have same := lines_ofLinesAround_ofLinesAround (Text.lines text) (line.toNat - 1)
    border.toNat border'.toNat
  rw [lines, index, toNat_min]
  refine ⟨same, ?_, ?_, ?_⟩
  · rw [← UInt64.toNat_inj, markedIndex_ofLinesAround (by omega),
      markedIndex_ofLinesAround (by omega)]
    omega
  · rw [firstLine_ofLinesAround (by omega), firstLine_ofLinesAround (by omega),
      firstLine_ofLinesAround (by omega)]
    omega
  · intro wider
    rw [UInt64.le_iff_toNat_le] at wider
    rw [same, Nat.min_eq_left wider]

/-- The last line may end with a carriage return, as no line end is put behind it. -/
theorem around?_nested_newline :
    Text.Storable "x\r\na\n\r\nc\r\r\n" ∧
    around? (some "x\r\na\n\r\nc\r\r\n") (some 3) 1 = .ok (some ⟨2, ["a", "", "c\r"], 1⟩) ∧
    (∀ shown ∈ ["a", ""], shown.toList.getLast? ≠ some '\r') ∧
    joined ⟨2, ["a", "", "c\r"], 1⟩ "\n" = "a\n\nc\r" ∧
    (∃ again, around? (some "a\n\nc\r") (some 2) 0 = .ok (some again) ∧
      again.lines = [""] ∧ again.firstLine.toNat + 2 - 1 = 3) ∧
    ∃ again, around? (some "a\n\nc\r") (some 2) 0xffffffffffffffff = .ok (some again) ∧
      again.lines = ["a", "", "c\r"] := by
  have storable : Text.Storable "x\r\na\n\r\nc\r\r\n" := by decide
  have cut : around? (some "x\r\na\n\r\nc\r\r\n") (some 3) 1 =
      .ok (some ⟨2, ["a", "", "c\r"], 1⟩) := by
    rfl
  have narrower : around? (some "x\r\na\n\r\nc\r\r\n") (some 3) 0 =
      .ok (some ⟨3, [""], 0⟩) := by
    rfl
  have whole : ∀ shown ∈ ["a", ""], shown.toList.getLast? ≠ some '\r' := by decide
  obtain ⟨next, place, nested⟩ := around?_nested storable cut (.inl (by decide))
    (fun _ : Text.LineEnd.newline = .newline => whole)
  cases place
  obtain ⟨again, narrow, found, same, lines, -, first, -⟩ := nested 0
  cases same.symm.trans narrower
  obtain ⟨again', -, found', -, -, -, -, unchanged⟩ := nested 0xffffffffffffffff
  exact ⟨storable, cut, whole, by decide, ⟨again, found, lines, first⟩, again', found',
    unchanged (by decide)⟩

end Pinpoint.Excerpt
