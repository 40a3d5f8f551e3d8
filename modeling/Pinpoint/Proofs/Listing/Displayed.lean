import Pinpoint.Proofs.Listing.Rows

/-! When a listing can be shown. The number behind the last line is the greatest one that is counted
for the lines, so no other number is lacking where that one is there. The indent of the caret is
counted apart, and fits into a word below lines of less than `2 ^ 62` characters. -/
namespace Pinpoint

namespace Excerpt

variable {e : Excerpt} {last : UInt64}

theorem exists_markedNumber (valid : e.Valid) (counted : e.lastLine = .ok last) :
    ∃ number, e.markedNumber = .ok number := by
  obtain ⟨-, fits⟩ := lastLine_eq_ok_iff.mp counted
  have inside := valid.markedIndex_lt
  obtain ⟨number, place⟩ :=
    exists_word (n := e.firstLine.toNat + e.markedIndex.toNat) (by omega)
  exact ⟨number, addWord_eq_ok_iff.mpr place⟩

theorem exists_numbered (counted : e.lastLine = .ok last) :
    ∃ numbered, e.numbered = .ok numbered := by
  obtain ⟨-, fits⟩ := lastLine_eq_ok_iff.mp counted
  exact ⟨_, numbered_eq (Nat.le_of_lt fits)⟩

end Excerpt

namespace Listing

theorem caretIndent_lt {line : String} (short : line.length < 1 <<< 62) (column : UInt64) :
    caretIndent line column < UInt64.size := by
  have cells := Text.cells_le Text.displayWidth_le (line.toList.take (column.toNat - 1))
  rw [List.length_take, String.length_toList] at cells
  have words : UInt64.size = 2 ^ 64 := rfl
  unfold caretIndent
  omega

/-- A listing of short lines can be shown if its last line has a number. -/
theorem exists_render {l : Listing} {last : UInt64} (valid : l.excerpt.Valid)
    (counted : l.excerpt.lastLine = .ok last)
    (short : ∀ line ∈ l.excerpt.lines, line.length < 1 <<< 62) :
    ∃ shown, l.render = .ok shown := by
  obtain ⟨marked, markedNumber⟩ := Excerpt.exists_markedNumber valid counted
  obtain ⟨numbered, made⟩ := Excerpt.exists_numbered counted
  obtain ⟨-, fits⟩ := Excerpt.lastLine_eq_ok_iff.mp counted
  have lines := (Excerpt.numbers_of_numbered (Nat.le_of_lt fits) made).2
  have caret : l.CaretFits marked numbered := by
    intro p there column _ _
    apply caretIndent_lt
    apply short
    rw [← lines]
    exact List.mem_map_of_mem there
  have rows := rows_eq_ok_iff.mpr ⟨last, marked, numbered, counted, markedNumber, made, caret, rfl⟩
  exact ⟨_, bind_eq_ok_iff.mpr ⟨_, rows, rfl⟩⟩

end Listing
end Pinpoint
