import Pinpoint.Proofs.Excerpt.Nearby
import Pinpoint.Proofs.Text.Concat

/-! A text within a longer one. What stands behind a text does not matter to an excerpt that ends
before its last line. What stands in front of a text moves the numbers of its lines, by one for each
newline, and may come into view above them. -/
namespace Pinpoint

namespace Text

theorem Storable.left {text more : String} (storable : Storable (text ++ more)) :
    Storable text := by
  unfold Storable at *
  rw [String.utf8ByteSize_append] at storable
  omega

theorem Storable.right {before text : String} (storable : Storable (before ++ text)) :
    Storable text := by
  unfold Storable at *
  rw [String.utf8ByteSize_append] at storable
  omega

section

variable {before text : String} {front : List String}

theorem numberedLines_append (whole : lines (before ++ text) = front ++ lines text) :
    numberedLines (before ++ text) = (front.zipIdx 1).map Prod.swap ++
      (numberedLines text).map fun (number, shown) => (number + front.length, shown) := by
  have moved : (lines text).zipIdx (1 + front.length) =
      ((lines text).zipIdx 1).map (Prod.map id (· + front.length)) := by
    rw [List.map_snd_add_zipIdx_eq_zipIdx, Nat.add_comm]
  rw [numberedLines, whole, List.zipIdx_append, List.map_append, moved, numberedLines,
    List.map_map, List.map_map]
  rfl

/-- The lines in front have the numbers up to their count, so above it there are the others. -/
theorem linesNear_append (whole : lines (before ++ text) = front ++ lines text)
    (line border : Nat) :
    (linesNear (before ++ text) (line + front.length) border).filter
        (fun (number, _) => front.length < number) =
      (linesNear text line border).map fun (number, shown) => (number + front.length, shown) := by
  have inFront : ((front.zipIdx 1).map Prod.swap).filter
      (fun (number, _) => front.length < number) = [] := by
    rw [List.filter_eq_nil_iff]
    intro p there
    obtain ⟨q, among, rfl⟩ := List.mem_map.mp there
    have bound := List.snd_lt_of_mem_zipIdx among
    rw [decide_eq_true_eq, Prod.fst_swap]
    omega
  rw [linesNear, numberedLines_append whole, List.filter_comm, List.filter_append, inFront,
    List.nil_append, List.filter_map, List.filter_map, linesNear, List.filter_filter]
  congr 1
  apply List.filter_congr
  intro p there
  have positive : 1 ≤ p.1 := by
    obtain ⟨q, among, rfl⟩ := List.mem_map.mp there
    exact List.le_snd_of_mem_zipIdx among
  rw [Bool.eq_iff_iff]
  simp only [Function.comp_apply, Bool.and_eq_true, decide_eq_true_eq]
  omega

end

end Text

namespace Excerpt

theorem ofLinesAround_congr {lines lines' : List String} {index border : Nat}
    (same : lines.take (index + border + 1) = lines'.take (index + border + 1)) :
    ofLinesAround lines index border = ofLinesAround lines' index border := by
  rw [ofLinesAround, ofLinesAround, same]

/-- The last line of a text is the only one that depends on what stands behind it. -/
theorem around?_append {text more : String} (storable : Text.Storable (text ++ more))
    {line border last : UInt64} {e : Excerpt}
    (cut : around? (some text) (some line) border = .ok (some e))
    (counted : e.lastLine = .ok last) (before : last.toNat < (Text.lines text).length)
    (apart : ¬ (text.toList.getLast? = some '\r' ∧ more.toList.head? = some '\n')) :
    around? (some (text ++ more)) (some line) border = .ok (some e) := by
  obtain ⟨present, rfl⟩ := (around?_eq_some_iff storable.left.length_lines_lt).mp cut
  have bound :=
    (lastLine_ofLinesAround storable.left.length_lines_succ_lt (by omega)).mp counted
  have nonempty : text ≠ "" := by
    rintro rfl
    have single : (Text.lines "").length = 1 := by decide
    omega
  obtain ⟨front, final, shown⟩ : ∃ front final, Text.lines text = front ++ [final] := by
    rcases List.eq_nil_or_concat' (Text.lines text) with none | shown
    · rw [none, List.length_nil] at before
      omega
    · exact shown
  obtain ⟨others, some, longer⟩ :=
    Text.exists_lines_append nonempty (fun ends begins => apart ⟨ends, begins⟩) shown
  have positive := List.length_pos_iff.mpr some
  rw [around?_eq_some_iff storable.length_lines_lt]
  rw [shown, List.length_append, List.length_singleton] at present bound before
  rw [longer, shown]
  refine ⟨?_, ofLinesAround_congr ?_⟩
  · rw [List.length_append]
    omega
  · rw [List.take_append_of_le_length (by omega), List.take_append_of_le_length (by omega)]

/-- The last line is not in the excerpt, and a newline behind the carriage return would take that
from it. -/
theorem around?_append_return :
    Text.Storable ("a\n\nb\r" ++ "\r\n\nc") ∧
    around? (some "a\n\nb\r") (some 1) 1 = .ok (some ⟨1, ["a", ""], 0⟩) ∧
    lastLine ⟨1, ["a", ""], 0⟩ = .ok 2 ∧ Text.lines "a\n\nb\r" = ["a", "", "b\r"] ∧
    around? (some ("a\n\nb\r" ++ "\r\n\nc")) (some 1) 1 = .ok (some ⟨1, ["a", ""], 0⟩) := by
  have storable : Text.Storable ("a\n\nb\r" ++ "\r\n\nc") := by decide
  have cut : around? (some "a\n\nb\r") (some 1) 1 = .ok (some ⟨1, ["a", ""], 0⟩) := by
    rfl
  have counted : lastLine ⟨1, ["a", ""], 0⟩ = .ok 2 := by
    rfl
  have lines : Text.lines "a\n\nb\r" = ["a", "", "b\r"] := by decide
  exact ⟨storable, cut, counted, lines,
    around?_append storable cut counted (by rw [lines]; decide) (by decide)⟩

theorem markedLine?_append {front lines : List String} {index index' : Nat}
    (moved : index' = index + front.length) (fits : index' < UInt64.size) (border : Nat) :
    (ofLinesAround (front ++ lines) index' border).markedLine? =
      (ofLinesAround lines index border).markedLine? := by
  rw [markedLine?_ofLinesAround fits, markedLine?_ofLinesAround (by omega), moved,
    List.getElem?_append_right (Nat.le_add_left _ _), Nat.add_sub_cancel]

/-- Lines in front may come into view. The other lines keep their order, the marked one stays
marked, and all their numbers are greater by the count of the lines in front. -/
theorem around?_moved {before text : String} (storable : Text.Storable (before ++ text))
    (ended : before.toList.getLast? = some '\n') (nonempty : text ≠ "")
    (kept : Text.lines text ≠ []) {line moved : UInt64} (positive : 1 ≤ line.toNat)
    (move : addWord line (before.toList.count '\n') = .ok moved) (border : UInt64) :
    ∃ found found', around? (some text) (some line) border = .ok found ∧
      around? (some (before ++ text)) (some moved) border = .ok found' ∧
      (found'.isSome ↔ found.isSome) ∧
      ∀ e ∈ found, ∀ e' ∈ found',
        (∃ marked, e.markedLine? = some marked ∧ e'.markedLine? = some marked) ∧
        (∃ number number', e.markedNumber = .ok number ∧ e'.markedNumber = .ok number' ∧
          number'.toNat = number.toNat + before.toList.count '\n') ∧
        (∃ last last', e.lastLine = .ok last ∧ e'.lastLine = .ok last' ∧
          last'.toNat = last.toNat + before.toList.count '\n') ∧
        ∃ numbered numbered', e.numbered = .ok numbered ∧ e'.numbered = .ok numbered' ∧
          (numbered'.filter fun (number, _) => before.toList.count '\n' < number.toNat).map
              (fun (number, shown) => (number.toNat, shown)) =
            numbered.map fun (number, shown) =>
              (number.toNat + before.toList.count '\n', shown) := by
  have fits := storable.right.length_lines_succ_lt
  have fits' := storable.length_lines_succ_lt
  have counted := storable.right.length_lines_lt
  have counted' := storable.length_lines_lt
  obtain ⟨front, newlines, whole⟩ := Text.exists_lines_append_of_ended ended nonempty kept
  have length : (Text.lines (before ++ text)).length = front.length + (Text.lines text).length := by
    rw [whole, List.length_append]
  rw [addWord_eq_ok_iff] at move
  rw [← newlines] at move ⊢
  refine ⟨_, _, around?_eq line border counted, around?_eq moved border counted', ?_, ?_⟩
  · rw [Option.isSome_ite, Option.isSome_ite]
    omega
  intro e shown e' shown'
  obtain ⟨present, same⟩ := Option.ite_none_right_eq_some.mp shown
  obtain ⟨present', same'⟩ := Option.ite_none_right_eq_some.mp shown'
  cases same
  cases same'
  have there : line.toNat - 1 < (Text.lines text).length := by omega
  have there' : moved.toNat - 1 < (Text.lines (before ++ text)).length := by omega
  have index : moved.toNat - 1 = line.toNat - 1 + front.length := by omega
  refine ⟨?_, ?_, ?_, ?_⟩
  · rw [whole, markedLine?_append index (by omega), markedLine?_ofLinesAround (by omega),
      List.getElem?_eq_getElem there]
    exact ⟨_, rfl, rfl⟩
  · exact ⟨line, moved, markedNumber_ofLinesAround (by omega) _,
      markedNumber_ofLinesAround (by omega) _, move⟩
  · obtain ⟨last, ends, place⟩ := exists_lastLine_ofLinesAround fits there border.toNat
    obtain ⟨last', ends', place'⟩ := exists_lastLine_ofLinesAround fits' there' border.toNat
    exact ⟨last, last', ends, ends', by omega⟩
  · obtain ⟨numbered, made, near⟩ := numbered_near border counted present
    obtain ⟨numbered', made', near'⟩ := numbered_near border counted' present'
    refine ⟨numbered, numbered', made, made', ?_⟩
    have above := Text.linesNear_append whole line.toNat border.toNat
    rw [← move, ← near, ← near', List.filter_map, List.map_map] at above
    exact above

/-- One of two lines in front comes into view, above a text that begins with an empty line. -/
theorem around?_moved_blank :
    Text.Storable ("x\r\n\n" ++ "\na\n") ∧ "x\r\n\n".toList.getLast? = some '\n' ∧
    Text.lines "\na\n" ≠ [] ∧ addWord 2 ("x\r\n\n".toList.count '\n') = .ok 4 ∧
    ∃ e e', around? (some "\na\n") (some 2) 2 = .ok (some e) ∧
      around? (some ("x\r\n\n" ++ "\na\n")) (some 4) 2 = .ok (some e') ∧
      e.markedLine? = some "a" ∧ e'.markedLine? = some "a" ∧ e'.markedNumber = .ok 4 ∧
      e'.lines = ["", "", "a"] ∧ ∃ numbered, e'.numbered = .ok numbered ∧
        (numbered.filter fun (number, _) => 2 < number.toNat).map
          (fun (number, shown) => (number.toNat, shown)) = [(3, ""), (4, "a")] := by
  have storable : Text.Storable ("x\r\n\n" ++ "\na\n") := by decide
  have ended : "x\r\n\n".toList.getLast? = some '\n' := by decide
  have kept : Text.lines "\na\n" ≠ [] := by decide
  have move : addWord 2 ("x\r\n\n".toList.count '\n') = .ok 4 := by
    rfl
  have here : around? (some "\na\n") (some 2) 2 = .ok (some ⟨1, ["", "a"], 1⟩) := by
    rfl
  have below : around? (some ("x\r\n\n" ++ "\na\n")) (some 4) 2 =
      .ok (some ⟨2, ["", "", "a"], 2⟩) := by
    rfl
  obtain ⟨found, found', cut, cut', -, shows⟩ :=
    around?_moved storable ended (by decide) kept (by decide) move 2
  cases cut.symm.trans here
  cases cut'.symm.trans below
  obtain ⟨⟨marked, mark, mark'⟩, ⟨number, number', counts, counts', -⟩, -, numbered, numbered',
    made, made', above⟩ := shows _ rfl _ rfl
  cases mark
  cases counts'
  cases made
  exact ⟨storable, ended, kept, move, _, _, here, below, rfl, mark', rfl, rfl, numbered', made',
    above⟩

end Excerpt
end Pinpoint
