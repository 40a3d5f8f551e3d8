import Mathlib.Data.List.Basic
import Pinpoint.Proofs.Text.Division

/-! Texts put together. Where one text ends and the next one begins, two segments become one, unless
the carriage return of a line end would come from the one and the newline from the other. So what is
appended to a text leaves all lines but the last as they are, what is put in front of it comes to
lines of its own, and lines that are joined by line ends are found again. -/
namespace Pinpoint.Text

theorem getLast?_cons_of_some {c d : Char} {cs : List Char} (last : cs.getLast? = some d) :
    (c :: cs).getLast? = some d := by
  rw [List.getLast?_cons, last, Option.getD_some]

theorem cons_segments_eq_concat {s last : List Char} {cs : List Char} {init : List (List Char)}
    (cut : s :: segments cs = init ++ [last]) :
    ∃ init', init = s :: init' ∧ segments cs = init' ++ [last] := by
  rcases List.cons_eq_append_iff.mp cut with ⟨rfl, single⟩ | more
  · exact absurd (List.cons.inj single).2.symm (segments_ne_nil cs)
  · exact more

/-- Of two texts put together, the last segment of the first and the first segment of the second
are one segment. -/
theorem segments_append {as bs last first : List Char} {init rest : List (List Char)}
    (apart : as.getLast? = some '\r' → bs.head? ≠ some '\n')
    (front : segments as = init ++ [last]) (behind : segments bs = first :: rest) :
    segments (as ++ bs) = init ++ (last ++ first) :: rest := by
  fun_induction segments as generalizing init last with
  | case1 =>
    obtain ⟨rfl, rfl⟩ : init = [] ∧ last = [] := by
      cases init with
      | nil => exact ⟨rfl, (List.cons.inj front).1.symm⟩
      | cons => simp at front
    exact behind
  | case2 cs ih =>
    obtain ⟨init, rfl, cut⟩ := cons_segments_eq_concat front
    have rest := ih (fun last => apart (getLast?_cons_of_some last)) cut
    rw [List.cons_append, segments, rest, List.cons_append]
  | case3 cs ih =>
    obtain ⟨init, rfl, cut⟩ := cons_segments_eq_concat front
    have rest := ih (fun last => apart (getLast?_cons_of_some (getLast?_cons_of_some last))) cut
    rw [List.cons_append, List.cons_append, segments, rest, List.cons_append]
  | case4 c cs other alone ih =>
    have inside : c = '\r' → (cs ++ bs).head? ≠ some '\n' := by
      rintro rfl
      cases cs with
      | nil => exact apart rfl
      | cons d cs =>
        intro begins
        cases begins
        exact alone cs rfl rfl
    have apart' : cs.getLast? = some '\r' → bs.head? ≠ some '\n' :=
      fun last => apart (getLast?_cons_of_some last)
    obtain ⟨s, more, cut⟩ := List.exists_cons_of_ne_nil (segments_ne_nil cs)
    rw [cut, List.modifyHead_cons] at front
    rw [List.cons_append, segments_cons other inside]
    rcases List.cons_eq_append_iff.mp front with ⟨rfl, single⟩ | ⟨init, rfl, rfl⟩
    · obtain ⟨rfl, rfl⟩ := List.cons.inj single
      rw [@ih _ [] apart' cut]
      rfl
    · rw [@ih _ (s :: init) apart' cut]
      rfl

/-- What is appended leaves the segments in front of any segment as they are, and lets that one at
most grow. -/
theorem exists_segments_append {as bs s : List Char} {front back : List (List Char)}
    (apart : as.getLast? = some '\r' → bs.head? ≠ some '\n')
    (cut : segments as = front ++ s :: back) :
    ∃ s' back', segments (as ++ bs) = front ++ s' :: back' ∧ s <+: s' := by
  obtain ⟨first, rest, behind⟩ := List.exists_cons_of_ne_nil (segments_ne_nil bs)
  rcases List.eq_nil_or_concat' back with rfl | ⟨middle, last, rfl⟩
  · exact ⟨_, _, segments_append apart cut behind, List.prefix_append s first⟩
  · rw [← List.cons_append, ← List.append_assoc] at cut
    have whole := segments_append apart cut behind
    rw [List.append_assoc, List.cons_append] at whole
    exact ⟨s, _, whole, List.prefix_rfl⟩

theorem exists_segments_of_ended {as : List Char} (ended : as.getLast? = some '\n') :
    ∃ init, segments as = init ++ [[]] ∧ init.length = as.count '\n' := by
  obtain ⟨d, proper, rfl⟩ := exists_division as
  have cut := segments_chars proper
  have count := length_segments d.chars
  have empty : d.last = [] := by
    by_contra nonempty
    have last := proper.newline_not_mem d.last (List.mem_append_right _ List.mem_cons_self)
    rw [Division.chars, List.getLast?_append_of_ne_nil _ nonempty] at ended
    exact last (List.mem_of_getLast? ended)
  rw [Division.segments, empty] at cut
  rw [cut, List.length_append, List.length_singleton] at count
  exact ⟨_, cut, by omega⟩

/-- Segments that are joined by a line end are found again. -/
theorem segments_intercalate {lineEnd : LineEnd} {segs : List (List Char)} (nonempty : segs ≠ [])
    (newline : ∀ s ∈ segs, '\n' ∉ s)
    (whole : lineEnd = .newline → ∀ s ∈ segs.dropLast, s.getLast? ≠ some '\r') :
    segments (lineEnd.chars.intercalate segs) = segs := by
  induction segs with
  | nil => exact absurd rfl nonempty
  | cons s segs ih =>
    have inside := newline s List.mem_cons_self
    cases segs with
    | nil => rw [List.intercalate_singleton, segments_of_newline_not_mem inside]
    | cons t segs =>
      rw [List.intercalate_cons_cons, List.append_assoc]
      have rest := ih (List.cons_ne_nil t segs)
        (fun s there => newline s (List.mem_cons_of_mem _ there))
        (fun plain s there => whole plain s (List.mem_cons_of_mem _ there))
      rw [segments_append_lineEnd inside fun plain => whole plain s List.mem_cons_self, rest]

theorem exists_blanks (segs : List (List Char)) :
    ∃ blanks, segs = dropBlankEnd segs ++ List.replicate blanks [] :=
  (dropBlankEnd_eq_iff.mp rfl).2

theorem dropBlankEnd_append {front back : List (List Char)} (kept : dropBlankEnd back ≠ []) :
    dropBlankEnd (front ++ back) = front ++ dropBlankEnd back := by
  obtain ⟨blanks, cut⟩ := exists_blanks back
  apply dropBlankEnd_eq_iff.mpr
  refine ⟨?_, blanks, ?_⟩
  · rw [List.getLast?_append_of_ne_nil _ kept]
    intro last
    exact getLast?_dropBlankEnd last rfl
  · rw [List.append_assoc, ← cut]

theorem dropBlankEnd_ne_nil {s : List Char} (nonblank : s ≠ []) (segs : List (List Char)) :
    dropBlankEnd (s :: segs) ≠ [] := by
  intro none
  obtain ⟨blanks, cut⟩ := exists_blanks (s :: segs)
  rw [none, List.nil_append] at cut
  exact nonblank (List.eq_of_mem_replicate (cut ▸ List.mem_cons_self))

theorem newline_not_mem_of_mem_lines {text line : String} (there : line ∈ lines text) :
    '\n' ∉ line.toList := by
  unfold lines at there
  split at there
  · rw [List.mem_singleton.mp there]
    simp
  · obtain ⟨s, among, rfl⟩ := List.mem_map.mp there
    obtain ⟨blanks, cut⟩ := exists_blanks (segments text.toList)
    obtain ⟨d, proper, whole⟩ := exists_division text.toList
    rw [String.toList_ofList]
    apply proper.newline_not_mem
    rw [← segments_chars proper, whole, cut]
    exact List.mem_append_left _ among

/-- Only behind the last segment that holds a character is something dropped. -/
theorem lines_of_segments {text : String} {front back : List (List Char)} (nonempty : text ≠ "")
    (cut : segments text.toList = front ++ back) (kept : dropBlankEnd back ≠ []) :
    lines text = front.map String.ofList ++ (dropBlankEnd back).map String.ofList := by
  rw [lines, if_neg nonempty, cut, dropBlankEnd_append kept, List.map_append]

/-- Lines that are joined by a line end are found again, if that line end is not mistaken for
another one and the last line is not dropped. -/
theorem lines_intercalate {lineEnd : LineEnd} {ls : List String} (nonempty : ls ≠ [])
    (newline : ∀ line ∈ ls, '\n' ∉ line.toList) (last : ls.getLast? ≠ some "" ∨ ls = [""])
    (whole : lineEnd = .newline → ∀ line ∈ ls.dropLast, line.toList.getLast? ≠ some '\r') :
    lines ((String.ofList lineEnd.chars).intercalate ls) = ls := by
  have found : segments ((String.ofList lineEnd.chars).intercalate ls).toList =
      ls.map String.toList := by
    rw [String.toList_intercalate, String.toList_ofList]
    apply segments_intercalate
    · simpa using nonempty
    · simpa using newline
    · intro plain s there
      rw [← List.map_dropLast] at there
      obtain ⟨line, among, rfl⟩ := List.mem_map.mp there
      exact whole plain line among
  rcases last with last | rfl
  · have holds : (String.ofList lineEnd.chars).intercalate ls ≠ "" := by
      intro empty
      rw [empty] at found
      cases ls with
      | nil => exact nonempty rfl
      | cons line more =>
        obtain ⟨first, rest⟩ := List.cons.inj found
        rw [List.map_eq_nil_iff.mp rest.symm, String.toList_eq_nil_iff.mp first.symm] at last
        exact last rfl
    rw [lines_eq_iff_dropBlankEnd holds, dropBlankEnd_eq_iff]
    refine ⟨?_, 0, by simpa using found⟩
    simpa [List.getLast?_map] using last
  · rfl

/-- What is appended to a text leaves all its lines but the last one as they are, and takes none
away. Blank segments that are no longer dropped stand behind the last line. -/
theorem exists_lines_append {text more last : String} {front : List String} (nonempty : text ≠ "")
    (apart : text.toList.getLast? = some '\r' → more.toList.head? ≠ some '\n')
    (shown : lines text = front ++ [last]) :
    ∃ others, others ≠ [] ∧ lines (text ++ more) = front ++ others := by
  rw [lines_eq_iff_dropBlankEnd nonempty, List.map_append, List.map_singleton] at shown
  have nonblank : last.toList ≠ [] := by
    have end? : (dropBlankEnd (segments text.toList)).getLast? = some last.toList := by
      rw [shown, List.getLast?_concat]
    exact getLast?_dropBlankEnd end?
  obtain ⟨-, blanks, cut⟩ := dropBlankEnd_eq_iff.mp shown
  rw [List.append_assoc, List.singleton_append] at cut
  obtain ⟨grown, back, cut, grows⟩ := exists_segments_append apart cut
  rw [← String.toList_append] at cut
  have holds : grown ≠ [] := by
    rintro rfl
    exact nonblank (List.prefix_nil.mp grows)
  have kept := dropBlankEnd_ne_nil holds back
  refine ⟨(dropBlankEnd (grown :: back)).map String.ofList, by simpa using kept, ?_⟩
  rw [lines_of_segments (by simp [nonempty]) cut kept, List.map_map]
  simp [Function.comp_def]

/-- What is put in front of a text, with a newline behind it, comes to as many lines as it has
newlines, empty ones included. -/
theorem exists_lines_append_of_ended {before text : String}
    (ended : before.toList.getLast? = some '\n') (nonempty : text ≠ "") (kept : lines text ≠ []) :
    ∃ front, front.length = before.toList.count '\n' ∧
      lines (before ++ text) = front ++ lines text := by
  obtain ⟨init, cut, count⟩ := exists_segments_of_ended ended
  obtain ⟨first, rest, behind⟩ := List.exists_cons_of_ne_nil (segments_ne_nil text.toList)
  have apart : before.toList.getLast? = some '\r' → text.toList.head? ≠ some '\n' := by
    rw [ended]
    rintro ⟨⟩
  have whole := segments_append apart cut behind
  rw [List.nil_append, ← behind, ← String.toList_append] at whole
  have same : lines text = (dropBlankEnd (segments text.toList)).map String.ofList := by
    rw [lines, if_neg nonempty]
  rw [same] at kept ⊢
  refine ⟨init.map String.ofList, by rw [List.length_map, count], ?_⟩
  exact lines_of_segments (by simp [nonempty]) whole (mt List.map_eq_nil_iff.mpr kept)

end Pinpoint.Text
