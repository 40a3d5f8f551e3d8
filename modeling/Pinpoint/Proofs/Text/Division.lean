import Mathlib.Data.List.DropRight
import Pinpoint.Text.Lines

/-! A text as segments with line ends between them. A division keeps every character of its text,
and only one division of a text puts its line ends where they belong. The lines of a text are the
segments of that division, less the empty ones at the end. -/
namespace Pinpoint.Text

inductive LineEnd where
  | newline
  | returnNewline
  deriving DecidableEq, Repr

def LineEnd.chars : LineEnd → List Char
  | .newline => ['\n']
  | .returnNewline => ['\r', '\n']

/-- Segments with the line ends behind them, and one more segment that has none. -/
structure Division where
  ended : List (List Char × LineEnd)
  last : List Char
  deriving DecidableEq, Repr

namespace Division

def segments (d : Division) : List (List Char) :=
  d.ended.map Prod.fst ++ [d.last]

def chars (d : Division) : List Char :=
  d.ended.flatMap (fun (segment, lineEnd) => segment ++ lineEnd.chars) ++ d.last

def push (c : Char) : Division → Division
  | ⟨[], last⟩ => ⟨[], c :: last⟩
  | ⟨(segment, lineEnd) :: ended, last⟩ => ⟨(c :: segment, lineEnd) :: ended, last⟩

/-- Every newline is in a line end, and so is a carriage return directly in front of it. -/
structure Proper (d : Division) : Prop where
  newline_not_mem : ∀ segment ∈ d.segments, '\n' ∉ segment
  return_not_last : ∀ segment, (segment, .newline) ∈ d.ended → segment.getLast? ≠ some '\r'

theorem Proper.tail {piece : List Char × LineEnd} {ended : List (List Char × LineEnd)}
    {last : List Char} (proper : Proper ⟨piece :: ended, last⟩) : Proper ⟨ended, last⟩ := by
  constructor
  · intro segment member
    exact proper.newline_not_mem segment (List.mem_cons_of_mem _ member)
  · intro segment member
    exact proper.return_not_last segment (List.mem_cons_of_mem _ member)

theorem Proper.cons_nil {d : Division} (proper : d.Proper) (lineEnd : LineEnd) :
    Proper ⟨([], lineEnd) :: d.ended, d.last⟩ := by
  constructor
  · intro segment member
    rcases List.mem_cons.mp member with rfl | member
    · exact List.not_mem_nil
    · exact proper.newline_not_mem segment member
  · intro segment member
    rcases List.mem_cons.mp member with same | member
    · cases same
      simp
    · exact proper.return_not_last segment member

theorem chars_push (c : Char) (d : Division) : (d.push c).chars = c :: d.chars := by
  obtain ⟨ended, last⟩ := d
  cases ended <;> rfl

theorem Proper.push {c : Char} {d : Division} (proper : d.Proper) (other : c ≠ '\n')
    (alone : c = '\r' → d.chars.head? ≠ some '\n') : (d.push c).Proper := by
  obtain ⟨ended, last⟩ := d
  cases ended with
  | nil =>
    have inside := proper.newline_not_mem last List.mem_cons_self
    exact ⟨by simp [Division.push, segments, Ne.symm other, inside], by simp [Division.push]⟩
  | cons piece ended =>
    obtain ⟨first, lineEnd⟩ := piece
    have inside := proper.newline_not_mem first List.mem_cons_self
    constructor
    · intro segment member
      rcases List.mem_cons.mp member with rfl | member
      · exact List.not_mem_cons_of_ne_of_not_mem (Ne.symm other) inside
      · exact proper.newline_not_mem segment (List.mem_cons_of_mem _ member)
    · intro segment member
      rcases List.mem_cons.mp member with same | member
      · cases same
        have whole := proper.return_not_last first List.mem_cons_self
        cases first with
        | nil => exact fun last => alone (Option.some.inj last) rfl
        | cons d first => rwa [List.getLast?_cons_cons]
      · exact proper.return_not_last segment (List.mem_cons_of_mem _ member)

end Division

/-- A character that begins no line end belongs to the first segment. -/
theorem segments_cons {c : Char} {cs : List Char} (other : c ≠ '\n')
    (alone : c = '\r' → cs.head? ≠ some '\n') :
    segments (c :: cs) = (segments cs).modifyHead (c :: ·) := by
  refine segments.eq_4 c cs other ?_
  rintro rest rfl rfl
  exact alone rfl rfl

theorem segments_of_newline_not_mem {cs : List Char} (inside : '\n' ∉ cs) :
    segments cs = [cs] := by
  induction cs with
  | nil => rfl
  | cons c cs ih =>
    rw [List.mem_cons, not_or] at inside
    have alone : c = '\r' → cs.head? ≠ some '\n' :=
      fun _ begins => inside.2 (List.mem_of_mem_head? begins)
    rw [segments_cons (Ne.symm inside.1) alone, ih inside.2, List.modifyHead_cons]

theorem segments_append_lineEnd {segment : List Char} {lineEnd : LineEnd}
    (inside : '\n' ∉ segment) (whole : lineEnd = .newline → segment.getLast? ≠ some '\r')
    (cs : List Char) :
    segments (segment ++ (lineEnd.chars ++ cs)) = segment :: segments cs := by
  induction segment with
  | nil => cases lineEnd <;> rfl
  | cons c segment ih =>
    rw [List.mem_cons, not_or] at inside
    have alone : c = '\r' → (segment ++ (lineEnd.chars ++ cs)).head? ≠ some '\n' := by
      rintro rfl
      cases segment with
      | nil =>
        cases lineEnd with
        | newline => exact absurd rfl (whole rfl)
        | returnNewline => simp [LineEnd.chars]
      | cons d segment =>
        intro begins
        cases begins
        exact inside.2 List.mem_cons_self
    have rest : lineEnd = .newline → segment.getLast? ≠ some '\r' := by
      intro plain last
      apply whole plain
      rw [List.getLast?_cons, last, Option.getD_some]
    rw [List.cons_append, segments_cons (Ne.symm inside.1) alone, ih inside.2 rest,
      List.modifyHead_cons]

/-- A text has no other segments than those of a proper division. -/
theorem segments_chars {d : Division} (proper : d.Proper) : segments d.chars = d.segments := by
  obtain ⟨ended, last⟩ := d
  induction ended with
  | nil => exact segments_of_newline_not_mem (proper.newline_not_mem last List.mem_cons_self)
  | cons piece ended ih =>
    obtain ⟨segment, lineEnd⟩ := piece
    have inside := proper.newline_not_mem segment List.mem_cons_self
    have whole : lineEnd = .newline → segment.getLast? ≠ some '\r' := by
      rintro rfl
      exact proper.return_not_last segment List.mem_cons_self
    have first := segments_append_lineEnd inside whole (Division.chars ⟨ended, last⟩)
    rw [ih proper.tail] at first
    simpa [Division.chars, Division.segments] using first

theorem exists_division (cs : List Char) :
    ∃ d : Division, d.Proper ∧ d.chars = cs := by
  fun_induction segments cs with
  | case1 => exact ⟨⟨[], []⟩, ⟨by simp [Division.segments], by simp⟩, rfl⟩
  | case2 rest ih =>
    obtain ⟨d, proper, rfl⟩ := ih
    exact ⟨_, proper.cons_nil .newline, rfl⟩
  | case3 rest ih =>
    obtain ⟨d, proper, rfl⟩ := ih
    exact ⟨_, proper.cons_nil .returnNewline, rfl⟩
  | case4 c rest other alone ih =>
    obtain ⟨d, proper, rfl⟩ := ih
    refine ⟨d.push c, proper.push other ?_, d.chars_push c⟩
    rintro rfl begins
    obtain ⟨rest, starts⟩ := List.head?_eq_some_iff.mp begins
    exact alone rest rfl starts

/-- What is dropped are all empty segments at the end, and nothing else. -/
theorem dropBlankEnd_eq_iff {segs kept : List (List Char)} :
    dropBlankEnd segs = kept ↔
      kept.getLast? ≠ some [] ∧ ∃ blanks, segs = kept ++ List.replicate blanks [] := by
  constructor
  · rintro rfl
    refine ⟨fun last => getLast?_dropBlankEnd last rfl, ?_⟩
    have blank : ∀ s ∈ segs.rtakeWhile List.isEmpty, s = [] := by
      intro s member
      exact List.isEmpty_iff.mp (List.mem_rtakeWhile_imp member)
    have whole : segs.rdropWhile List.isEmpty ++ segs.rtakeWhile List.isEmpty = segs :=
      List.rdropWhile_append_rtakeWhile
    rw [List.eq_replicate_of_mem blank] at whole
    exact ⟨_, whole.symm⟩
  · rintro ⟨last, blanks, rfl⟩
    induction blanks with
    | zero =>
      rw [List.replicate_zero, List.append_nil]
      refine List.rdropWhile_eq_self_iff.mpr fun nonempty empty => last ?_
      rw [List.getLast?_eq_getLast_of_ne_nil nonempty, List.isEmpty_iff.mp empty]
    | succ blanks ih =>
      rw [List.replicate_succ', ← List.append_assoc]
      exact (List.rdropWhile_concat_pos _ _ _ rfl).trans ih

/-- The lines of a text that is not empty, as characters. -/
theorem lines_eq_iff_dropBlankEnd {text : String} {ls : List String} (nonempty : text ≠ "") :
    lines text = ls ↔ dropBlankEnd (segments text.toList) = ls.map String.toList := by
  rw [lines, if_neg nonempty]
  constructor
  · rintro rfl
    simp
  · intro same
    rw [same]
    simp

/-- A segment that holds a character is a line. -/
theorem getElem?_lines_iff {text line : String} (nonblank : line ≠ "") {index : Nat} :
    (lines text)[index]? = some line ↔
      (segments text.toList)[index]? = some line.toList := by
  have holds : line.toList ≠ [] := mt String.toList_eq_nil_iff.mp nonblank
  by_cases empty : text = ""
  · subst empty
    cases index with
    | zero =>
      constructor
      · intro same
        exact absurd (Option.some.inj same).symm nonblank
      · intro same
        exact absurd (Option.some.inj same).symm holds
    | succ index => exact ⟨nofun, nofun⟩
  · obtain ⟨_, blanks, cut⟩ := dropBlankEnd_eq_iff.mp ((lines_eq_iff_dropBlankEnd empty).mp rfl)
    rw [cut, List.getElem?_append]
    split
    · rw [List.getElem?_map, Option.map_eq_some_iff]
      constructor
      · intro found
        exact ⟨line, found, rfl⟩
      · rintro ⟨other, found, same⟩
        rwa [String.toList_inj.mp same] at found
    · rename_i beyond
      rw [List.length_map, Nat.not_lt] at beyond
      constructor
      · intro found
        rw [List.getElem?_eq_none beyond] at found
        cases found
      · intro found
        exact absurd (List.eq_of_mem_replicate (List.mem_of_getElem? found)) holds

/-- A text has these lines if and only if they are what a proper division cuts it into, followed by
empty segments only. The empty text is one empty line. -/
theorem lines_eq_iff_division {text : String} {ls : List String} :
    lines text = ls ↔
      text = "" ∧ ls = [""] ∨
      text ≠ "" ∧ ls.getLast? ≠ some "" ∧ ∃ (d : Division) (blanks : Nat),
        d.Proper ∧ d.chars = text.toList ∧
        d.segments = ls.map String.toList ++ List.replicate blanks [] := by
  by_cases empty : text = ""
  · subst empty
    rw [lines, if_pos rfl]
    constructor
    · rintro rfl
      exact .inl ⟨rfl, rfl⟩
    · rintro (⟨-, rfl⟩ | ⟨nonempty, -⟩)
      · rfl
      · exact absurd rfl nonempty
  · have last : (ls.map String.toList).getLast? ≠ some [] ↔ ls.getLast? ≠ some "" := by
      simp [List.getLast?_map]
    rw [lines_eq_iff_dropBlankEnd empty, dropBlankEnd_eq_iff, last]
    constructor
    · rintro ⟨nonblank, blanks, cut⟩
      obtain ⟨d, proper, whole⟩ := exists_division text.toList
      rw [← whole, segments_chars proper] at cut
      exact .inr ⟨empty, nonblank, d, blanks, proper, whole, cut⟩
    · rintro (⟨none, -⟩ | ⟨-, nonblank, d, blanks, proper, whole, cut⟩)
      · exact absurd none empty
      · rw [← segments_chars proper, whole] at cut
        exact ⟨nonblank, blanks, cut⟩

example : lines "\na\r\r\n\r\n\n" = ["", "a\r"] := by decide

end Pinpoint.Text
