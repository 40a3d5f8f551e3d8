import Pinpoint.Proofs.Excerpt.Obtained
import Pinpoint.Proofs.Listing.Displayed
import Pinpoint.Proofs.Listing.Places

/-! What hangs on the number of the last line. It is counted by way of the line behind it, and
before anything else of a listing. So a listing of short lines is shown exactly if that number is
found, and then all other numbers are found as well and agree with one another. A line that has the
greatest number of all has no line behind it, and its listing is not shown. -/
namespace Pinpoint

namespace Excerpt

variable {e : Excerpt}

/-- The last line is found wherever a line behind it would have a number. -/
theorem lastLine_eq_ok_of_lt {last : UInt64}
    (place : last.toNat + 1 = e.firstLine.toNat + e.lines.length)
    (before : last.toNat + 1 < UInt64.size) : e.lastLine = .ok last :=
  lastLine_eq_ok_iff.mpr ⟨place, place ▸ before⟩

/-- Otherwise the count of that line overflows, whether or not the last line has a number. -/
theorem lastLine_eq_error_of_le
    (behind : UInt64.size ≤ e.firstLine.toNat + e.lines.length) : e.lastLine = .error .sum := by
  rw [lastLine, addWord_eq_error_iff.mpr behind]
  rfl

end Excerpt

namespace Listing

namespace Numbering

variable {e : Excerpt} {last marked : UInt64} {numbered : List (UInt64 × String)}

theorem number_of_place (n : Numbering e last marked numbered) {index : Nat}
    (inside : index < e.lines.length) {number : UInt64}
    (place : number.toNat = e.firstLine.toNat + index) :
    numbered[index]?.map (·.1) = some number := by
  have there := (n.getElem?_eq_some_iff (p := (number, e.lines[index]))).mpr
    ⟨List.getElem?_eq_getElem inside, place⟩
  rw [there, Option.map_some]

theorem head?_eq (n : Numbering e last marked numbered) (valid : e.Valid) :
    numbered.head?.map (·.1) = some e.firstLine := by
  rw [List.head?_eq_getElem?]
  exact n.number_of_place (List.length_pos_iff.mpr valid.lines_ne_nil) rfl

theorem getLast?_eq (n : Numbering e last marked numbered) (valid : e.Valid) :
    numbered.getLast?.map (·.1) = some last := by
  have positive := List.length_pos_iff.mpr valid.lines_ne_nil
  have behind := n.last_toNat
  rw [List.getLast?_eq_getElem?, n.length_eq]
  exact n.number_of_place (by omega) (by omega)

end Numbering

variable {l : Listing}

/-- The gutter is sized before anything is written. -/
theorem render_of_lastLine_eq_error {why : Overflow} (lacking : l.excerpt.lastLine = .error why) :
    l.render = .error why := by
  rw [render, rows, lacking]
  rfl

theorem render_eq_error_iff (valid : l.excerpt.Valid)
    (short : ∀ line ∈ l.excerpt.lines, line.length < 1 <<< 62) (why : Overflow) :
    l.render = .error why ↔ l.excerpt.lastLine = .error why := by
  constructor
  · intro fails
    cases counted : l.excerpt.lastLine with
    | ok last =>
      obtain ⟨text, shown⟩ := exists_render valid counted short
      cases shown.symm.trans fails
    | error lacking =>
      cases (render_of_lastLine_eq_error counted).symm.trans fails
      rfl
  · exact render_of_lastLine_eq_error

end Listing

namespace Excerpt

/-- A listing of short lines fails exactly as the number of the last line does. Where that number is
found, the lines are numbered from the first one up to it, and the marked number is that of the
marked line alone. -/
theorem lastLine_decides {e : Excerpt} (obtained : Obtained e)
    (short : ∀ line ∈ e.lines, line.length < 1 <<< 62) (column : Option UInt64)
    (name : Option String) :
    (∀ why, (Listing.mk e column name).render = .error why ↔ e.lastLine = .error why) ∧
    ∀ last, e.lastLine = .ok last → ∃ numbered marked line,
      e.numbered = .ok numbered ∧ e.markedNumber = .ok marked ∧ e.markedLine? = some line ∧
      numbered.length = e.lines.length ∧ numbered.map (·.2) = e.lines ∧
      numbered.map (·.1.toNat) = List.range' e.firstLine.toNat e.lines.length ∧
      numbered.head?.map (·.1) = some e.firstLine ∧ numbered.getLast?.map (·.1) = some last ∧
      numbered[e.markedIndex.toNat]? = some (marked, line) ∧
      ∀ index p, numbered[index]? = some p → p.1 = marked → index = e.markedIndex.toNat := by
  have valid := obtained.valid
  refine ⟨Listing.render_eq_error_iff (l := ⟨e, column, name⟩) valid short, ?_⟩
  intro last found
  obtain ⟨numbered, counted⟩ := exists_numbered found
  obtain ⟨marked, number⟩ := exists_markedNumber valid found
  obtain ⟨line, marks⟩ := valid.exists_markedLine
  have n := Listing.Numbering.of_counted found number counted
  refine ⟨numbered, marked, line, counted, number, marks, n.length_eq, n.lines, n.numbers,
    n.head?_eq valid, n.getLast?_eq valid, n.getElem?_marked marks, ?_⟩
  intro index p there same
  have own := (n.getElem?_eq_some_iff.mp there).2
  rw [same, n.marked_toNat] at own
  exact Nat.add_left_cancel own.symm

/-- Two lines as they are read from JSON, the second of which is marked. -/
def readPair : Excerpt := ⟨9, ["", "b"], 1⟩

theorem lastLine_decides_pair :
    Record.read "[9,[\"\",\"b\"],1]" = .ok readPair ∧
      (∀ line ∈ readPair.lines, line.length < 1 <<< 62) ∧ readPair.lastLine = .ok 10 ∧
      (∀ why, (Listing.mk readPair (some 0) none).render = .error why ↔
        readPair.lastLine = .error why) ∧
      ∃ numbered, readPair.numbered = .ok numbered ∧ numbered.length = 2 ∧
        numbered.getLast?.map (·.1) = some (10 : UInt64) ∧ numbered[1]? = some (10, "b") ∧
        ∀ index p, numbered[index]? = some p → p.1 = (10 : UInt64) → index = 1 := by
  have made : Record.read "[9,[\"\",\"b\"],1]" = .ok readPair := by rfl
  have short : ∀ line ∈ readPair.lines, line.length < 1 <<< 62 := by decide
  have found : readPair.lastLine = .ok 10 := by decide
  obtain ⟨fails, agree⟩ := lastLine_decides (.read made) short (some 0) none
  obtain ⟨numbered, marked, line, counted, number, marks, length, -, -, -, final, there, once⟩ :=
    agree 10 found
  cases number
  cases marks
  exact ⟨made, short, found, fails, numbered, counted, length, final, there, once⟩

/-- A last line that has a number is found, and its listing shown, unless its number is the greatest
one there is. Then the count of the line behind it overflows, although every line has a number. -/
theorem lastLine_of_number {e : Excerpt} (obtained : Obtained e)
    (short : ∀ line ∈ e.lines, line.length < 1 <<< 62) {last : UInt64}
    (place : last.toNat + 1 = e.firstLine.toNat + e.lines.length) (column : Option UInt64)
    (name : Option String) :
    (∃ numbered, e.numbered = .ok numbered ∧ numbered.getLast?.map (·.1) = some last) ∧
    (last.toNat + 1 < UInt64.size →
      e.lastLine = .ok last ∧ ∃ text, (Listing.mk e column name).render = .ok text) ∧
    (last.toNat + 1 = UInt64.size →
      e.lastLine = .error .sum ∧ (Listing.mk e column name).render = .error .sum) := by
  have valid := obtained.valid
  have bound := last.toNat_lt_size
  have fits : e.firstLine.toNat + e.lines.length ≤ UInt64.size := by omega
  have counted := numbered_eq fits
  obtain ⟨numbers, lines⟩ := numbers_of_numbered fits counted
  have inside := valid.markedIndex_lt
  obtain ⟨marked, mark⟩ :=
    exists_word (n := e.firstLine.toNat + e.markedIndex.toNat) (by omega)
  have n : Listing.Numbering e last marked _ := ⟨numbers, lines, place, mark⟩
  refine ⟨⟨_, counted, n.getLast?_eq valid⟩, ?_, ?_⟩
  · intro before
    have found := lastLine_eq_ok_of_lt place before
    exact ⟨found, Listing.exists_render (l := ⟨e, column, name⟩) valid found short⟩
  · intro greatest
    have lacking : e.lastLine = .error .sum := lastLine_eq_error_of_le (by omega)
    exact ⟨lacking, Listing.render_of_lastLine_eq_error lacking⟩

def alone (number : UInt64) : Excerpt := ⟨number, ["a"], 0⟩

theorem lastLine_of_number_alone :
    (alone 0xfffffffffffffffe).check = .ok (alone 0xfffffffffffffffe) ∧
      (alone 0xfffffffffffffffe).lastLine = .ok 0xfffffffffffffffe ∧
      (∃ text, (Listing.mk (alone 0xfffffffffffffffe) (some 2) none).render = .ok text) ∧
      (alone 0xffffffffffffffff).check = .ok (alone 0xffffffffffffffff) ∧
      (alone 0xffffffffffffffff).lastLine = .error .sum := by
  have short : ∀ number, ∀ line ∈ (alone number).lines, line.length < 1 <<< 62 := by
    intro number line there
    obtain rfl := List.mem_singleton.mp there
    decide
  have made : (alone 0xfffffffffffffffe).check = .ok (alone 0xfffffffffffffffe) := by rfl
  have made' : (alone 0xffffffffffffffff).check = .ok (alone 0xffffffffffffffff) := by rfl
  have place : (0xfffffffffffffffe : UInt64).toNat + 1 =
      (alone 0xfffffffffffffffe).firstLine.toNat + 1 := rfl
  have place' : (0xffffffffffffffff : UInt64).toNat + 1 =
      (alone 0xffffffffffffffff).firstLine.toNat + 1 := rfl
  obtain ⟨-, before, -⟩ := lastLine_of_number (.checked made) (short _) place (some 2) none
  obtain ⟨-, -, greatest⟩ := lastLine_of_number (.checked made') (short _) place' (some 2) none
  obtain ⟨found, shown⟩ := before (by decide)
  exact ⟨made, found, shown, made', (greatest (by decide)).1⟩

/-- All lines of an excerpt may have numbers and the last line still not be found. -/
theorem not_lastLine_of_number :
    ¬ ∀ (e : Excerpt) (last : UInt64), e.check = .ok e →
      (∀ line ∈ e.lines, line.length < 1 <<< 62) →
      last.toNat + 1 = e.firstLine.toNat + e.lines.length →
      e.lastLine = .ok last ∧
        ∀ column name, ∃ text, (Listing.mk e column name).render = .ok text := by
  intro claim
  have found := (claim (alone 0xffffffffffffffff) 0xffffffffffffffff (by rfl) (by decide)
    (by decide)).1
  have lacking : (alone 0xffffffffffffffff).lastLine = .error .sum := by rfl
  cases lacking.symm.trans found

end Excerpt
end Pinpoint
