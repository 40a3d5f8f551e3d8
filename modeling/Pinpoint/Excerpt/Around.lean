import Pinpoint.Excerpt.Basic
import Pinpoint.Text.Lines

/-! The excerpt around a line of a text: the line itself, marked, and up to a border of lines on
each side. A line that the text does not have gives no excerpt. Places and borders are words, so the
bounds are counted with care; `ofLinesAround` says what comes out where numbers have no end. -/
namespace Pinpoint.Excerpt

/-- The places of the first and the last line to show out of so many, counted from 0. -/
def bounds? (count line border : UInt64) : Option (UInt64 × UInt64) := do
  let index ← predecessor? line
  let greatest ← predecessor? count
  if greatest < index then none
  else
    let first := subCapped index border
    let last := min greatest (addCapped index border)
    if first ≤ last then some (first, last) else none

/-- The lines from one place up to another one, counted from 0, if all of them are there. -/
def slice? (lines : List String) (first last : UInt64) : Option (List String) :=
  if last.toNat + 1 < UInt64.size ∧ first.toNat ≤ last.toNat + 1 ∧
      last.toNat + 1 ≤ lines.length then
    some ((lines.take (last.toNat + 1)).drop first.toNat)
  else none

/-- The excerpt of a text around the line of this number. -/
def around? (text : Option String) (line : Option UInt64) (border : UInt64) :
    Except Overflow (Option Excerpt) := do
  let (some text, some line) := (text, line) | return none
  let lines := Text.lines text
  let some (first, last) := bounds? (UInt64.ofNat lines.length) line border | return none
  let some shown := slice? lines first last | return none
  return some ⟨← addWord first 1, shown, ← subWord (← subWord line 1) first⟩

/-- The excerpt around the line at the place `index`, counted from 0. -/
def ofLinesAround (lines : List String) (index border : Nat) : Excerpt :=
  let first := index - border
  { firstLine := UInt64.ofNat (first + 1)
    lines := (lines.take (index + border + 1)).drop first
    markedIndex := UInt64.ofNat (index - first) }

theorem around?_none_left (line : Option UInt64) (border : UInt64) :
    around? none line border = .ok none := by
  cases line <;> rfl

theorem around?_none_right (text : Option String) (border : UInt64) :
    around? text none border = .ok none := by
  cases text <;> rfl

/-- There are bounds exactly around a line that is there. Stopping at the greatest word does not
matter, as the count of the lines is a word. -/
theorem bounds?_eq_some_iff {count line border first last : UInt64} :
    bounds? count line border = some (first, last) ↔
      (1 ≤ line.toNat ∧ line.toNat ≤ count.toNat) ∧
      first.toNat = line.toNat - 1 - border.toNat ∧
      last.toNat = min (count.toNat - 1) (line.toNat - 1 + border.toNat) := by
  have bound := count.toNat_lt_size
  simp only [bounds?, bind, Option.bind_eq_some_iff, predecessor?_eq_some_iff,
    Option.ite_none_left_eq_some, Option.ite_none_right_eq_some, Option.some.injEq, Prod.mk.injEq,
    UInt64.lt_iff_toNat_lt, UInt64.le_iff_toNat_le, ← UInt64.toNat_inj, toNat_subCapped, toNat_min,
    toNat_addCapped]
  constructor
  · rintro ⟨index, before, greatest, above, inside, order, start, stop⟩
    omega
  · rintro ⟨⟨positive, inside⟩, start, stop⟩
    obtain ⟨index, before⟩ := exists_word (n := line.toNat - 1) (by omega)
    obtain ⟨greatest, above⟩ := exists_word (n := count.toNat - 1) (by omega)
    exact ⟨index, by omega, greatest, by omega, by omega, by omega, by omega, by omega⟩

theorem slice?_eq_some {lines : List String} {first last : UInt64} {index border : Nat}
    (fits : lines.length < UInt64.size) (present : index < lines.length)
    (start : first.toNat = index - border)
    (stop : last.toNat = min (lines.length - 1) (index + border)) :
    slice? lines first last = some (ofLinesAround lines index border).lines := by
  have inside : last.toNat + 1 < UInt64.size ∧ first.toNat ≤ last.toNat + 1 ∧
      last.toNat + 1 ≤ lines.length := by omega
  have same : lines.take (last.toNat + 1) = lines.take (index + border + 1) :=
    List.take_eq_take_iff.mpr (by omega)
  rw [slice?, if_pos inside, same, start, ofLinesAround]

/-- No counting fails on the way to an excerpt, and nothing is lost where the counting stops. -/
theorem around?_eq {text : String} (line border : UInt64)
    (fits : (Text.lines text).length < UInt64.size) :
    around? (some text) (some line) border = .ok
      (if 1 ≤ line.toNat ∧ line.toNat ≤ (Text.lines text).length then
        some (ofLinesAround (Text.lines text) (line.toNat - 1) border.toNat)
      else none) := by
  have count := UInt64.toNat_ofNat_of_lt' fits
  split
  · rename_i present
    obtain ⟨index, place⟩ := exists_word (n := line.toNat - 1) (by omega)
    obtain ⟨first, start⟩ := exists_word (n := index.toNat - border.toNat) (by omega)
    obtain ⟨last, stop⟩ := exists_word
      (n := min ((Text.lines text).length - 1) (index.toNat + border.toNat)) (by omega)
    have bounds :
        bounds? (UInt64.ofNat (Text.lines text).length) line border = some (first, last) :=
      bounds?_eq_some_iff.mpr (by rw [count]; omega)
    have shown := slice?_eq_some fits (by omega) start stop
    have number : addWord first 1 = .ok (UInt64.ofNat (index.toNat - border.toNat + 1)) := by
      rw [addWord_eq_ok_iff, UInt64.toNat_ofNat_of_lt' (by omega), start]
    have before : subWord line 1 = .ok index := by
      rw [subWord_eq_ok_iff, UInt64.toNat_one]
      omega
    have mark : subWord index first =
        .ok (UInt64.ofNat (index.toNat - (index.toNat - border.toNat))) := by
      rw [subWord_eq_ok_iff, UInt64.toNat_ofNat_of_lt' (by omega)]
      omega
    rw [← place]
    simp only [around?, bounds, shown, number, before, mark, bind, Except.bind]
    rfl
  · rename_i absent
    have bounds : bounds? (UInt64.ofNat (Text.lines text).length) line border = none := by
      rw [Option.eq_none_iff_forall_ne_some]
      rintro ⟨first, last⟩ found
      rw [bounds?_eq_some_iff, count] at found
      exact absent found.1
    simp only [around?, bounds]
    rfl

theorem around?_eq_some_iff {text : String} {line border : UInt64} {e : Excerpt}
    (fits : (Text.lines text).length < UInt64.size) :
    around? (some text) (some line) border = .ok (some e) ↔
      (1 ≤ line.toNat ∧ line.toNat ≤ (Text.lines text).length) ∧
      ofLinesAround (Text.lines text) (line.toNat - 1) border.toNat = e := by
  rw [around?_eq line border fits, Except.ok.injEq, Option.ite_none_right_eq_some,
    Option.some.injEq]

theorem length_lines_ofLinesAround (lines : List String) (index border : Nat) :
    (ofLinesAround lines index border).lines.length =
      min (index + border + 1) lines.length - (index - border) := by
  rw [ofLinesAround, List.length_drop, List.length_take]

theorem firstLine_ofLinesAround {index : Nat} (fits : index + 1 < UInt64.size)
    (lines : List String) (border : Nat) :
    (ofLinesAround lines index border).firstLine.toNat = index - border + 1 := by
  rw [ofLinesAround, UInt64.toNat_ofNat_of_lt' (by omega)]

theorem markedIndex_ofLinesAround {index : Nat} (fits : index < UInt64.size)
    (lines : List String) (border : Nat) :
    (ofLinesAround lines index border).markedIndex.toNat = index - (index - border) := by
  rw [ofLinesAround, UInt64.toNat_ofNat_of_lt' (by omega)]

/-- The last line that is shown is the last one of the text, unless the border ends before it. -/
theorem lastLine_ofLinesAround {lines : List String} {index : Nat}
    (fits : lines.length + 1 < UInt64.size) (present : index < lines.length) {border : Nat}
    {last : UInt64} : (ofLinesAround lines index border).lastLine = .ok last ↔
      last.toNat = min (index + border + 1) lines.length := by
  have length := length_lines_ofLinesAround lines index border
  have first := @firstLine_ofLinesAround index (by omega) lines border
  rw [lastLine_eq_ok_iff, length, first]
  omega

theorem exists_lastLine_ofLinesAround {lines : List String} {index : Nat}
    (fits : lines.length + 1 < UInt64.size) (present : index < lines.length) (border : Nat) :
    ∃ last, (ofLinesAround lines index border).lastLine = .ok last ∧
      last.toNat = min (index + border + 1) lines.length := by
  obtain ⟨last, place⟩ := exists_word (n := min (index + border + 1) lines.length) (by omega)
  exact ⟨last, (lastLine_ofLinesAround fits present).mpr place, place⟩

theorem mem_of_mem_ofLinesAround {lines : List String} {index border : Nat} {line : String}
    (shown : line ∈ (ofLinesAround lines index border).lines) : line ∈ lines :=
  List.mem_of_mem_take (List.mem_of_mem_drop shown)

theorem markedNumber_ofLinesAround {lines : List String} {index : Nat} {line : UInt64}
    (place : line.toNat = index + 1) (border : Nat) :
    (ofLinesAround lines index border).markedNumber = .ok line := by
  have bound := line.toNat_lt_size
  rw [markedNumber, addWord_eq_ok_iff, ofLinesAround, UInt64.toNat_ofNat_of_lt' (by omega),
    UInt64.toNat_ofNat_of_lt' (by omega)]
  omega

theorem markedLine?_ofLinesAround {lines : List String} {index : Nat}
    (fits : index < UInt64.size) (border : Nat) :
    (ofLinesAround lines index border).markedLine? = lines[index]? := by
  rw [markedLine?, ofLinesAround, UInt64.toNat_ofNat_of_lt' (by omega), List.getElem?_drop,
    List.getElem?_take_of_lt (by omega)]
  congr 1
  omega

theorem numbered_ofLinesAround {lines : List String} {index : Nat}
    (fits : lines.length < UInt64.size) (present : index < lines.length) (border : Nat) :
    (ofLinesAround lines index border).numbered =
      .ok (((ofLinesAround lines index border).lines.zipIdx (index - border + 1)).map
        fun (line, number) => (UInt64.ofNat number, line)) := by
  have first := @firstLine_ofLinesAround index (by omega) lines border
  have length := length_lines_ofLinesAround lines index border
  rw [numbered_eq (by omega), first]

/-- Whatever the text is, an excerpt that is cut out of it lies between bounds. -/
theorem exists_bounds_of_around? {text : Option String} {line : Option UInt64} {border : UInt64}
    {e : Excerpt} (cut : around? text line border = .ok (some e)) :
    ∃ (whole : String) (number first last index : UInt64), text = some whole ∧
      line = some number ∧
      bounds? (UInt64.ofNat (Text.lines whole).length) number border = some (first, last) ∧
      slice? (Text.lines whole) first last = some e.lines ∧ addWord first 1 = .ok e.firstLine ∧
      subWord number 1 = .ok index ∧ subWord index first = .ok e.markedIndex := by
  rcases text with _ | whole
  · rw [around?_none_left] at cut
    cases cut
  rcases line with _ | number
  · rw [around?_none_right] at cut
    cases cut
  simp only [around?] at cut
  split at cut
  · rename_i first last bounds
    split at cut
    · rename_i shown sliced
      obtain ⟨firstLine, start, cut⟩ := bind_eq_ok_iff.mp cut
      obtain ⟨index, before, cut⟩ := bind_eq_ok_iff.mp cut
      obtain ⟨markedIndex, mark, cut⟩ := bind_eq_ok_iff.mp cut
      cases cut
      exact ⟨whole, number, first, last, index, rfl, rfl, bounds, sliced, start, before, mark⟩
    · cases cut
  · cases cut

/-- An excerpt that is cut out of a text has no defect, although it is not checked. -/
theorem valid_of_around? {text : Option String} {line : Option UInt64} {border : UInt64}
    {e : Excerpt} (cut : around? text line border = .ok (some e)) : e.Valid := by
  obtain ⟨whole, number, first, last, index, -, -, bounds, sliced, start, before, mark⟩ :=
    exists_bounds_of_around? cut
  obtain ⟨present, lowest, highest⟩ := bounds?_eq_some_iff.mp bounds
  rw [addWord_eq_ok_iff] at start
  rw [subWord_eq_ok_iff, UInt64.toNat_one] at before
  rw [subWord_eq_ok_iff] at mark
  unfold slice? at sliced
  rw [Option.ite_none_right_eq_some, Option.some.injEq] at sliced
  obtain ⟨inside, shown⟩ := sliced
  have length : e.lines.length = last.toNat + 1 - first.toNat := by
    rw [← shown, List.length_drop, List.length_take]
    omega
  refine ⟨?_, ?_, by omega⟩
  · intro empty
    rw [empty, List.length_nil] at length
    omega
  · intro zero
    rw [zero, UInt64.toNat_zero] at start
    omega

end Pinpoint.Excerpt
