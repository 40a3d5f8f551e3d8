import Mathlib.Data.List.Basic
import Pinpoint.Excerpt.Around

/-! What an excerpt shows. The lines around a line are those whose numbers are near its number, and
how far is near is said in integers without end. Neither end of the text nor the greatest word
adds a line to an excerpt or takes one away. -/
namespace Pinpoint

namespace Text

def numberedLines (text : String) : List (Nat × String) :=
  ((lines text).zipIdx 1).map Prod.swap

/-- The lines whose numbers differ from `line` by at most `border`. -/
def linesNear (text : String) (line border : Nat) : List (Nat × String) :=
  (numberedLines text).filter fun (number, _) => ((number : Int) - line).natAbs ≤ border

end Text

/-- Numbers within a range belong to the entries between two places. -/
theorem filter_zipIdx {α : Type} (entries : List α) (keep : Nat → Bool) {start first last : Nat}
    (range : ∀ index < entries.length, keep (start + index) = true ↔ first ≤ index ∧ index < last) :
    (entries.zipIdx start).filter (fun (_, number) => keep number) =
      ((entries.take last).drop first).zipIdx (first + start) := by
  induction entries generalizing start first last with
  | nil => simp
  | cons entry entries ih =>
    have head := range 0 (Nat.zero_lt_succ _)
    have rest := @ih (start + 1) (first - 1) (last - 1) (by
      intro index inside
      have next := range (index + 1) (Nat.succ_lt_succ inside)
      rw [show start + 1 + index = start + (index + 1) by omega, next]
      omega)
    rw [List.zipIdx_cons, List.filter_cons, rest]
    cases last with
    | zero => simpa using head
    | succ last =>
      cases first with
      | zero => simpa using head
      | succ first =>
        have dropped : keep start = false := by simpa using head
        simp [dropped, Nat.add_right_comm, Nat.add_assoc, Nat.add_comm start]

/-- The lines near a line are those around its place. -/
theorem linesNear_eq {text : String} {line : Nat} (positive : 1 ≤ line) (border : Nat) :
    Text.linesNear text line border =
      ((((Text.lines text).take (line - 1 + border + 1)).drop (line - 1 - border)).zipIdx
        (line - 1 - border + 1)).map Prod.swap := by
  have range : ∀ index < (Text.lines text).length,
      decide (((1 + index : Nat) - (line : Int)).natAbs ≤ border) = true ↔
        line - 1 - border ≤ index ∧ index < line - 1 + border + 1 := by
    intro index _
    rw [decide_eq_true_eq]
    omega
  have kept := filter_zipIdx (Text.lines text)
    (fun number => decide (((number : Int) - line).natAbs ≤ border)) range
  rw [Text.linesNear, Text.numberedLines, List.filter_map, ← kept]
  rfl

namespace Excerpt

/-- The numbers in an excerpt are words, but they are those of the lines near its marked line. -/
theorem numbered_near {text : String} {line : UInt64} (border : UInt64)
    (fits : (Text.lines text).length < UInt64.size)
    (present : 1 ≤ line.toNat ∧ line.toNat ≤ (Text.lines text).length) :
    ∃ numbered,
      (ofLinesAround (Text.lines text) (line.toNat - 1) border.toNat).numbered = .ok numbered ∧
      numbered.map (fun (number, shown) => (number.toNat, shown)) =
        Text.linesNear text line.toNat border.toNat := by
  refine ⟨_, numbered_ofLinesAround fits (by omega) _, ?_⟩
  rw [linesNear_eq present.1, List.map_map]
  refine List.map_congr_left ?_
  rintro ⟨shown, number⟩ member
  have last := (List.mem_zipIdx member).2.1
  rw [length_lines_ofLinesAround] at last
  simp only [Function.comp_apply, Prod.swap_prod_mk]
  rw [UInt64.toNat_ofNat_of_lt' (by omega)]

/-- There is an excerpt around exactly the lines that a text has. It shows the lines whose numbers
differ from that of the marked line by at most the border, all of them and no others. -/
theorem around?_exact {text : String} (storable : Text.Storable text) (line border : UInt64) :
    (∃ found, around? (some text) (some line) border = .ok found ∧
      (found.isSome ↔ 1 ≤ line.toNat ∧ line.toNat ≤ (Text.lines text).length) ∧
      ∀ e ∈ found,
        (∃ numbered, e.numbered = .ok numbered ∧
          numbered.map (fun (number, shown) => (number.toNat, shown)) =
            Text.linesNear text line.toNat border.toNat) ∧
        e.markedNumber = .ok line ∧
        ∃ marked, e.markedLine? = some marked ∧
          (Text.lines text)[line.toNat - 1]? = some marked) ∧
    (∀ line, around? none line border = .ok none) ∧
    ∀ text, around? text none border = .ok none := by
  have fits := storable.length_lines_lt
  refine ⟨⟨_, around?_eq line border fits, by simp, ?_⟩, fun line => around?_none_left line border,
    fun text => around?_none_right text border⟩
  intro e shown
  obtain ⟨present, same⟩ := Option.ite_none_right_eq_some.mp shown
  cases same
  have there : line.toNat - 1 < (Text.lines text).length := by omega
  refine ⟨numbered_near border fits present, markedNumber_ofLinesAround (by omega) _,
    (Text.lines text)[line.toNat - 1], ?_, List.getElem?_eq_getElem there⟩
  rw [markedLine?_ofLinesAround (by omega), List.getElem?_eq_getElem there]

/-- Through the greatest border, every line of a text is near. -/
theorem around?_exact_greatest_border :
    Text.Storable "a\r\n\nb\n\n" ∧
    ∃ e numbered, around? (some "a\r\n\nb\n\n") (some 2) 0xffffffffffffffff = .ok (some e) ∧
      e.numbered = .ok numbered ∧
      numbered.map (fun (number, shown) => (number.toNat, shown)) = [(1, "a"), (2, ""), (3, "b")] ∧
      e.markedNumber = .ok 2 ∧ e.markedLine? = some "" := by
  have storable : Text.Storable "a\r\n\nb\n\n" := by decide
  obtain ⟨⟨found, cut, present, shows⟩, -⟩ := around?_exact storable 2 0xffffffffffffffff
  have lines : Text.lines "a\r\n\nb\n\n" = ["a", "", "b"] := by decide
  rw [lines] at present shows
  obtain ⟨e, rfl⟩ := Option.isSome_iff_exists.mp (present.mpr (by decide))
  obtain ⟨⟨numbered, counted, near⟩, number, marked, there, same⟩ := shows e rfl
  cases same
  exact ⟨storable, e, numbered, cut, counted, near.trans (by decide), number, there⟩

end Excerpt
end Pinpoint
