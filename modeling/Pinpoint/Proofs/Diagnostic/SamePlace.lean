import Pinpoint.Proofs.Diagnostic.Unfailing

/-! The place that a diagnostic names. Its summary writes the line as it is claimed; the heading of
its listing writes the number of the marked line, which is counted from the bounds of the excerpt.
Wherever there is a listing, both are the same line, and both write a missing name alike. -/
namespace Pinpoint

/-- The marked line of an excerpt has the number that was asked for. -/
theorem Excerpt.markedNumber_of_around? {text : Option String} {line : Option UInt64}
    {border : UInt64} {e : Excerpt} (cut : around? text line border = .ok (some e)) :
    ∃ number, line = some number ∧ e.markedNumber = .ok number := by
  obtain ⟨-, number, first, -, index, -, claim, -, -, start, before, mark⟩ :=
    exists_bounds_of_around? cut
  rw [addWord_eq_ok_iff] at start
  rw [subWord_eq_ok_iff, UInt64.toNat_one] at before
  rw [subWord_eq_ok_iff] at mark
  refine ⟨number, claim, ?_⟩
  rw [markedNumber, addWord_eq_ok_iff]
  omega

namespace Listing

/-- The text of a listing is its heading and, from the next row on, the lines. -/
theorem exists_below_heading {l : Listing} {text : String} {marked : UInt64}
    (valid : l.excerpt.Valid) (number : l.excerpt.markedNumber = .ok marked)
    (shown : l.render = .ok text) :
    ∃ gutter below, 0 < gutter ∧ text = l.heading gutter marked ++ "\n" ++ below := by
  obtain ⟨rows, made, joined⟩ := bind_eq_ok_iff.mp shown
  obtain rfl := Except.ok.inj joined
  obtain ⟨last, same, numbered, lastLine, number', counted, -, rfl⟩ := rows_eq_ok_iff.mp made
  obtain rfl := Except.ok.inj (number.symm.trans number')
  obtain ⟨line, there⟩ := (Numbering.of_counted lastLine number counted).marked_mem valid
  have row : lineRow (digitCount last) marked line ∈ l.body (digitCount last) marked numbered :=
    mem_body_iff.mpr ⟨(marked, line), there, .inl rfl⟩
  obtain ⟨first, others, body⟩ := List.exists_cons_of_ne_nil (List.ne_nil_of_mem row)
  exact ⟨_, _, digitCount_pos last, by rw [body, String.intercalate_cons_cons]⟩

end Listing

namespace Diagnostic

variable {d : Diagnostic} {border : UInt64} {log log' : List Notice} {l : Listing}

theorem exists_render_of_listing? (made : (d.listing? border).run log = (.ok (some l), log'))
    (storable : ∀ whole, d.site.text = some whole → Text.Storable whole)
    (short : ∀ line ∈ l.excerpt.lines, line.length < 1 <<< 62) : ∃ text, l.render = .ok text := by
  have around := (listing?_eq_some_iff.mp made).1
  have valid := Excerpt.valid_of_around? around
  obtain ⟨whole, line, -, -, -, there, claim, -⟩ := Excerpt.exists_bounds_of_around? around
  rw [excerpt?, there, claim] at around
  obtain ⟨last, counted, -⟩ := Excerpt.lastLine_of_around? (storable whole there) around
  exact Listing.exists_render valid counted short

/-- Where there is a listing, the summary and the heading write the same name and the same line. The
listing itself can be shown, unless a line is too long for the cells of its caret to be counted. -/
theorem summary_names_place_of_listing
    (made : (d.listing? border).run log = (.ok (some l), log')) :
    ∃ line place, d.site.line = some line ∧ l.excerpt.markedNumber = .ok line ∧
      place = d.site.name.getD "?" ++ ":" ++ toString line ∧
      d.summary = d.description ++ " in " ++ place ∧
      (∀ text, l.render = .ok text → ∃ gutter below, 0 < gutter ∧
        text = String.ofList (List.replicate gutter ' ') ++ "--> " ++ place ++
          (d.site.column.elim "" fun column => ":" ++ toString column) ++ "\n" ++ below) ∧
      ((∀ whole, d.site.text = some whole → Text.Storable whole) →
        (∀ shown ∈ l.excerpt.lines, shown.length < 1 <<< 62) → ∃ text, l.render = .ok text) := by
  obtain ⟨around, column, name, -⟩ := listing?_eq_some_iff.mp made
  have valid := Excerpt.valid_of_around? around
  obtain ⟨line, claim, number⟩ := Excerpt.markedNumber_of_around? around
  refine ⟨line, placeText d.site.name (some line), claim, number, rfl, ?_, ?_,
    exists_render_of_listing? made⟩
  · rw [summary, claim]
  · intro text shown
    obtain ⟨gutter, below, positive, rfl⟩ := Listing.exists_below_heading valid number shown
    refine ⟨gutter, below, positive, ?_⟩
    rw [Listing.heading, name, column, Listing.spaces]
    cases d.site.column <;> rfl

def nameless : Diagnostic :=
  ⟨"unclosed list", ⟨some 10, some 4, some "a\n\n\n\n\n\n\n\nb\r\nc = [\n", none⟩⟩

theorem summary_names_place_of_listing_nameless :
    (nameless.listing? 1).run [] = (.ok (some ⟨⟨9, ["b", "c = ["], 1⟩, some 4, none⟩), []) ∧
      nameless.summary = "unclosed list in ?:10" ∧
      (Listing.mk ⟨9, ["b", "c = ["], 1⟩ (some 4) none).render =
        .ok "  --> ?:10:4\n 9 | b\n10 | c = [\n   |    ^" ∧
      ∃ gutter below, 0 < gutter ∧ "  --> ?:10:4\n 9 | b\n10 | c = [\n   |    ^" =
        String.ofList (List.replicate gutter ' ') ++ "--> " ++ "?:10" ++ ":4" ++ "\n" ++ below := by
  have made : (nameless.listing? 1).run [] =
      (.ok (some ⟨⟨9, ["b", "c = ["], 1⟩, some 4, none⟩), []) := by
    rfl
  have shown : (Listing.mk ⟨9, ["b", "c = ["], 1⟩ (some 4) none).render =
      .ok "  --> ?:10:4\n 9 | b\n10 | c = [\n   |    ^" := by
    decide +kernel
  obtain ⟨line, place, claim, -, written, summary, heading, -⟩ :=
    summary_names_place_of_listing made
  cases claim
  obtain rfl : place = "?:10" := written
  exact ⟨made, summary, shown, heading _ shown⟩

end Diagnostic
end Pinpoint
