import Pinpoint.Proofs.Json.CutOff
import Pinpoint.Proofs.Record.RoundTrip

/-! A written excerpt that is cut off. Wherever the text ends too early, reading says so: what is
left of a number is a number that fits as well, what is left of a string is no string, and the
object lacks its end. So a text that is cut off is never taken for a smaller excerpt, nor for one
with a field missing, nor for something that is not JSON. -/
namespace Pinpoint.Excerpt.Record

open Json (Event Numeral Value)

/-- A natural number is a word exactly if all of its digits fit. -/
theorem word_natural_eq_ok_iff {whole : List Nat} {w : UInt64} :
    word (.number { whole }) = .ok w ↔
      (Numeral.wholeSignificand { whole }).full = false ∧
        (Numeral.wholeSignificand { whole }).digits.toUInt64 = w := by
  unfold word found Numeral.value?
  cases full : (Numeral.wholeSignificand { whole }).full with
  | true =>
    simp only [full, true_or, if_true, Numeral.real?]
    cases Numeral.scaled? _ _ <;>
      simp [bind, Except.bind, throw, throwThe, MonadExceptOf.throw]
  | false => simp [full, bind, Except.bind, pure, Except.pure]

theorem word_shorter {d : Nat} {whole : List Nat} {w : UInt64}
    (read : word (.number { whole := d :: whole }) = .ok w) :
    ∃ w', word (.number { whole }) = .ok w' := by
  have fits := (word_natural_eq_ok_iff.mp read).1
  refine ⟨_, word_natural_eq_ok_iff.mpr ⟨?_, rfl⟩⟩
  rw [Numeral.wholeSignificand, List.foldr_cons, Numeral.Significand.pushWhole] at fits
  split at fits
  · cases fits
  · rename_i small
    rw [not_or, Bool.not_eq_true] at small
    exact small.1

theorem hearField_shorter {form : Form} {fields : Fields} {field : Field} {d : Nat}
    {whole : List Nat} {progress : Progress}
    (heard : hearField form fields field (.number { whole := d :: whole }) = .ok progress) :
    ∃ progress', hearField form fields field (.number { whole }) = .ok progress' := by
  cases field with
  | firstLine | markedIndex =>
    obtain ⟨w, read, -⟩ := bind_eq_ok_iff.mp heard
    obtain ⟨w', read'⟩ := word_shorter read
    exact ⟨_, bind_eq_ok_iff.mpr ⟨w', read', rfl⟩⟩
  | lines => cases heard

/-- Where a number is asked for, a part of its digits would do as well. -/
theorem listener_takesShorter : listener.TakesShorter := by
  intro progress progress' d whole heard
  cases progress with
  | value fields field => exact hearField_shorter heard
  | items fields =>
    simp only [listener, hear, hearItem] at heard ⊢
    split at heard
    · cases heard
    · exact hearField_shorter heard
  | skipping fields depth => exact ⟨_, rfl⟩
  | start | members | lines | complete => cases heard

theorem number_not_mem_lines (n : Numeral) (lines : List String) :
    Event.number n ∉ Value.itemEvents (lines.map .string) := by
  induction lines with
  | nil => simp [Value.itemEvents]
  | cons line lines ih =>
    cases lines with
    | nil => simp [Value.itemEvents, Value.events]
    | cons next more =>
      rw [List.map_cons, Value.itemEvents_cons (by simp), Value.events]
      simpa using ih

theorem natural_of_mem_toValue {e : Excerpt} {n : Numeral}
    (there : Event.number n ∈ (toValue e).events) : n.Natural := by
  have lines := number_not_mem_lines n e.lines
  have number : n = .ofNat e.firstLine.toNat ∨ n = .ofNat e.markedIndex.toNat := by
    simpa [toValue, Value.events, Value.memberEvents, Value.pairEvents, lines] using there
  rcases number with rfl | rfl
  · exact ⟨_, rfl⟩
  · exact ⟨_, rfl⟩

theorem hearAll_toValue {e : Excerpt} (valid : e.Valid) :
    hearAll .start (toValue e).events = .ok (.complete e) := by
  rw [hearAll_start, ofValue_toValue, checked_eq_ok_iff.mpr ⟨rfl, valid⟩]
  rfl

/-- Whatever is missing at the end of a written excerpt, be it a bracket, half a number or half an
escape, is noticed as missing. -/
theorem read_of_cut {e : Excerpt} (valid : e.Valid) {front back : String}
    (cut : front ++ back = write e) (proper : back ≠ "") : read front = .error .cutOff := by
  have spells := spells_write e
  rw [← cut] at spells
  have early : Json.read listener .start front = .error .cutOff := by
    apply Json.Reader.read_unfinished listener_takesShorter spells (hearAll_toValue valid)
    · intro n there
      exact natural_of_mem_toValue there
    · intro n same
      cases same
    · exact proper
  rw [read, early]
  rfl

/-- Half an escape is left of the last line. -/
theorem read_of_cut_escape :
    Valid ⟨12, ["a", "\x1f"], 1⟩ ∧
      "\x7b\"first_line\":12,\"lines\":[\"a\",\"\\u00" ++ "1f\"],\"error_line_index\":1\x7d" =
        write ⟨12, ["a", "\x1f"], 1⟩ ∧
      read "\x7b\"first_line\":12,\"lines\":[\"a\",\"\\u00" = .error .cutOff := by
  have valid : Valid ⟨12, ["a", "\x1f"], 1⟩ := by decide
  have cut : "\x7b\"first_line\":12,\"lines\":[\"a\",\"\\u00" ++
      "1f\"],\"error_line_index\":1\x7d" = write ⟨12, ["a", "\x1f"], 1⟩ := by
    rfl
  exact ⟨valid, cut, read_of_cut valid cut (by decide)⟩

end Pinpoint.Excerpt.Record
