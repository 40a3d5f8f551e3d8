import Pinpoint.Proofs.Json.Final
import Pinpoint.Proofs.Record.Completion

/-! What comes behind a text that was taken for an excerpt, or refused. What is wrong with a text
shows at the first place where it is wrong, so nothing behind that place matters. -/
namespace Pinpoint.Excerpt.Record

open Json (Blanks)
open Json.Reader (Apart)

theorem read_eq_error_iff {text : String} {why : ReadFailure} (early : why ≠ .cutOff) :
    read text = .error why ↔ Json.read listener .start text = .error why := by
  unfold read
  cases Json.read listener .start text with
  | error other => simp [bind, Except.bind]
  | ok progress =>
    cases progress <;> simp [bind, Except.bind, pure, Except.pure, throw, throwThe,
      MonadExceptOf.throw, early.symm]

theorem read_append_of_error {text more : String} {why : ReadFailure}
    (failed : read text = .error why) (early : why ≠ .cutOff) (apart : Apart more.toList) :
    read (text ++ more) = .error why := by
  rw [read_eq_error_iff early] at failed ⊢
  exact Json.Reader.read_append_of_error failed early apart

theorem read_append_of_ok {text : String} {e : Excerpt} (done : read text = .ok e)
    (more : String) :
    (Blanks more.toList → read (text ++ more) = .ok e) ∧
      (¬ Blanks more.toList → read (text ++ more) = .error .malformed) := by
  have unfinished : ∀ before n, listener.hear before (.number n) ≠ .ok (.complete e) := by
    intro before n heard
    rcases (hear_eq_complete heard).1 with bracket | bracket
    · cases bracket
    · cases bracket
  obtain ⟨blanks, other⟩ :=
    Json.Reader.read_append_of_ok (read_eq_ok_iff.mp done) unfinished more
  constructor
  · intro nothing
    exact read_eq_ok_iff.mpr (blanks nothing)
  · intro something
    exact (read_eq_error_iff (by simp)).mpr (other something)

/-- What is wrong with a text stays wrong with it, whatever follows that is no part of a numeral.
Behind an excerpt there may be blanks and nothing else. -/
theorem read_append_final (text more : String) :
    (Apart more.toList →
      (∀ why, read text = .error (.refused why) → read (text ++ more) = .error (.refused why)) ∧
        (read text = .error .malformed → read (text ++ more) = .error .malformed)) ∧
    ∀ e, read text = .ok e →
      (Blanks more.toList → read (text ++ more) = .ok e) ∧
        (¬ Blanks more.toList → read (text ++ more) = .error .malformed) := by
  refine ⟨?_, ?_⟩
  · intro apart
    refine ⟨?_, ?_⟩
    · intro why failed
      exact read_append_of_error failed (by simp) apart
    · intro failed
      exact read_append_of_error failed (by simp) apart
  · intro e done
    exact read_append_of_ok done more

/-- A number where the lines should be, a comma that may not stand there, and an excerpt. -/
theorem read_append_final_three :
    read "\x7b\"lines\":12]1e" =
        .error (.refused (.wrongType (.number (.natural 12)) .lines)) ∧
      read "[1,,7\"" = .error .malformed ∧
      read "[4,[\"\"],0] \n" = .ok ⟨4, [""], 0⟩ ∧ read "[4,[\"\"],0]5" = .error .malformed := by
  have wrong : read "\x7b\"lines\":12" =
      .error (.refused (.wrongType (.number (.natural 12)) .lines)) := by
    rfl
  have comma : read "[1,,7" = .error .malformed := by
    rfl
  have done : read "[4,[\"\"],0]" = .ok ⟨4, [""], 0⟩ := by
    rfl
  have bracket : Apart "]1e".toList := by
    intro c first
    cases first
    decide
  have quote : Apart "\"".toList := by
    intro c first
    cases first
    decide
  have blanks : Blanks " \n".toList := by simp [Blanks]
  have digit : ¬ Blanks "5".toList := by simp [Blanks]
  refine ⟨?_, ?_, ?_, ?_⟩
  · exact ((read_append_final _ "]1e").1 bracket).1 _ wrong
  · exact ((read_append_final _ "\"").1 quote).2 comma
  · exact ((read_append_final _ " \n").2 _ done).1 blanks
  · exact ((read_append_final _ "5").2 _ done).2 digit

end Pinpoint.Excerpt.Record
