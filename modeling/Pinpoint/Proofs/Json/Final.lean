import Pinpoint.Json.Reader

/-! Verdicts are final. A text is read once from left to right, so what comes behind a text that has
been refused is not looked at; only a numeral at the end of the text may go on. Behind a text that
has been read there may be blanks and nothing else. -/
namespace Pinpoint.Json.Reader

variable {σ ε : Type} {l : Listener σ ε}

/-- A text that does not carry on a numeral in front of it. -/
def Apart (cs : List Char) : Prop :=
  ∀ c, cs.head? = some c → c.isDigit = false ∧ c ∉ ['.', 'e', 'E', '+', '-']

theorem next_of_apart {c : Char} {cs : List Char} (apart : Apart (c :: cs))
    (reading : Numeral.Reading) :
    reading.next c = match reading.ended? with
      | some n => .over n
      | none => .malformed := by
  obtain ⟨digit, sign⟩ := apart c rfl
  simp only [List.mem_cons, List.not_mem_nil, or_false, not_or] at sign
  obtain ⟨point, small, capital, plus, minus⟩ := sign
  have none : Numeral.digit? c = none := by simp [Numeral.digit?, digit]
  rw [Numeral.Reading.next, none]
  obtain ⟨n, part⟩ := reading
  cases part <;> simp [Numeral.Reading.other, Numeral.Reading.ended?, Numeral.Part.mayEnd, point,
    small, capital, plus, minus]

theorem verdict_eq_ok_iff {state : State σ ε} {kept : σ} :
    verdict state = .ok kept ↔ state = .between kept [] .after := by
  constructor
  · intro done
    unfold verdict at done
    split at done
    · cases done
      rfl
    · cases done
    · cases done
  · rintro rfl
    rfl

/-- A verdict other than that the text ends too early was there before the end. -/
theorem verdict_eq_error {state : State σ ε} {why : Failure ε}
    (failed : verdict state = .error why) (early : why ≠ .cutOff) : state = .failed why := by
  unfold verdict at failed
  split at failed
  · cases failed
  · cases failed
    rfl
  · cases failed
    exact absurd rfl early

/-- Where the verdict at the end of the text is a failure, the next character brings it about if it
does not carry on a numeral. -/
theorem step_of_failed {state : State σ ε} {why : Failure ε}
    (failed : endOfText l state = .failed why) (early : why ≠ .cutOff) {c : Char} {cs : List Char}
    (apart : Apart (c :: cs)) : step l state c = .failed why := by
  cases state with
  | between kept brackets place => cases failed
  | failed why' =>
    cases failed
    rfl
  | within kept brackets token =>
    cases token with
    | word next rest event => cases failed
    | string isKey body => cases failed
    | numeral reading =>
      rw [step, stepWithin, next_of_apart apart]
      rw [endOfText] at failed
      cases ended : reading.ended? with
      | some n =>
        simp only [ended] at failed
        simp only [failed]
      | none =>
        simp only [ended, State.failed.injEq] at failed
        split at failed
        · exact absurd failed.symm early
        · rw [← failed]

theorem read_append_of_error {kept : σ} {text more : String} {why : Failure ε}
    (failed : read l kept text = .error why) (early : why ≠ .cutOff)
    (apart : Apart more.toList) : read l kept (text ++ more) = .error why := by
  have ended := verdict_eq_error failed early
  rw [read, String.toList_append, run_append]
  cases rest : more.toList with
  | nil =>
    rw [run_nil, ended]
    rfl
  | cons c cs =>
    rw [rest] at apart
    rw [run_cons, step_of_failed ended early apart, run_failed]
    rfl

theorem step_complete (kept : σ) (c : Char) :
    step l (.between kept [] .after) c =
      if isBlank c then .between kept [] .after else .failed .malformed := by
  rw [step, stepBetween]
  split
  · rfl
  · rw [beginToken]
    split
    · rfl
    split
    · rfl
    split
    · rfl
    · rfl

theorem run_complete (kept : σ) (cs : List Char) :
    (Blanks cs → run l (.between kept [] .after) cs = .between kept [] .after) ∧
      (¬ Blanks cs → run l (.between kept [] .after) cs = .failed .malformed) := by
  induction cs with
  | nil => exact ⟨fun _ => rfl, fun other => absurd (by simp [Blanks]) other⟩
  | cons c cs ih =>
    have split : Blanks (c :: cs) ↔ isBlank c ∧ Blanks cs := by simp [Blanks, isBlank_iff]
    rw [run_cons, step_complete, split]
    cases blank : isBlank c with
    | true => simpa using ih
    | false => simpa using run_failed l .malformed cs

/-- The end of a text completes numerals only. A listener that takes no numeral for a whole text
knows at the last character of the text that it is complete. -/
theorem run_of_read {kept kept' : σ} {text : String} (read : read l kept text = .ok kept')
    (unfinished : ∀ before n, l.hear before (.number n) ≠ .ok kept') :
    run l (.between kept [] .value) text.toList = .between kept' [] .after := by
  have ended := verdict_eq_ok_iff.mp read
  generalize run l (.between kept [] .value) text.toList = state at ended ⊢
  unfold endOfText at ended
  split at ended
  · rename_i before brackets reading
    split at ended
    · rename_i n _
      unfold tell at ended
      split at ended
      · rename_i after said
        cases ended
        exact absurd said (unfinished before n)
      · cases ended
    · cases ended
  · exact ended

theorem read_append_of_ok {kept kept' : σ} {text : String} (done : read l kept text = .ok kept')
    (unfinished : ∀ before n, l.hear before (.number n) ≠ .ok kept') (more : String) :
    (Blanks more.toList → read l kept (text ++ more) = .ok kept') ∧
      (¬ Blanks more.toList → read l kept (text ++ more) = .error .malformed) := by
  obtain ⟨blanks, other⟩ := run_complete (l := l) kept' more.toList
  have complete := run_of_read done unfinished
  rw [read, String.toList_append, run_append, complete]
  constructor
  · intro nothing
    rw [blanks nothing]
    rfl
  · intro something
    rw [other something]
    rfl

end Pinpoint.Json.Reader
