import Pinpoint.Json.Reader

/-! What a listener keeps throughout. A property of what is kept that no event takes away holds
after every character of a text, wherever the reader stands, and so of what is kept in the end. -/
namespace Pinpoint.Json.Reader

variable {σ ε : Type} {l : Listener σ ε} {P : σ → Prop}

/-- What the listener keeps has this property, unless the reader has failed. -/
def State.Keeps (P : σ → Prop) : State σ ε → Prop
  | .between kept _ _ => P kept
  | .within kept _ _ => P kept
  | .failed _ => True

section

variable (heard : ∀ kept event kept', P kept → l.hear kept event = .ok kept' → P kept')

include heard

theorem keeps_tell {kept : σ} (holds : P kept) (event : Event) (brackets : List Bracket)
    (place : Place) : (tell l kept event brackets place).Keeps P := by
  unfold tell
  split
  · rename_i kept' said
    exact heard kept event kept' holds said
  · trivial

theorem keeps_close {kept : σ} (holds : P kept) (bracket : Bracket) (brackets : List Bracket) :
    (close l kept bracket brackets).Keeps P := by
  unfold close
  split
  · trivial
  · split
    · exact keeps_tell heard holds _ _ _
    · trivial

theorem keeps_comma {kept : σ} (holds : P kept) (brackets : List Bracket) :
    (comma l kept brackets).Keeps P := by
  unfold comma
  split
  · trivial
  · exact keeps_tell heard holds _ _ _
  · exact keeps_tell heard holds _ _ _

theorem keeps_beginValue {kept : σ} (holds : P kept) (brackets : List Bracket) (c : Char) :
    (beginValue l kept brackets c).Keeps P := by
  unfold beginValue
  split
  case h_5 | h_6 => exact keeps_tell heard holds _ _ _
  case h_7 =>
    split
    · exact holds
    · trivial
  all_goals exact holds

theorem keeps_beginToken {kept : σ} (holds : P kept) (brackets : List Bracket) (place : Place)
    (c : Char) : (beginToken l kept brackets place c).Keeps P := by
  have begun := keeps_beginValue heard holds brackets c
  have closed := fun bracket => keeps_close heard holds bracket brackets
  cases place with
  | value => exact begun
  | firstItem =>
    rw [beginToken]
    split
    · exact closed .list
    · exact begun
  | firstKey =>
    rw [beginToken]
    split
    · exact closed .object
    · split
      · exact holds
      · trivial
  | key | colon =>
    rw [beginToken]
    split
    · exact holds
    · trivial
  | after =>
    rw [beginToken]
    split
    · exact keeps_comma heard holds brackets
    split
    · exact closed .list
    split
    · exact closed .object
    · trivial

theorem keeps_stepBetween {kept : σ} (holds : P kept) (brackets : List Bracket) (place : Place)
    (c : Char) : (stepBetween l kept brackets place c).Keeps P := by
  unfold stepBetween
  split
  · exact holds
  · exact keeps_beginToken heard holds brackets place c

theorem keeps_stepWithin {kept : σ} (holds : P kept) (brackets : List Bracket) (c : Char)
    (token : Token) : (stepWithin l kept brackets c token).Keeps P := by
  have told := fun event => keeps_tell heard holds event brackets
  cases token with
  | word next rest event =>
    cases rest with
    | nil =>
      rw [stepWithin]
      split
      · trivial
      · exact told event .after
    | cons =>
      rw [stepWithin]
      split
      · trivial
      · exact holds
  | numeral n =>
    rw [stepWithin]
    split
    · exact holds
    · rename_i n _
      have after := told (.number n) .after
      split
      · rename_i kept' brackets' place said
        rw [said] at after
        exact keeps_stepBetween heard after brackets' place c
      · exact after
    · trivial
  | string isKey body =>
    rw [stepWithin]
    split
    · exact holds
    · rename_i text _
      cases isKey with
      | true => exact told (.key text) .colon
      | false => exact told (.string text) .after
    · trivial

theorem keeps_step {state : State σ ε} (keeps : state.Keeps P) (c : Char) :
    (step l state c).Keeps P := by
  cases state with
  | between kept brackets place => exact keeps_stepBetween heard keeps brackets place c
  | within kept brackets token => exact keeps_stepWithin heard keeps brackets c token
  | failed why => trivial

theorem keeps_run {state : State σ ε} (keeps : state.Keeps P) (cs : List Char) :
    (run l state cs).Keeps P := by
  induction cs generalizing state with
  | nil => exact keeps
  | cons c cs ih => exact ih (keeps_step heard keeps c)

theorem keeps_endOfText {state : State σ ε} (keeps : state.Keeps P) :
    (endOfText l state).Keeps P := by
  unfold endOfText
  split
  · split
    · exact keeps_tell heard keeps _ _ _
    · trivial
  · exact keeps

/-- What is kept of a text that has been read has every property that no event takes away. -/
theorem read_keeps {kept kept' : σ} (holds : P kept) {text : String}
    (done : read l kept text = .ok kept') : P kept' := by
  have initial : (State.between kept [] .value : State σ ε).Keeps P := holds
  have ended := keeps_endOfText heard (keeps_run heard initial text.toList)
  unfold Json.read verdict at done
  split at done
  · rename_i same
    rw [same] at ended
    cases done
    exact ended
  · cases done
  · cases done

end

end Pinpoint.Json.Reader
