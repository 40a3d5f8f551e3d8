import Pinpoint.Excerpt.Record.Reader
import Pinpoint.Proofs.Json.Keeping

/-! When an excerpt has been read. It is complete only at a closing bracket, and by then it has been
checked, so every excerpt that is read from a text is valid. -/
namespace Pinpoint.Excerpt.Record

theorem checked_eq_ok_iff {e f : Excerpt} : checked e = .ok f ↔ e = f ∧ e.Valid := by
  rw [← check_eq_ok_iff]
  unfold checked
  cases e.check with
  | ok g => simp [pure, Except.pure]
  | error d => simp [throw, throwThe, MonadExceptOf.throw]

theorem complete_eq_ok_iff {e f : Excerpt} :
    complete e = .ok (.complete f) ↔ e = f ∧ e.Valid := by
  rw [← checked_eq_ok_iff, complete, bind_eq_ok_iff]
  simp [pure, Except.pure]

theorem between_ne_complete (form : Form) (fields : Fields) (e : Excerpt) :
    form.between fields ≠ .complete e := by
  cases form <;> simp [Form.between]

/-- The value of a field never completes the excerpt: a closing bracket has to follow. -/
theorem hearField_ne_complete (form : Form) (fields : Fields) (field : Field)
    (event : Json.Event) (e : Excerpt) :
    hearField form fields field event ≠ .ok (.complete e) := by
  intro done
  cases field with
  | firstLine | markedIndex =>
    obtain ⟨n, -, done⟩ := bind_eq_ok_iff.mp done
    exact between_ne_complete _ _ _ (Except.ok.inj done)
  | lines => cases event <;> cases done

/-- Only a closing bracket completes an excerpt, and then the excerpt has no defect. -/
theorem hear_eq_complete {progress : Progress} {event : Json.Event} {e : Excerpt}
    (done : hear progress event = .ok (.complete e)) :
    (event = .closeObject ∨ event = .closeList) ∧ e.Valid := by
  cases progress with
  | start => cases event <;> cases done
  | members fields =>
    cases event with
    | closeObject =>
      refine ⟨.inl rfl, ?_⟩
      simp only [hear, hearMember] at done
      split at done
      · obtain ⟨rfl, valid⟩ := complete_eq_ok_iff.mp done
        exact valid
      · cases done
    | key name =>
      simp only [hear, hearMember] at done
      split at done
      · split at done <;> cases done
      · cases done
    | _ => cases done
  | items fields =>
    simp only [hear, hearItem] at done
    split at done
    · split at done
      · obtain ⟨rfl, valid⟩ := complete_eq_ok_iff.mp done
        exact ⟨.inr rfl, valid⟩
      · cases done
    · split at done
      · cases done
      · cases done
      · exact absurd done (hearField_ne_complete _ _ _ _ _)
  | value fields field => exact absurd done (hearField_ne_complete _ _ _ _ _)
  | lines form fields read =>
    cases event with
    | closeList =>
      simp only [hear, hearLine, pure, Except.pure, Except.ok.injEq] at done
      exact absurd done (between_ne_complete _ _ _)
    | _ => cases done
  | skipping fields depth =>
    have passing : ∀ depth, passed fields depth ≠ .complete e := by
      intro depth
      unfold passed
      split <;> simp
    simp only [hear, pure, Except.pure, Except.ok.injEq] at done
    cases event with
    | openList | openObject | key | next => cases done
    | _ => exact absurd done (passing _)
  | complete f => cases done

def Progress.Sound : Progress → Prop
  | .complete e => e.Valid
  | _ => True

theorem sound_of_hear {progress : Progress} {event : Json.Event} {after : Progress}
    (heard : hear progress event = .ok after) : after.Sound := by
  cases after with
  | complete e => exact (hear_eq_complete heard).2
  | _ => trivial

theorem read_eq_ok_iff {text : String} {e : Excerpt} :
    read text = .ok e ↔ Json.read listener .start text = .ok (.complete e) := by
  rw [read, bind_eq_ok_iff]
  constructor
  · rintro ⟨progress, done, same⟩
    cases progress with
    | complete f =>
      cases same
      exact done
    | _ => cases same
  · intro done
    exact ⟨_, done, rfl⟩

/-- Whatever the text, an excerpt that is read from it has no defect. -/
theorem valid_of_read {text : String} {e : Excerpt} (done : read text = .ok e) : e.Valid := by
  have step : ∀ kept event after, Progress.Sound kept → listener.hear kept event = .ok after →
      after.Sound := by
    intro kept event after _ heard
    exact sound_of_hear heard
  have initial : Progress.start.Sound := trivial
  exact Json.Reader.read_keeps step initial (read_eq_ok_iff.mp done)

end Pinpoint.Excerpt.Record
