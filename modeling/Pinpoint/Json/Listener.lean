import Pinpoint.Json.Numeral

/-! What a JSON text says, as events in reading order, and who listens to them. A listener may
refuse what it hears, so that a text is refused at the first event that does not suit. -/
namespace Pinpoint.Json

inductive Failure (ε : Type) where
  /-- The text ends too early. -/
  | cutOff
  /-- The text is not JSON. -/
  | malformed
  /-- The text says something else than what is asked for. -/
  | refused (why : ε)
  deriving DecidableEq, Repr

/-- One thing that a text says. -/
inductive Event where
  | null
  | bool (value : Bool)
  | number (numeral : Numeral)
  | string (text : String)
  | openList
  | closeList
  | openObject
  | key (name : String)
  | closeObject
  /-- A comma: one more item or member follows. -/
  | next
  deriving DecidableEq, Repr

/-- Someone who hears the events of a text, with what is kept between two of them. -/
structure Listener (σ ε : Type) where
  /-- What is kept after one more event. -/
  hear : σ → Event → Except (Failure ε) σ
  /-- Whether the next value or key is asked for. What nobody asks for is read less strictly. -/
  attends : σ → Bool

end Pinpoint.Json
