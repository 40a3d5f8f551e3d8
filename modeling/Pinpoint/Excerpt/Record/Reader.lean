import Pinpoint.Excerpt.Record.Mismatch
import Pinpoint.Json.Reader

/-! Reading an excerpt from JSON. It is an object with the three fields in any order, in which other
keys are passed over with their values, or a list of the three values. The first thing that does
not suit is what is wrong; that a field is missing, or that the excerpt has a defect, shows only at
the closing bracket. -/
namespace Pinpoint.Excerpt.Record

/-- How the values of the fields are told apart. -/
inductive Form where
  | byKey
  | byPlace
  deriving DecidableEq, Repr

inductive Progress where
  | start
  /-- Inside of the object, between two members. -/
  | members (fields : Fields)
  /-- Inside of the list, between two values. -/
  | items (fields : Fields)
  /-- Behind the key of a field. -/
  | value (fields : Fields) (field : Field)
  /-- Inside of the list of lines, of which the last one comes first. -/
  | lines (form : Form) (fields : Fields) (read : List String)
  /-- Inside of a value that is passed over, with so many brackets open. -/
  | skipping (fields : Fields) (depth : Nat)
  | complete (e : Excerpt)
  deriving DecidableEq, Repr

def Form.between : Form → Fields → Progress
  | .byKey => .members
  | .byPlace => .items

def hearField (form : Form) (fields : Fields) (field : Field) (event : Json.Event) :
    Except ReadFailure Progress := do
  match field with
  | .firstLine => return form.between { fields with firstLine := some (← word event) }
  | .markedIndex => return form.between { fields with markedIndex := some (← word event) }
  | .lines =>
    match event with
    | .openList => return .lines form fields []
    | event => throw (refusal event .lines)

/-- All fields have been read: the excerpt, unless it has a defect. -/
def complete (e : Excerpt) : Except ReadFailure Progress :=
  return .complete (← checked e)

/-- The first event says which form the excerpt has. -/
def hearFirst : Json.Event → Except ReadFailure Progress
  | .openObject => return .members {}
  | .openList => return .items {}
  | event => throw (refusal event .excerpt)

def hearMember (fields : Fields) : Json.Event → Except ReadFailure Progress
  | .key name =>
    match Field.ofKey? name with
    | some field =>
      if fields.has field then throw (.refused (.repeated field)) else return .value fields field
    | none => return .skipping fields 0
  | .closeObject =>
    match fields.excerpt with
    | .ok e => complete e
    | .error field => throw (.refused (.missing field))
  | .next => return .members fields
  | _ => throw .malformed

/-- A value, a comma or the end of the list. Behind the last value only the end may come. -/
def hearItem (fields : Fields) (event : Json.Event) : Except ReadFailure Progress :=
  match fields.excerpt with
  | .ok e =>
    match event with
    | .closeList => complete e
    | _ => throw .malformed
  | .error field =>
    match event with
    | .closeList => throw (.refused (.tooShort field.index))
    | .next => return .items fields
    | event => hearField .byPlace fields field event

def hearLine (form : Form) (fields : Fields) (read : List String) :
    Json.Event → Except ReadFailure Progress
  | .string text => return .lines form fields (text :: read)
  | .next => return .lines form fields read
  | .closeList => return form.between { fields with lines := some read.reverse }
  | event => throw (refusal event .line)

/-- A part of a value that is passed over has ended, and so many brackets are still open. -/
def passed (fields : Fields) (depth : Nat) : Progress :=
  if depth = 0 then .members fields else .skipping fields depth

def hearSkipped (fields : Fields) (depth : Nat) : Json.Event → Progress
  | .openList | .openObject => .skipping fields (depth + 1)
  | .closeList | .closeObject => passed fields (depth - 1)
  | .key _ | .next => .skipping fields depth
  | .null | .bool _ | .number _ | .string _ => passed fields depth

def hear (progress : Progress) (event : Json.Event) : Except ReadFailure Progress :=
  match progress with
  | .start => hearFirst event
  | .members fields => hearMember fields event
  | .items fields => hearItem fields event
  | .value fields field => hearField .byKey fields field event
  | .lines form fields read => hearLine form fields read event
  | .skipping fields depth => return hearSkipped fields depth event
  | .complete _ => throw .malformed

/-- Values are asked for unless they are passed over. -/
def attends : Progress → Bool
  | .skipping _ _ => false
  | _ => true

def listener : Json.Listener Progress Mismatch := ⟨hear, attends⟩

/-- The excerpt that a JSON text says. -/
def read (text : String) : Except ReadFailure Excerpt := do
  match ← Json.read listener .start text with
  | .complete e => return e
  | _ => throw .cutOff

end Pinpoint.Excerpt.Record
