import Pinpoint.Excerpt.Record.Mismatch
import Pinpoint.Json.Value

/-! The excerpt that a JSON value says, from the value as a whole. Members and items are taken one
after the other, so that the first one that does not suit is what is wrong. -/
namespace Pinpoint.Excerpt.Record

def lineOf : Json.Value → Except ReadFailure String
  | .string text => return text
  | value => throw (refusal value.first .line)

def linesOf : Json.Value → Except ReadFailure (List String)
  | .list items => items.mapM lineOf
  | value => throw (refusal value.first .lines)

def Fields.put (fields : Fields) (field : Field) (value : Json.Value) :
    Except ReadFailure Fields := do
  match field with
  | .firstLine => return { fields with firstLine := some (← word value.first) }
  | .lines => return { fields with lines := some (← linesOf value) }
  | .markedIndex => return { fields with markedIndex := some (← word value.first) }

/-- The fields with one more member. Members with other keys do not matter. -/
def Fields.putMember (fields : Fields) (member : String × Json.Value) :
    Except ReadFailure Fields :=
  match Field.ofKey? member.1 with
  | some field =>
    if fields.has field then throw (.refused (.repeated field)) else fields.put field member.2
  | none => return fields

def ofMembers (members : List (String × Json.Value)) : Except ReadFailure Excerpt := do
  let fields ← members.foldlM Fields.putMember {}
  match fields.excerpt with
  | .ok e => checked e
  | .error field => throw (.refused (.missing field))

/-- The excerpt that items say, behind those that have been read. There must not be more of them
than there are fields. -/
def ofItems (fields : Fields) : List Json.Value → Except ReadFailure Excerpt
  | [] =>
    match fields.excerpt with
    | .ok e => checked e
    | .error field => throw (.refused (.tooShort field.index))
  | value :: more =>
    match fields.excerpt with
    | .ok _ => throw .malformed
    | .error field => do ofItems (← fields.put field value) more

def ofValue : Json.Value → Except ReadFailure Excerpt
  | .object members => ofMembers members
  | .list items => ofItems {} items
  | value => throw (refusal value.first .excerpt)

end Pinpoint.Excerpt.Record
