import Pinpoint.Decimal.Layout
import Pinpoint.Excerpt.Record.Field
import Pinpoint.Json.Listener
import Pinpoint.Json.Number
import Pinpoint.Text.Quoted

/-! What may be wrong with a JSON text that is no excerpt, and how it is worded. -/
namespace Pinpoint.Excerpt.Record

inductive Found where
  | null
  | bool (value : Bool)
  | number (n : Json.Number)
  | text (text : String)
  | list
  | object

inductive Asked where
  | excerpt
  /-- A number of a line or a place. -/
  | word
  | lines
  | line
  deriving DecidableEq, Repr

/-- Why a text is not taken for an excerpt. -/
inductive Mismatch where
  | wrongType (found : Found) (asked : Asked)
  /-- An integer below zero where a number of a line or a place is asked for. -/
  | belowZero (n : Int)
  /-- Values without keys, of which there are too few. -/
  | tooShort (count : Nat)
  | repeated (field : Field)
  | missing (field : Field)
  | defect (d : Defect)

/-- Floating point numbers have the point in its place below `10 ^ 16` and down to `10 ^ -5`, and
an exponent elsewhere. -/
def realLayout : Decimal.Layout := ⟨-5, 15⟩

def codeSpan (text : String) : String := "`" ++ text ++ "`"

def Found.describe : Found → String
  | .null => "null"
  | .bool value => "boolean " ++ codeSpan (toString value)
  | .number (.natural n) => "integer " ++ codeSpan (toString n)
  | .number (.negative n) => "integer " ++ codeSpan (toString n)
  | .number (.real x) => "floating point " ++ codeSpan (realLayout.writeFloat x)
  | .text s => "string " ++ Text.quoted s
  | .list => "sequence"
  | .object => "map"

def Asked.describe : Asked → String
  | .excerpt => "struct RawWindow"
  | .word => "usize"
  | .lines => "a sequence"
  | .line => "a string"

def Mismatch.message : Mismatch → String
  | .wrongType found asked => "invalid type: " ++ found.describe ++ ", expected " ++ asked.describe
  | .belowZero n =>
    "invalid value: integer " ++ codeSpan (toString n) ++ ", expected " ++ Asked.word.describe
  | .tooShort count =>
    "invalid length " ++ toString count ++ ", expected " ++ Asked.excerpt.describe ++ " with " ++
      toString Field.count ++ " elements"
  | .repeated field => "duplicate field " ++ codeSpan field.key
  | .missing field => "missing field " ++ codeSpan field.key
  | .defect d => d.message

abbrev ReadFailure := Json.Failure Mismatch

/-- What an event says that a value is. An event that is no value cannot come where one is due. -/
def found : Json.Event → Except ReadFailure Found
  | .null => .ok .null
  | .bool value => .ok (.bool value)
  | .number n =>
    match n.value? with
    | some n => .ok (.number n)
    | none => .error .malformed
  | .string text => .ok (.text text)
  | .openList => .ok .list
  | .openObject => .ok .object
  | .closeList | .closeObject | .key _ | .next => .error .malformed

def refusal (event : Json.Event) (asked : Asked) : ReadFailure :=
  match found event with
  | .ok value => .refused (.wrongType value asked)
  | .error why => why

/-- A value that is the number of a line or a place. -/
def word (event : Json.Event) : Except ReadFailure UInt64 := do
  match ← found event with
  | .number (.natural n) => return n
  | .number (.negative n) => throw (.refused (.belowZero n))
  | value => throw (.refused (.wrongType value .word))

def checked (e : Excerpt) : Except ReadFailure Excerpt :=
  match e.check with
  | .ok e => return e
  | .error d => throw (.refused (.defect d))

end Pinpoint.Excerpt.Record
