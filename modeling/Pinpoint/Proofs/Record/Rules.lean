import Pinpoint.Excerpt.Record.Spelling
import Pinpoint.Proofs.Json.Integer

/-! The rules by which a JSON value says an excerpt. Members and items are looked at from left to
right, and the first one that does not suit decides. Only where all of them suit does it matter
whether a field is missing, and only then whether the excerpt has a defect. -/
namespace Pinpoint.Excerpt.Record

open Json (Value Numeral Number)

/-- What a value is found to be where something else is asked for. -/
inductive IsFound : Value → Found → Prop where
  | null : IsFound .null .null
  | bool {b : Bool} : IsFound (.bool b) (.bool b)
  | integer {n : Numeral} {z : Int} : n.Denotes z → IsFound (.number n) (.number (.ofInt z))
  | text {text : String} : IsFound (.string text) (.text text)
  | list {items : List Value} : IsFound (.list items) .list
  | object {members : List (String × Value)} : IsFound (.object members) .object

def IsWord (value : Value) (w : UInt64) : Prop :=
  ∃ n : Numeral, value = .number n ∧ n.Denotes w.toNat

def IsLines (value : Value) (lines : List String) : Prop :=
  value = .list (lines.map .string)

def Suits : Field → Value → Prop
  | .firstLine, value => ∃ w, IsWord value w
  | .lines, value => ∃ lines, IsLines value lines
  | .markedIndex, value => ∃ w, IsWord value w

/-- What is wrong with a value that a field may not have. -/
inductive Misfit : Field → Value → Mismatch → Prop where
  | noNumber {field : Field} {value : Value} {it : Found} : field ≠ .lines →
    (∀ n, value ≠ .number n) → IsFound value it → Misfit field value (.wrongType it .word)
  | belowZero {field : Field} {n : Numeral} {z : Int} : field ≠ .lines → n.Denotes z → z < 0 →
    Misfit field (.number n) (.belowZero z)
  | noList {value : Value} {it : Found} : (∀ items, value ≠ .list items) → IsFound value it →
    Misfit .lines value (.wrongType it .lines)
  | noLine {lines : List String} {item : Value} {rest : List Value} {it : Found} :
    (∀ text, item ≠ .string text) → IsFound item it →
    Misfit .lines (.list (lines.map .string ++ item :: rest)) (.wrongType it .line)

/-- What is wrong with a member, behind those in front of it. -/
inductive Offends (before : List (String × Value)) : String × Value → Mismatch → Prop where
  | repeated {field : Field} {value : Value} : (∃ earlier, (field.key, earlier) ∈ before) →
    Offends before (field.key, value) (.repeated field)
  | misfit {field : Field} {value : Value} {why : Mismatch} :
    (∀ earlier, (field.key, earlier) ∉ before) → Misfit field value why →
    Offends before (field.key, value) why

def Sound (members : List (String × Value)) : Prop :=
  ∀ before member after, members = before ++ member :: after → ∀ why, ¬ Offends before member why

/-- What comes of an excerpt of which all fields are there: the excerpt itself, or else its first
defect. -/
inductive Checks (e : Excerpt) : Except ReadFailure Excerpt → Prop where
  | valid : e.Valid → Checks e (.ok e)
  | noLines : e.lines = [] → Checks e (.error (.refused (.defect .noLines)))
  | lineZero : e.lines ≠ [] → e.firstLine = 0 → Checks e (.error (.refused (.defect .lineZero)))
  | markOutside : e.lines ≠ [] → e.firstLine ≠ 0 → e.lines.length ≤ e.markedIndex.toNat →
    Checks e (.error (.refused (.defect (.markOutside e.markedIndex e.lines.length))))

/-- What a value comes to. -/
inductive Verdict : Value → Except ReadFailure Excerpt → Prop where
  | scalar {value : Value} {it : Found} : (∀ members, value ≠ .object members) →
    (∀ items, value ≠ .list items) → IsFound value it →
    Verdict value (.error (.refused (.wrongType it .excerpt)))
  | member {before after : List (String × Value)} {member : String × Value} {why : Mismatch} :
    Sound before → Offends before member why →
    Verdict (.object (before ++ member :: after)) (.error (.refused why))
  | missing {members : List (String × Value)} {field : Field} : Sound members →
    (∀ value, (field.key, value) ∉ members) →
    (∀ earlier : Field, earlier.index < field.index → ∃ value, (earlier.key, value) ∈ members) →
    Verdict (.object members) (.error (.refused (.missing field)))
  | object {members : List (String × Value)} {first lines marked : Value} {e : Excerpt}
    {outcome : Except ReadFailure Excerpt} :
    Sound members → (Field.firstLine.key, first) ∈ members → (Field.lines.key, lines) ∈ members →
    (Field.markedIndex.key, marked) ∈ members → IsWord first e.firstLine → IsLines lines e.lines →
    IsWord marked e.markedIndex → Checks e outcome → Verdict (.object members) outcome
  | item {items : List Value} {field : Field} {value : Value} {why : Mismatch} :
    items[field.index]? = some value → Misfit field value why →
    (∀ (earlier : Field) other, earlier.index < field.index →
      items[earlier.index]? = some other → Suits earlier other) →
    Verdict (.list items) (.error (.refused why))
  | tooShort {items : List Value} : items.length < Field.count →
    (∀ (field : Field) value, items[field.index]? = some value → Suits field value) →
    Verdict (.list items) (.error (.refused (.tooShort items.length)))
  | tooLong {items : List Value} : Field.count < items.length →
    (∀ (field : Field) value, items[field.index]? = some value → Suits field value) →
    Verdict (.list items) (.error .malformed)
  | list {first lines marked : Value} {e : Excerpt} {outcome : Except ReadFailure Excerpt} :
    IsWord first e.firstLine → IsLines lines e.lines → IsWord marked e.markedIndex →
    Checks e outcome → Verdict (.list [first, lines, marked]) outcome

/-- The numbers in a value denote integers, as far as they are looked at. -/
def Integral (value : Value) : Prop :=
  (∀ n, value = .number n → ∃ z, n.Denotes z) ∧
  ∀ items n, value = .list items → .number n ∈ items → ∃ z, n.Denotes z

/-- The numbers in the values of fields denote integers. -/
def IntegralFields : Value → Prop
  | .object members => ∀ (field : Field) value, (field.key, value) ∈ members → Integral value
  | .list items => ∀ value ∈ items.take Field.count, Integral value
  | value => Integral value

end Pinpoint.Excerpt.Record
