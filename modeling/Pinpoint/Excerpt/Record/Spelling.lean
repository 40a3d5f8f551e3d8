import Pinpoint.Excerpt.Record.Reader
import Pinpoint.Excerpt.Record.Value
import Pinpoint.Json.Reader.Spelling

/-! Reading a text that spells a value is taking the excerpt that the value says. Neither blanks nor
the choice of escapes matter, and of a value that is passed over nothing does. -/
namespace Pinpoint.Excerpt.Record

open Json (Event Value)

/-- What is kept after events, from the beginning of a value on. -/
abbrev hearAll (progress : Progress) (events : List Event) : Except ReadFailure Progress :=
  listener.hearAll progress events

theorem hearAll_cons (progress : Progress) (event : Event) (events : List Event) :
    hearAll progress (event :: events) = hear progress event >>= (hearAll · events) :=
  List.foldlM_cons

theorem hearAll_append (progress : Progress) (first second : List Event) :
    hearAll progress (first ++ second) = hearAll progress first >>= (hearAll · second) :=
  List.foldlM_append

mutual

/-- A value that is passed over leaves nothing behind. -/
theorem hearAll_skipping (fields : Fields) (depth : Nat) :
    ∀ value : Value, hearAll (.skipping fields depth) value.events = .ok (passed fields depth)
  | .null | .bool _ | .number _ | .string _ => rfl
  | .list items => by
    rw [Value.events, List.cons_append, hearAll_cons]
    change hearAll (.skipping fields (depth + 1)) _ = _
    rw [hearAll_append, hearAll_skippingItems]
    rfl
  | .object members => by
    rw [Value.events, List.cons_append, hearAll_cons]
    change hearAll (.skipping fields (depth + 1)) _ = _
    rw [hearAll_append, hearAll_skippingMembers]
    rfl

theorem hearAll_skippingItems (fields : Fields) (depth : Nat) : ∀ items : List Value,
    hearAll (.skipping fields (depth + 1)) (Value.itemEvents items) =
      .ok (.skipping fields (depth + 1))
  | [] => rfl
  | [item] => hearAll_skipping fields (depth + 1) item
  | item :: next :: more => by
    rw [Value.itemEvents_cons (by simp), hearAll_append, hearAll_skipping fields (depth + 1) item]
    exact hearAll_skippingItems fields depth (next :: more)

theorem hearAll_skippingMembers (fields : Fields) (depth : Nat) :
    ∀ members : List (String × Value),
      hearAll (.skipping fields (depth + 1)) (Value.memberEvents members) =
        .ok (.skipping fields (depth + 1))
  | [] => rfl
  | [(_, value)] => hearAll_skipping fields (depth + 1) value
  | (key, value) :: next :: more => by
    rw [Value.memberEvents_cons (by simp), Value.pairEvents, List.cons_append, hearAll_cons]
    change hearAll (.skipping fields (depth + 1)) _ = _
    rw [hearAll_append, hearAll_skipping fields (depth + 1) value]
    exact hearAll_skippingMembers fields depth (next :: more)

end

theorem hearAll_line (form : Form) (fields : Fields) (read : List String) (item : Value)
    (events : List Event) :
    hearAll (.lines form fields read) (item.events ++ events) =
      lineOf item >>= fun line => hearAll (.lines form fields (line :: read)) events := by
  cases item <;> rfl

theorem hearAll_lines (form : Form) (fields : Fields) (read : List String) (items : List Value)
    (events : List Event) :
    hearAll (.lines form fields read) (Value.itemEvents items ++ .closeList :: events) =
      items.mapM lineOf >>= fun lines =>
        hearAll (form.between { fields with lines := some (read.reverse ++ lines) }) events := by
  induction items generalizing read with
  | nil =>
    simp [Value.itemEvents, hearAll_cons, hear, hearLine, bind, Except.bind, pure, Except.pure]
  | cons item items ih =>
    rw [List.mapM_cons]
    cases items with
    | nil =>
      rw [Value.itemEvents, hearAll_line]
      cases lineOf item <;>
        simp [hearAll_cons, hear, hearLine, bind, Except.bind, pure, Except.pure]
    | cons next more =>
      rw [Value.itemEvents_cons (by simp), List.append_assoc, hearAll_line]
      cases lineOf item with
      | error why => rfl
      | ok line =>
        change hearAll (.lines form fields (line :: read))
          (Value.itemEvents (next :: more) ++ .closeList :: events) = _
        rw [ih]
        cases (next :: more).mapM lineOf <;> simp [bind, Except.bind, pure, Except.pure]

theorem hear_field (form : Form) (fields : Fields) (field : Field) (value : Value)
    (events : List Event) :
    (hearField form fields field value.first >>= fun progress =>
        hearAll progress (value.events.tail ++ events)) =
      fields.put field value >>= fun fields => hearAll (form.between fields) events := by
  cases field with
  | firstLine | markedIndex =>
    cases value with
    | list | object => rfl
    | null | bool | number | string =>
      simp only [hearField, Fields.put, Value.events, List.tail_cons, List.nil_append]
      cases word _ <;> rfl
  | lines =>
    cases value with
    | list items =>
      change hearAll (.lines form fields []) (Value.itemEvents items ++ [.closeList] ++ events) = _
      rw [List.append_assoc, List.singleton_append, hearAll_lines, Fields.put, linesOf]
      cases items.mapM lineOf <;> rfl
    | null | bool | number | string | object => rfl

theorem hearAll_value (fields : Fields) (field : Field) (value : Value) (events : List Event) :
    hearAll (.value fields field) (value.events ++ events) =
      fields.put field value >>= fun fields => hearAll (.members fields) events := by
  rw [Value.events_eq_first_cons, List.cons_append, hearAll_cons]
  exact hear_field .byKey fields field value events

theorem hearAll_member (fields : Fields) (member : String × Value) (events : List Event) :
    hearAll (.members fields) (Value.pairEvents member ++ events) =
      fields.putMember member >>= fun fields => hearAll (.members fields) events := by
  obtain ⟨key, value⟩ := member
  rw [Value.pairEvents, List.cons_append, hearAll_cons, Fields.putMember, hear, hearMember]
  cases Field.ofKey? key with
  | none =>
    change hearAll (.skipping fields 0) (value.events ++ events) = _
    rw [hearAll_append, hearAll_skipping]
    rfl
  | some field =>
    cases again : fields.has field with
    | true =>
      simp only [again, if_true]
      rfl
    | false =>
      simp only [again, Bool.false_eq_true, if_false]
      exact hearAll_value fields field value events

theorem hearAll_members (fields : Fields) (members : List (String × Value)) :
    hearAll (.members fields) (Value.memberEvents members ++ [.closeObject]) =
      members.foldlM Fields.putMember fields >>= fun fields =>
        hearAll (.members fields) [.closeObject] := by
  induction members generalizing fields with
  | nil => rfl
  | cons member members ih =>
    rw [List.foldlM_cons]
    cases members with
    | nil =>
      rw [Value.memberEvents, hearAll_member]
      cases fields.putMember member <;> rfl
    | cons next more =>
      rw [Value.memberEvents_cons (by simp), List.append_assoc, hearAll_member]
      cases fields.putMember member with
      | error why => rfl
      | ok fields => exact ih fields

theorem hearAll_closeObject (fields : Fields) :
    hearAll (.members fields) [.closeObject] =
      Progress.complete <$> match fields.excerpt with
        | .ok e => checked e
        | .error field => throw (.refused (.missing field)) := by
  rw [hearAll_cons, hear, hearMember]
  cases fields.excerpt with
  | ok e =>
    simp only [complete]
    cases checked e <;> rfl
  | error field => rfl

theorem hearAll_item {fields : Fields} {field : Field} (missing : fields.excerpt = .error field)
    (item : Value) (events : List Event) :
    hearAll (.items fields) (item.events ++ events) =
      fields.put field item >>= fun fields => hearAll (.items fields) events := by
  have due : hear (.items fields) item.first = hearField .byPlace fields field item.first := by
    cases item <;> simp only [hear, hearItem, missing, Value.first]
  rw [Value.events_eq_first_cons, List.cons_append, hearAll_cons, due]
  exact hear_field .byPlace fields field item events

theorem hearAll_closeList (fields : Fields) :
    hearAll (.items fields) [.closeList] = Progress.complete <$> ofItems fields [] := by
  rw [hearAll_cons]
  simp only [hear, hearItem, ofItems, complete]
  cases fields.excerpt with
  | ok e =>
    dsimp only
    cases checked e <;> rfl
  | error field => rfl

/-- The items of the list, where a field is missing, and the closing bracket. -/
theorem hearAll_items {fields : Fields} {field : Field} (missing : fields.excerpt = .error field)
    (item : Value) (items : List Value) :
    hearAll (.items fields) (Value.itemEvents (item :: items) ++ [.closeList]) =
      Progress.complete <$> ofItems fields (item :: items) := by
  induction items generalizing fields field item with
  | nil =>
    rw [Value.itemEvents, hearAll_item missing, ofItems, missing]
    dsimp only
    cases fields.put field item with
    | error why => rfl
    | ok fields => exact hearAll_closeList fields
  | cons next more ih =>
    rw [Value.itemEvents_cons (by simp), List.append_assoc, hearAll_item missing, ofItems, missing]
    dsimp only
    cases fields.put field item with
    | error why => rfl
    | ok fields =>
      change hearAll (.items fields) (.next :: (Value.itemEvents (next :: more) ++ [.closeList])) =
        Progress.complete <$> ofItems fields (next :: more)
      rw [hearAll_cons]
      cases found : fields.excerpt with
      | ok e =>
        simp only [hear, hearItem, ofItems, found]
        rfl
      | error field =>
        simp only [hear, hearItem, found]
        exact ih found next

theorem hearAll_start (value : Value) :
    hearAll .start value.events = Progress.complete <$> ofValue value := by
  cases value with
  | object members =>
    change hearAll (.members {}) (Value.memberEvents members ++ [.closeObject]) = _
    rw [hearAll_members, ofValue, ofMembers]
    cases members.foldlM Fields.putMember {} with
    | error why => rfl
    | ok fields => exact hearAll_closeObject fields
  | list items =>
    change hearAll (.items {}) (Value.itemEvents items ++ [.closeList]) = _
    cases items with
    | nil => rfl
    | cons item items => exact hearAll_items rfl item items
  | null | bool | number | string => rfl

/-- Reading a text that spells a value is taking the excerpt that the value says. -/
theorem read_eq_ofValue {value : Value} {text : String}
    (spells : Json.SpellsText value text.toList) : read text = ofValue value := by
  have heard := (Json.Reader.read_of_spells listener spells .start).trans (hearAll_start value)
  rw [read, heard]
  cases ofValue value <;> rfl

end Pinpoint.Excerpt.Record
