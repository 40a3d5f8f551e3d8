import Mathlib.Data.List.Induction
import Pinpoint.Excerpt.Record.Value
import Pinpoint.Proofs.Record.Rules

/-! Taking members one after the other keeps what the rules say of those that have been taken: which
fields there are, and what their values are. -/
namespace Pinpoint.Excerpt.Record

open Json (Value Numeral Number)

theorem Field.key_injective {field other : Field} (same : field.key = other.key) :
    field = other := by
  have found := field.ofKey?_key
  rw [same, other.ofKey?_key] at found
  exact (Option.some.inj found).symm

/-- What does not hold of all fields fails for a first one. -/
theorem Field.all_or_first (p : Field → Prop) :
    (∀ field, p field) ∨
      ∃ field, ¬ p field ∧ ∀ earlier : Field, earlier.index < field.index → p earlier := by
  by_cases first : p .firstLine
  · by_cases lines : p .lines
    · by_cases marked : p .markedIndex
      · exact .inl fun field => by cases field <;> assumption
      · refine .inr ⟨.markedIndex, marked, fun earlier lower => ?_⟩
        cases earlier with
        | firstLine => exact first
        | lines => exact lines
        | markedIndex => exact absurd lower (by decide)
    · refine .inr ⟨.lines, lines, fun earlier lower => ?_⟩
      cases earlier with
      | firstLine => exact first
      | lines | markedIndex => exact absurd lower (by decide)
  · refine .inr ⟨.firstLine, first, fun earlier lower => ?_⟩
    exact absurd lower (Nat.not_lt_zero _)

theorem exists_isFound {value : Value} (integer : ∀ n, value = .number n → ∃ z, n.Denotes z) :
    ∃ it, IsFound value it := by
  cases value with
  | null => exact ⟨_, .null⟩
  | bool => exact ⟨_, .bool⟩
  | number n =>
    obtain ⟨z, denotes⟩ := integer n rfl
    exact ⟨_, .integer denotes⟩
  | string => exact ⟨_, .text⟩
  | list => exact ⟨_, .list⟩
  | object => exact ⟨_, .object⟩

theorem found_of_isFound {value : Value} {it : Found} (is : IsFound value it) :
    found value.first = .ok it := by
  cases is with
  | integer denotes => simp only [Value.first, found, Numeral.value?_eq_ofInt denotes]
  | null | bool | text | list | object => rfl

theorem refusal_of_isFound {value : Value} {it : Found} (is : IsFound value it) (asked : Asked) :
    refusal value.first asked = .refused (.wrongType it asked) := by
  rw [refusal, found_of_isFound is]

theorem IsWord.unique {value : Value} {v w : UInt64} (first : IsWord value v)
    (second : IsWord value w) : v = w := by
  obtain ⟨n, rfl, denotes⟩ := first
  obtain ⟨m, same, denotes'⟩ := second
  cases same
  have numbers := denotes.unique denotes'
  exact UInt64.toNat_inj.mp (by omega)

theorem IsLines.unique {value : Value} {first second : List String} (one : IsLines value first)
    (other : IsLines value second) : first = second := by
  have same := one.symm.trans other
  exact (List.map_inj_right fun _ _ => Value.string.inj).mp (Value.list.inj same)

theorem word_of_isWord {value : Value} {w : UInt64} (is : IsWord value w) :
    word value.first = .ok w := by
  obtain ⟨n, rfl, denotes⟩ := is
  have natural : Number.ofInt w.toNat = .natural w := by
    simp [Number.ofInt]
  simp only [Value.first, word, found, Numeral.value?_eq_ofInt denotes, natural]
  rfl

theorem word_of_misfit {field : Field} {value : Value} {why : Mismatch} (number : field ≠ .lines)
    (misfit : Misfit field value why) : word value.first = .error (.refused why) := by
  cases misfit with
  | noNumber _ other is =>
    rw [word, found_of_isFound is]
    cases is with
    | @integer n => exact absurd rfl (other n)
    | null | bool | text | list | object => rfl
  | belowZero _ denotes below =>
    simp only [Value.first, word, found, Numeral.value?_eq_ofInt denotes, Number.ofInt,
      if_neg (Int.not_le.mpr below)]
    rfl
  | noList | noLine => exact absurd rfl number

theorem mapM_lineOf (lines : List String) : (lines.map Value.string).mapM lineOf = .ok lines := by
  induction lines with
  | nil => rfl
  | cons line lines ih =>
    rw [List.map_cons, List.mapM_cons, ih]
    rfl

theorem linesOf_of_isLines {value : Value} {lines : List String} (is : IsLines value lines) :
    linesOf value = .ok lines := by
  cases is
  exact mapM_lineOf lines

theorem linesOf_of_misfit {value : Value} {why : Mismatch} (misfit : Misfit .lines value why) :
    linesOf value = .error (.refused why) := by
  cases misfit with
  | noNumber number | belowZero number => exact absurd rfl number
  | noList other is =>
    have refused := refusal_of_isFound is .lines
    cases value with
    | list items => exact absurd rfl (other items)
    | null | bool | number | string | object =>
      rw [linesOf, refused]
      · rfl
      · exact other
  | @noLine lines item rest it other is =>
    have refused : lineOf item = .error (.refused (.wrongType it .line)) := by
      rw [← refusal_of_isFound is .line]
      cases item with
      | string text => exact absurd rfl (other text)
      | null | bool | number | list | object => rfl
    rw [linesOf, List.mapM_append, mapM_lineOf, List.mapM_cons, refused]
    rfl

theorem lines_or_item (items : List Value) :
    (∃ lines : List String, items = lines.map .string) ∨
      ∃ (lines : List String) (item : Value) (rest : List Value),
        items = lines.map .string ++ item :: rest ∧ ∀ text, item ≠ .string text := by
  induction items with
  | nil => exact .inl ⟨[], rfl⟩
  | cons item items ih =>
    by_cases isText : ∃ text, item = .string text
    · obtain ⟨text, rfl⟩ := isText
      obtain ⟨lines, rfl⟩ | ⟨lines, item, rest, rfl, other⟩ := ih
      · exact .inl ⟨text :: lines, rfl⟩
      · exact .inr ⟨text :: lines, item, rest, rfl, other⟩
    · exact .inr ⟨[], item, items, rfl, not_exists.mp isText⟩

theorem word_or_misfit {value : Value} {field : Field} (number : field ≠ .lines)
    (integral : Integral value) : (∃ w, IsWord value w) ∨ ∃ why, Misfit field value why := by
  by_cases isNumber : ∃ n, value = .number n
  · obtain ⟨n, rfl⟩ := isNumber
    obtain ⟨z, denotes⟩ := integral.1 n rfl
    by_cases below : z < 0
    · exact .inr ⟨_, .belowZero number denotes below⟩
    · have upper := denotes.upper
      have words : UInt64.size = 2 ^ 64 := rfl
      have same : z = (UInt64.ofNat z.toNat).toNat := by
        rw [UInt64.toNat_ofNat_of_lt' (by omega)]
        omega
      exact .inl ⟨_, n, rfl, same ▸ denotes⟩
  · obtain ⟨it, is⟩ := exists_isFound integral.1
    exact .inr ⟨_, .noNumber number (not_exists.mp isNumber) is⟩

theorem suits_or_misfit {value : Value} (integral : Integral value) (field : Field) :
    Suits field value ∨ ∃ why, Misfit field value why := by
  cases field with
  | firstLine => exact word_or_misfit (by decide) integral
  | markedIndex => exact word_or_misfit (by decide) integral
  | lines =>
    by_cases isList : ∃ items, value = .list items
    · obtain ⟨items, rfl⟩ := isList
      obtain ⟨lines, rfl⟩ | ⟨lines, item, rest, rfl, other⟩ := lines_or_item items
      · exact .inl ⟨lines, rfl⟩
      · obtain ⟨it, is⟩ := @exists_isFound item fun n same => integral.2 _ n rfl (by simp [same])
        exact .inr ⟨_, .noLine other is⟩
    · obtain ⟨it, is⟩ := exists_isFound integral.1
      exact .inr ⟨_, .noList (not_exists.mp isList) is⟩

/-- A field has been read, with what its value says. -/
def Fields.Holds (fields : Fields) : Field → Value → Prop
  | .firstLine, value => ∃ w, fields.firstLine = some w ∧ IsWord value w
  | .lines, value => ∃ lines, fields.lines = some lines ∧ IsLines value lines
  | .markedIndex, value => ∃ w, fields.markedIndex = some w ∧ IsWord value w

theorem put_firstLine {value : Value} {w : UInt64} (fields : Fields) (is : IsWord value w) :
    fields.put .firstLine value = .ok { fields with firstLine := some w } := by
  rw [Fields.put, word_of_isWord is]
  rfl

theorem put_lines {value : Value} {lines : List String} (fields : Fields)
    (is : IsLines value lines) :
    fields.put .lines value = .ok { fields with lines := some lines } := by
  rw [Fields.put, linesOf_of_isLines is]
  rfl

theorem put_markedIndex {value : Value} {w : UInt64} (fields : Fields) (is : IsWord value w) :
    fields.put .markedIndex value = .ok { fields with markedIndex := some w } := by
  rw [Fields.put, word_of_isWord is]
  rfl

/-- A value that suits is taken for its field, and the other fields stay as they are. -/
theorem put_of_suits {fields : Fields} {field : Field} {value : Value}
    (suits : Suits field value) : ∃ after, fields.put field value = .ok after ∧
      after.Holds field value ∧
      (∀ other, after.has other = true ↔ fields.has other ∨ other = field) ∧
      ∀ other earlier, other ≠ field → fields.Holds other earlier → after.Holds other earlier := by
  cases field with
  | firstLine =>
    obtain ⟨w, is⟩ := suits
    refine ⟨_, put_firstLine fields is, ⟨w, rfl, is⟩, ?_, ?_⟩
    · rintro (_ | _ | _) <;> simp [Fields.has]
    · rintro (_ | _ | _) earlier different holds
      · exact absurd rfl different
      · exact holds
      · exact holds
  | lines =>
    obtain ⟨lines, is⟩ := suits
    refine ⟨_, put_lines fields is, ⟨lines, rfl, is⟩, ?_, ?_⟩
    · rintro (_ | _ | _) <;> simp [Fields.has]
    · rintro (_ | _ | _) earlier different holds
      · exact holds
      · exact absurd rfl different
      · exact holds
  | markedIndex =>
    obtain ⟨w, is⟩ := suits
    refine ⟨_, put_markedIndex fields is, ⟨w, rfl, is⟩, ?_, ?_⟩
    · rintro (_ | _ | _) <;> simp [Fields.has]
    · rintro (_ | _ | _) earlier different holds
      · exact holds
      · exact holds
      · exact absurd rfl different

theorem put_of_misfit {field : Field} {value : Value} {why : Mismatch} (fields : Fields)
    (misfit : Misfit field value why) : fields.put field value = .error (.refused why) := by
  cases field with
  | firstLine | markedIndex =>
    rw [Fields.put, word_of_misfit (by decide) misfit]
    rfl
  | lines =>
    rw [Fields.put, linesOf_of_misfit misfit]
    rfl

/-- The fields say what the members do. -/
structure Collects (members : List (String × Value)) (fields : Fields) : Prop where
  has_iff : ∀ field : Field, fields.has field = true ↔ ∃ value, (field.key, value) ∈ members
  holds : ∀ (field : Field) value, (field.key, value) ∈ members → fields.Holds field value

theorem Collects.has_eq_false {members : List (String × Value)} {fields : Fields} {field : Field}
    (collects : Collects members fields) (absent : ∀ value, (field.key, value) ∉ members) :
    fields.has field = false := by
  rw [Bool.eq_false_iff, ne_eq, collects.has_iff]
  exact not_exists.mpr absent

theorem collects_nil : Collects [] {} := by
  constructor
  · rintro (_ | _ | _) <;> simp [Fields.has]
  · intro field value member
    cases member

/-- A value of a new field is collected with those in front of it. -/
theorem Collects.put {before : List (String × Value)} {fields after : Fields} {field : Field}
    {value : Value} (collects : Collects before fields)
    (first : ∀ earlier, (field.key, earlier) ∉ before) (holds : after.Holds field value)
    (has : ∀ other, after.has other = true ↔ fields.has other ∨ other = field)
    (others : ∀ other earlier, other ≠ field → fields.Holds other earlier →
      after.Holds other earlier) : Collects (before ++ [(field.key, value)]) after := by
  constructor
  · intro other
    rw [has, collects.has_iff]
    constructor
    · rintro (⟨earlier, there⟩ | rfl)
      · exact ⟨earlier, List.mem_append_left _ there⟩
      · exact ⟨value, List.mem_append_right _ (List.mem_singleton_self _)⟩
    · rintro ⟨earlier, there⟩
      rcases List.mem_append.mp there with there | last
      · exact .inl ⟨earlier, there⟩
      · exact .inr (Field.key_injective (congrArg Prod.fst (List.mem_singleton.mp last)))
  · intro other earlier there
    rcases List.mem_append.mp there with already | last
    · have different : other ≠ field := by
        rintro rfl
        exact first earlier already
      exact others other earlier different (collects.holds other earlier already)
    · have same := List.mem_singleton.mp last
      obtain rfl := Field.key_injective (congrArg Prod.fst same)
      obtain rfl := congrArg Prod.snd same
      exact holds

theorem Collects.pass {before : List (String × Value)} {fields : Fields} {key : String}
    (collects : Collects before fields) (other : ∀ field : Field, key ≠ field.key)
    (value : Value) : Collects (before ++ [(key, value)]) fields := by
  have same : ∀ (field : Field) earlier,
      (field.key, earlier) ∈ before ++ [(key, value)] ↔ (field.key, earlier) ∈ before := by
    intro field earlier
    simp [(other field).symm]
  constructor
  · intro field
    simp only [same]
    exact collects.has_iff field
  · intro field earlier there
    exact collects.holds field earlier ((same field earlier).mp there)

theorem putMember_of_new {fields : Fields} {field : Field} (new : fields.has field = false)
    (value : Value) : fields.putMember (field.key, value) = fields.put field value := by
  rw [Fields.putMember, field.ofKey?_key]
  simp only [new, Bool.false_eq_true, if_false]

theorem putMember_of_offends {before : List (String × Value)} {fields : Fields}
    {member : String × Value} {why : Mismatch} (collects : Collects before fields)
    (offends : Offends before member why) :
    fields.putMember member = .error (.refused why) := by
  cases offends with
  | @repeated field value again =>
    rw [Fields.putMember, field.ofKey?_key]
    simp only [(collects.has_iff field).mpr again, if_true]
    rfl
  | misfit first misfit =>
    rw [putMember_of_new (collects.has_eq_false first)]
    exact put_of_misfit fields misfit

theorem putMember_of_sound {before : List (String × Value)} {fields : Fields}
    {member : String × Value} (collects : Collects before fields)
    (sound : ∀ why, ¬ Offends before member why)
    (integral : ∀ field : Field, member.1 = field.key → Integral member.2) :
    ∃ after, fields.putMember member = .ok after ∧ Collects (before ++ [member]) after := by
  obtain ⟨key, value⟩ := member
  cases known : Field.ofKey? key with
  | none =>
    have other : ∀ field : Field, key ≠ field.key := by
      rintro field rfl
      cases field.ofKey?_key.symm.trans known
    refine ⟨fields, ?_, collects.pass other value⟩
    rw [Fields.putMember, known]
    rfl
  | some field =>
    obtain rfl := Field.ofKey?_eq_some_iff.mp known
    have first : ∀ earlier, (field.key, earlier) ∉ before := by
      intro earlier there
      exact sound _ (.repeated ⟨earlier, there⟩)
    have suits : Suits field value := by
      refine (suits_or_misfit (integral field rfl) field).resolve_right ?_
      rintro ⟨why, misfit⟩
      exact sound why (.misfit first misfit)
    obtain ⟨after, put, holds, has, others⟩ := put_of_suits suits
    rw [putMember_of_new (collects.has_eq_false first)]
    exact ⟨after, put, collects.put first holds has others⟩

theorem sound_concat {members : List (String × Value)} {member : String × Value} :
    Sound (members ++ [member]) ↔
      Sound members ∧ ∀ why, ¬ Offends members member why := by
  constructor
  · intro sound
    refine ⟨fun before other after split => ?_, fun why => sound members member [] rfl why⟩
    exact sound before other (after ++ [member]) (by simp [split])
  · rintro ⟨sound, last⟩ before other after split
    rcases List.eq_nil_or_concat after with rfl | ⟨front, final, rfl⟩
    · obtain ⟨rfl, same⟩ := List.append_inj' split rfl
      cases same
      exact last
    · have shorter : members ++ [member] = (before ++ other :: front) ++ [final] := by
        simp [split]
      obtain ⟨rfl, -⟩ := List.append_inj' shorter rfl
      exact sound before other front rfl

theorem sound_nil : Sound [] := by
  intro before member after split
  simp at split

/-- Where no member offends, all of them are taken. -/
theorem collects_of_sound {members : List (String × Value)} (sound : Sound members)
    (integral : ∀ (field : Field) value, (field.key, value) ∈ members → Integral value) :
    ∃ fields, members.foldlM Fields.putMember {} = .ok fields ∧ Collects members fields := by
  induction members using List.reverseRecOn with
  | nil => exact ⟨{}, rfl, collects_nil⟩
  | append_singleton members member ih =>
    obtain ⟨sound, last⟩ := sound_concat.mp sound
    obtain ⟨fields, folded, collects⟩ := ih sound fun field value there =>
      integral field value (List.mem_append_left _ there)
    obtain ⟨after, put, collects'⟩ := putMember_of_sound collects last fun field same =>
      integral field member.2 (by simp [← same])
    refine ⟨after, ?_, collects'⟩
    rw [List.foldlM_append, folded]
    change [member].foldlM Fields.putMember fields = _
    rw [List.foldlM_cons, put]
    rfl

/-- The first member that offends is what is wrong. -/
theorem foldlM_of_offends {before after : List (String × Value)} {member : String × Value}
    {why : Mismatch} (sound : Sound before) (offends : Offends before member why)
    (integral : ∀ (field : Field) value, (field.key, value) ∈ before → Integral value) :
    (before ++ member :: after).foldlM Fields.putMember {} = .error (.refused why) := by
  obtain ⟨fields, folded, collects⟩ := collects_of_sound sound integral
  rw [List.foldlM_append, folded]
  change (member :: after).foldlM Fields.putMember fields = _
  rw [List.foldlM_cons, putMember_of_offends collects offends]
  rfl

theorem sound_or_offends (members : List (String × Value)) :
    Sound members ∨ ∃ before member after why,
      members = before ++ member :: after ∧ Sound before ∧ Offends before member why := by
  induction members using List.reverseRecOn with
  | nil => exact .inl sound_nil
  | append_singleton members member ih =>
    obtain sound | ⟨before, other, after, why, rfl, sound, offends⟩ := ih
    · by_cases last : ∃ why, Offends members member why
      · obtain ⟨why, offends⟩ := last
        exact .inr ⟨members, member, [], why, rfl, sound, offends⟩
      · exact .inl (sound_concat.mpr ⟨sound, not_exists.mp last⟩)
    · exact .inr ⟨before, other, after ++ [member], why, by simp, sound, offends⟩

end Pinpoint.Excerpt.Record
