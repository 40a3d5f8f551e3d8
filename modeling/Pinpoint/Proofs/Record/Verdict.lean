import Mathlib.Data.List.Basic
import Pinpoint.Excerpt.Record.Spelling
import Pinpoint.Proofs.Json.Written
import Pinpoint.Proofs.Record.Collect
import Pinpoint.Proofs.Record.Completion

/-! Reading comes to what the rules say. Every value has a verdict, and reading a text that spells
the value gives it, so the rules leave no room for a second one. -/
namespace Pinpoint.Excerpt.Record

open Json (Value Numeral)

theorem Checks.checked_eq {e : Excerpt} {outcome : Except ReadFailure Excerpt}
    (checks : Checks e outcome) : checked e = outcome := by
  cases checks with
  | valid valid => exact checked_eq_ok_iff.mpr ⟨rfl, valid⟩
  | noLines empty =>
    rw [checked, check, defect?, if_pos empty]
    rfl
  | lineZero nonempty zero =>
    rw [checked, check, defect?, if_neg nonempty, if_pos zero]
    rfl
  | markOutside nonempty nonzero outside =>
    rw [checked, check, defect?, if_neg nonempty, if_neg nonzero, if_pos outside]
    rfl

theorem exists_checks (e : Excerpt) : ∃ outcome, Checks e outcome := by
  by_cases empty : e.lines = []
  · exact ⟨_, .noLines empty⟩
  by_cases zero : e.firstLine = 0
  · exact ⟨_, .lineZero empty zero⟩
  by_cases outside : e.lines.length ≤ e.markedIndex.toNat
  · exact ⟨_, .markOutside empty zero outside⟩
  · exact ⟨_, .valid ⟨empty, zero, Nat.not_le.mp outside⟩⟩

theorem excerpt_eq_error {fields : Fields} {field : Field} (missing : fields.has field = false)
    (first : ∀ earlier : Field, earlier.index < field.index → fields.has earlier = true) :
    fields.excerpt = .error field := by
  obtain ⟨firstLine, lines, markedIndex⟩ := fields
  cases field with
  | firstLine =>
    cases firstLine with
    | none => rfl
    | some => cases missing
  | lines =>
    obtain ⟨v, rfl⟩ := Option.isSome_iff_exists.mp (first .firstLine (by decide))
    cases lines with
    | none => rfl
    | some => cases missing
  | markedIndex =>
    obtain ⟨v, rfl⟩ := Option.isSome_iff_exists.mp (first .firstLine (by decide))
    obtain ⟨read, rfl⟩ := Option.isSome_iff_exists.mp (first .lines (by decide))
    cases markedIndex with
    | none => rfl
    | some => cases missing

theorem excerpt_eq_ok {members : List (String × Value)} {fields : Fields} {e : Excerpt}
    {first lines marked : Value} (collects : Collects members fields)
    (hasFirst : (Field.firstLine.key, first) ∈ members)
    (hasLines : (Field.lines.key, lines) ∈ members)
    (hasMarked : (Field.markedIndex.key, marked) ∈ members) (isFirst : IsWord first e.firstLine)
    (isLines : IsLines lines e.lines) (isMarked : IsWord marked e.markedIndex) :
    fields.excerpt = .ok e := by
  obtain ⟨v, readFirst, isFirst'⟩ := collects.holds .firstLine first hasFirst
  obtain ⟨read, readLines, isLines'⟩ := collects.holds .lines lines hasLines
  obtain ⟨w, readMarked, isMarked'⟩ := collects.holds .markedIndex marked hasMarked
  obtain rfl := isFirst.unique isFirst'
  obtain rfl := isLines.unique isLines'
  obtain rfl := isMarked.unique isMarked'
  obtain ⟨_, _, _⟩ := fields
  cases readFirst
  cases readLines
  cases readMarked
  rfl

theorem ofMembers_of_missing {members : List (String × Value)} {fields : Fields} {field : Field}
    (folded : members.foldlM Fields.putMember {} = .ok fields)
    (missing : fields.excerpt = .error field) :
    ofMembers members = .error (.refused (.missing field)) := by
  simp only [ofMembers, folded, bind, Except.bind, missing]
  rfl

theorem ofMembers_of_all {members : List (String × Value)} {fields : Fields} {e : Excerpt}
    (folded : members.foldlM Fields.putMember {} = .ok fields) (all : fields.excerpt = .ok e) :
    ofMembers members = checked e := by
  simp only [ofMembers, folded, bind, Except.bind, all]

theorem ofItems_cons {fields : Fields} {field : Field} (missing : fields.excerpt = .error field)
    (value : Value) (more : List Value) :
    ofItems fields (value :: more) = fields.put field value >>= (ofItems · more) := by
  rw [ofItems, missing]

theorem ofItems_put {fields after : Fields} {field : Field} {value : Value}
    (missing : fields.excerpt = .error field) (put : fields.put field value = .ok after)
    (more : List Value) : ofItems fields (value :: more) = ofItems after more := by
  rw [ofItems_cons missing, put]
  rfl

/-- Behind values that suit, the next field is due. -/
theorem ofItems_due {items : List Value} {field : Field}
    (suits : ∀ (earlier : Field) value, earlier.index < field.index →
      items[earlier.index]? = some value → Suits earlier value)
    (long : field.index ≤ items.length) : ∃ fields : Fields, fields.excerpt = .error field ∧
      ofItems {} items = ofItems fields (items.drop field.index) := by
  cases field with
  | firstLine => exact ⟨{}, rfl, rfl⟩
  | lines =>
    obtain ⟨first, more, rfl⟩ := List.exists_cons_of_length_pos long
    obtain ⟨v, isFirst⟩ := suits .firstLine first (by decide) rfl
    exact ⟨⟨some v, none, none⟩, rfl, ofItems_put rfl (put_firstLine _ isFirst) _⟩
  | markedIndex =>
    obtain ⟨first, rest, rfl⟩ := List.exists_cons_of_length_pos (Nat.lt_of_succ_lt long)
    obtain ⟨lines, more, rfl⟩ := List.exists_cons_of_length_pos (Nat.lt_of_succ_lt_succ long)
    obtain ⟨v, isFirst⟩ := suits .firstLine first (by decide) rfl
    obtain ⟨read, isLines⟩ := suits .lines lines (by decide) rfl
    refine ⟨⟨some v, some read, none⟩, rfl, ?_⟩
    rw [ofItems_put rfl (put_firstLine _ isFirst), ofItems_put rfl (put_lines _ isLines)]
    rfl

/-- Behind three values that suit, only the end may come. -/
theorem ofItems_three {first lines marked : Value} {e : Excerpt}
    (isFirst : IsWord first e.firstLine) (isLines : IsLines lines e.lines)
    (isMarked : IsWord marked e.markedIndex) (more : List Value) :
    ofItems {} (first :: lines :: marked :: more) =
      if more = [] then checked e else .error .malformed := by
  rw [ofItems_put rfl (put_firstLine _ isFirst), ofItems_put rfl (put_lines _ isLines),
    ofItems_put rfl (put_markedIndex _ isMarked)]
  cases more <;> rfl

theorem suits_or_item {items : List Value}
    (integral : ∀ value ∈ items.take Field.count, Integral value) :
    (∀ (field : Field) value, items[field.index]? = some value → Suits field value) ∨
      ∃ (field : Field) (value : Value) (why : Mismatch), items[field.index]? = some value ∧
        Misfit field value why ∧ ∀ (earlier : Field) other, earlier.index < field.index →
          items[earlier.index]? = some other → Suits earlier other := by
  obtain suits | ⟨field, unsuitable, earlier⟩ := Field.all_or_first fun field =>
    ∀ value, items[field.index]? = some value → Suits field value
  · exact .inl suits
  · simp only [not_forall] at unsuitable
    obtain ⟨value, there, unsuitable⟩ := unsuitable
    have taken : (items.take Field.count)[field.index]? = some value := by
      rw [List.getElem?_take_of_lt (by cases field <;> decide), there]
    obtain suits | ⟨why, misfit⟩ :=
      suits_or_misfit (integral value (List.mem_of_getElem? taken)) field
    · exact absurd suits unsuitable
    · exact .inr ⟨field, value, why, there, misfit, fun field other lower =>
        earlier field lower other⟩

theorem ofItems_of_item {items : List Value} {field : Field} {value : Value} {why : Mismatch}
    (there : items[field.index]? = some value) (misfit : Misfit field value why)
    (suits : ∀ (earlier : Field) other, earlier.index < field.index →
      items[earlier.index]? = some other → Suits earlier other) :
    ofItems {} items = .error (.refused why) := by
  obtain ⟨inside, same⟩ := List.getElem?_eq_some_iff.mp there
  obtain ⟨fields, due, taken⟩ := ofItems_due suits (Nat.le_of_lt inside)
  rw [taken, List.drop_eq_getElem_cons inside, same, ofItems_cons due, put_of_misfit fields misfit]
  rfl

theorem ofItems_of_short {items : List Value} (short : items.length < Field.count)
    (suits : ∀ (field : Field) value, items[field.index]? = some value → Suits field value) :
    ofItems {} items = .error (.refused (.tooShort items.length)) := by
  obtain ⟨field, place⟩ : ∃ field : Field, field.index = items.length := by
    have lengths : items.length = 0 ∨ items.length = 1 ∨ items.length = 2 := by
      rw [Field.count] at short
      omega
    obtain zero | one | two := lengths
    · exact ⟨.firstLine, zero.symm⟩
    · exact ⟨.lines, one.symm⟩
    · exact ⟨.markedIndex, two.symm⟩
  obtain ⟨fields, due, taken⟩ :=
    ofItems_due (fun earlier value _ => suits earlier value) (Nat.le_of_eq place)
  rw [taken, place, List.drop_length, ofItems, due, ← place]
  rfl

theorem four_of_long {items : List Value} (long : Field.count < items.length) :
    ∃ first lines marked fourth more, items = first :: lines :: marked :: fourth :: more := by
  rw [Field.count] at long
  rcases items with _ | ⟨first, _ | ⟨lines, _ | ⟨marked, _ | ⟨fourth, more⟩⟩⟩⟩
  · simp at long
  · simp at long
  · simp at long
  · simp at long
  · exact ⟨first, lines, marked, fourth, more, rfl⟩

theorem exists_excerpt {first lines marked : Value} {more : List Value}
    (suits : ∀ (field : Field) value,
      (first :: lines :: marked :: more)[field.index]? = some value → Suits field value) :
    ∃ e : Excerpt, IsWord first e.firstLine ∧ IsLines lines e.lines ∧
      IsWord marked e.markedIndex := by
  obtain ⟨v, isFirst⟩ := suits .firstLine first rfl
  obtain ⟨read, isLines⟩ := suits .lines lines rfl
  obtain ⟨w, isMarked⟩ := suits .markedIndex marked rfl
  exact ⟨⟨v, read, w⟩, isFirst, isLines, isMarked⟩

theorem ofValue_of_verdict {value : Value} {outcome : Except ReadFailure Excerpt}
    (integral : IntegralFields value) (verdict : Verdict value outcome) :
    ofValue value = outcome := by
  cases verdict with
  | scalar object list is =>
    have refused := refusal_of_isFound is .excerpt
    cases value with
    | object members => exact absurd rfl (object members)
    | list items => exact absurd rfl (list items)
    | null | bool | number | string =>
      rw [ofValue, refused]
      · rfl
      all_goals assumption
  | member sound offends =>
    rw [ofValue, ofMembers, foldlM_of_offends sound offends fun field value there =>
      integral field value (List.mem_append_left _ there)]
    rfl
  | @missing members field sound absent earlier =>
    obtain ⟨fields, folded, collects⟩ := collects_of_sound sound integral
    have due := excerpt_eq_error (collects.has_eq_false absent) fun other lower =>
      (collects.has_iff other).mpr (earlier other lower)
    exact ofMembers_of_missing folded due
  | @object members first lines marked e outcome sound hasFirst hasLines hasMarked isFirst isLines
      isMarked checks =>
    obtain ⟨fields, folded, collects⟩ := collects_of_sound sound integral
    have all := excerpt_eq_ok collects hasFirst hasLines hasMarked isFirst isLines isMarked
    exact (ofMembers_of_all folded all).trans checks.checked_eq
  | item there misfit suits => exact ofItems_of_item there misfit suits
  | tooShort short suits => exact ofItems_of_short short suits
  | @tooLong items long suits =>
    obtain ⟨first, lines, marked, fourth, more, rfl⟩ := four_of_long long
    obtain ⟨e, isFirst, isLines, isMarked⟩ := exists_excerpt suits
    exact ofItems_three isFirst isLines isMarked (fourth :: more)
  | list isFirst isLines isMarked checks =>
    exact (ofItems_three isFirst isLines isMarked []).trans checks.checked_eq

theorem exists_verdict_object {members : List (String × Value)}
    (integral : IntegralFields (.object members)) :
    ∃ outcome, Verdict (.object members) outcome := by
  obtain sound | ⟨before, member, after, why, rfl, sound, offends⟩ := sound_or_offends members
  · obtain all | ⟨field, missing, earlier⟩ := Field.all_or_first fun field =>
      ∃ value, (field.key, value) ∈ members
    · obtain ⟨first, hasFirst⟩ := all .firstLine
      obtain ⟨lines, hasLines⟩ := all .lines
      obtain ⟨marked, hasMarked⟩ := all .markedIndex
      obtain ⟨fields, -, collects⟩ := collects_of_sound sound integral
      obtain ⟨v, -, isFirst⟩ := collects.holds .firstLine first hasFirst
      obtain ⟨read, -, isLines⟩ := collects.holds .lines lines hasLines
      obtain ⟨w, -, isMarked⟩ := collects.holds .markedIndex marked hasMarked
      obtain ⟨outcome, checks⟩ := exists_checks ⟨v, read, w⟩
      exact ⟨outcome, .object sound hasFirst hasLines hasMarked isFirst isLines isMarked checks⟩
    · exact ⟨_, .missing sound (not_exists.mp missing) earlier⟩
  · exact ⟨_, .member sound offends⟩

theorem exists_verdict_list {items : List Value} (integral : IntegralFields (.list items)) :
    ∃ outcome, Verdict (.list items) outcome := by
  obtain suits | ⟨field, value, why, there, misfit, earlier⟩ := suits_or_item integral
  · obtain short | exactly | long := Nat.lt_trichotomy items.length Field.count
    · exact ⟨_, .tooShort short suits⟩
    · obtain ⟨first, lines, marked, rfl⟩ := List.length_eq_three.mp exactly
      obtain ⟨e, isFirst, isLines, isMarked⟩ := exists_excerpt suits
      obtain ⟨outcome, checks⟩ := exists_checks e
      exact ⟨outcome, .list isFirst isLines isMarked checks⟩
    · exact ⟨_, .tooLong long suits⟩
  · exact ⟨_, .item there misfit earlier⟩

theorem exists_verdict {value : Value} (integral : IntegralFields value) :
    ∃ outcome, Verdict value outcome := by
  cases value with
  | object members => exact exists_verdict_object integral
  | list items => exact exists_verdict_list integral
  | null | bool | number | string =>
    obtain ⟨it, is⟩ := exists_isFound integral.1
    exact ⟨_, .scalar (fun _ => nofun) (fun _ => nofun) is⟩

/-- Reading a text comes to what the rules say of the value that it spells, and to nothing else. -/
theorem read_eq_iff_verdict {value : Value} {text : String}
    (spells : Json.SpellsText value text.toList) (integral : IntegralFields value)
    (outcome : Except ReadFailure Excerpt) : read text = outcome ↔ Verdict value outcome := by
  rw [read_eq_ofValue spells]
  constructor
  · rintro rfl
    obtain ⟨outcome, verdict⟩ := exists_verdict integral
    exact ofValue_of_verdict integral verdict ▸ verdict
  · exact ofValue_of_verdict integral

theorem isWord_ofNat (w : UInt64) : IsWord (.number (.ofNat w.toNat)) w :=
  ⟨_, rfl, Json.denotes_ofNat w.toNat_lt_size⟩

theorem IsWord.integral {value : Value} {w : UInt64} (is : IsWord value w) : Integral value := by
  obtain ⟨n, rfl, denotes⟩ := is
  constructor
  · intro n same
    cases same
    exact ⟨_, denotes⟩
  · intro items n same
    cases same

theorem integral_lines (lines : List String) : Integral (.list (lines.map .string)) := by
  constructor
  · intro n same
    cases same
  · intro items n same item
    cases same
    simp at item

/-- An object with a field twice, and with a member in between that is passed over. -/
def linesTwice : Value :=
  .object [("lines", .list []), ("x", .number { negative := true, whole := [0], fraction := [5] }),
    ("lines", .number { whole := [0] })]

theorem spells_linesTwice :
    Json.SpellsText linesTwice "\x7b\"\\u006cines\":[ ],\"x\":-0.5 ,\"lines\":0\x7d".toList := by
  have nothing : Json.Blanks [] := by simp [Json.Blanks]
  have space : Json.Blanks [' '] := by simp [Json.Blanks]
  have word : Json.SpellsBody "ines".toList "ines".toList :=
    .plain (by decide) (by decide) (by decide) (.plain (by decide) (by decide) (by decide)
      (.plain (by decide) (by decide) (by decide)
        (.plain (by decide) (by decide) (by decide) .nil)))
  have code : Json.SpellsCode 0x6c ['0', '0', '6', 'c'] :=
    @Json.SpellsCode.digits 0 0 6 12 _ _ _ _ (.inl rfl) (.inl rfl) (.inl rfl) (.inl rfl)
  have escaped : Json.SpellsBody "lines".toList "\\u006cines".toList :=
    .code code (by decide) word
  have half : Json.SpellsNumeral { negative := true, whole := [0], fraction := [5] }
      "-0.5".toList :=
    @Json.SpellsNumeral.parts { negative := true, whole := [0], fraction := [5] } _ _ _ .zero
      (.digits (by decide)) .none
  exact .padded nothing (.object (.more
    (.pair nothing (.quotes escaped) nothing nothing (.emptyList space) nothing) (.more
    (.pair nothing (Json.spellsString_writeText "x") nothing nothing (.number half) space) (.last
    (.pair nothing (Json.spellsString_writeText "lines") nothing nothing
      (Json.spells_toDigits 0) nothing))))) nothing

theorem integralFields_linesTwice : IntegralFields linesTwice := by
  intro field value there
  simp only [List.mem_cons, Prod.mk.injEq, List.not_mem_nil, or_false] at there
  obtain ⟨-, rfl⟩ | ⟨unknown, -⟩ | ⟨-, rfl⟩ := there
  · exact integral_lines []
  · exact absurd unknown (by cases field <;> decide)
  · exact (isWord_ofNat 0).integral

/-- An object with its fields in another order, of which the first line is none and the marked line
is not there. -/
def lineZero : Value :=
  .object [("error_line_index", .number { whole := [1] }), ("lines", .list [.string "a"]),
    ("first_line", .number { whole := [0] })]

theorem spells_lineZero : Json.SpellsText lineZero
    "\x7b\"error_line_index\":1,\"lines\":[\"a\"],\"first_line\":0\x7d\n".toList := by
  have nothing : Json.Blanks [] := by simp [Json.Blanks]
  have newline : Json.Blanks ['\n'] := by simp [Json.Blanks]
  have line : Json.SpellsItems [.string "a"] "\"a\"".toList :=
    .last nothing (.string (Json.spellsString_writeText "a")) nothing
  exact .padded nothing (.object (.more
    (.pair nothing (Json.spellsString_writeText "error_line_index") nothing nothing
      (Json.spells_toDigits 1) nothing) (.more
    (.pair nothing (Json.spellsString_writeText "lines") nothing nothing (.list line) nothing)
    (.last (.pair nothing (Json.spellsString_writeText "first_line") nothing nothing
      (Json.spells_toDigits 0) nothing))))) newline

theorem integralFields_lineZero : IntegralFields lineZero := by
  intro field value there
  simp only [List.mem_cons, Prod.mk.injEq, List.not_mem_nil, or_false] at there
  obtain ⟨-, rfl⟩ | ⟨-, rfl⟩ | ⟨-, rfl⟩ := there
  · exact (isWord_ofNat 1).integral
  · exact integral_lines ["a"]
  · exact (isWord_ofNat 0).integral

theorem read_lines_twice :
    (Json.SpellsText linesTwice "\x7b\"\\u006cines\":[ ],\"x\":-0.5 ,\"lines\":0\x7d".toList ∧
      IntegralFields linesTwice ∧ Verdict linesTwice (.error (.refused (.repeated .lines))) ∧
      (Mismatch.repeated .lines).message = "duplicate field `lines`") ∧
    (Json.SpellsText lineZero
        "\x7b\"error_line_index\":1,\"lines\":[\"a\"],\"first_line\":0\x7d\n".toList ∧
      IntegralFields lineZero ∧ Verdict lineZero (.error (.refused (.defect .lineZero))) ∧
      (Mismatch.defect .lineZero).message = "context window starts at line 0") := by
  refine ⟨⟨spells_linesTwice, integralFields_linesTwice, ?_, rfl⟩,
    ⟨spells_lineZero, integralFields_lineZero, ?_, rfl⟩⟩
  · refine (read_eq_iff_verdict spells_linesTwice integralFields_linesTwice _).mp ?_
    exact (read_eq_ofValue spells_linesTwice).trans rfl
  · refine (read_eq_iff_verdict spells_lineZero integralFields_lineZero _).mp ?_
    exact (read_eq_ofValue spells_lineZero).trans rfl

end Pinpoint.Excerpt.Record
