import Pinpoint.Excerpt.Record.Writer
import Pinpoint.Proofs.Json.Written
import Pinpoint.Proofs.Record.Completion
import Pinpoint.Proofs.Record.Verdict

/-! Reading what was written. The JSON text of an excerpt spells an object with the three fields,
and the excerpt that this object says is the one that was written. -/
namespace Pinpoint.Excerpt.Record

open Json (Value Numeral Blanks Spells SpellsItems SpellsMember SpellsText)

def toValue (e : Excerpt) : Value :=
  .object [(Field.firstLine.key, .number (.ofNat e.firstLine.toNat)),
    (Field.lines.key, .list (e.lines.map .string)),
    (Field.markedIndex.key, .number (.ofNat e.markedIndex.toNat))]

theorem ofValue_toValue (e : Excerpt) : ofValue (toValue e) = checked e := by
  have first : Fields.putMember {} (Field.firstLine.key, .number (.ofNat e.firstLine.toNat)) =
      .ok ⟨some e.firstLine, none, none⟩ := by
    rw [putMember_of_new rfl]
    exact put_firstLine _ (isWord_ofNat e.firstLine)
  have lines : Fields.putMember ⟨some e.firstLine, none, none⟩
      (Field.lines.key, .list (e.lines.map .string)) =
      .ok ⟨some e.firstLine, some e.lines, none⟩ := by
    rw [putMember_of_new rfl]
    exact put_lines _ rfl
  have marked : Fields.putMember ⟨some e.firstLine, some e.lines, none⟩
      (Field.markedIndex.key, .number (.ofNat e.markedIndex.toNat)) =
      .ok ⟨some e.firstLine, some e.lines, some e.markedIndex⟩ := by
    rw [putMember_of_new rfl]
    exact put_markedIndex _ (isWord_ofNat e.markedIndex)
  refine @ofMembers_of_all _ ⟨some e.firstLine, some e.lines, some e.markedIndex⟩ e ?_ rfl
  simp only [List.foldlM_cons, first, lines, marked, bind, Except.bind]
  rfl

theorem blanks_nil : Blanks [] := by simp [Blanks]

theorem spellsItems_of_forall₂ {items : List Value} {spellings : List (List Char)}
    (some : items ≠ []) (spell : List.Forall₂ Spells items spellings) :
    SpellsItems items ([','].intercalate spellings) := by
  induction spell with
  | nil => exact absurd rfl some
  | @cons item spelled items spellings first rest ih =>
    cases rest with
    | nil => simpa using SpellsItems.last blanks_nil first blanks_nil
    | @cons next nextSpelled more moreSpelled =>
      have others := ih (by simp)
      simpa [List.intercalate] using SpellsItems.more blanks_nil first blanks_nil others

theorem spells_writeList (lines : List String) :
    Spells (.list (lines.map .string)) (writeList (lines.map Json.writeText)) := by
  cases lines with
  | nil => exact .emptyList blanks_nil
  | cons line lines =>
    refine .list (spellsItems_of_forall₂ (by simp) ?_)
    rw [List.forall₂_map_left_iff, List.forall₂_map_right_iff, List.forall₂_same]
    intro text _
    exact .string (Json.spellsString_writeText text)

theorem spellsMember_writeMember (field : Field) {value : Value} {spelled : List Char}
    (spells : Spells value spelled) :
    SpellsMember (field.key, value) (writeMember field spelled) := by
  simpa [writeMember] using SpellsMember.pair blanks_nil
    (Json.spellsString_writeText field.key) blanks_nil blanks_nil spells blanks_nil

theorem spells_write (e : Excerpt) : Spells (toValue e) (write e).toList := by
  have first := spellsMember_writeMember .firstLine (Json.spells_toDigits e.firstLine.toNat)
  have lines := spellsMember_writeMember .lines (spells_writeList e.lines)
  have marked := spellsMember_writeMember .markedIndex (Json.spells_toDigits e.markedIndex.toNat)
  have members := Json.SpellsMembers.more first (.more lines (.last marked))
  simpa [write, writeWord, toValue, List.intercalate] using Spells.object members

/-- Reading what was written is checking it. -/
theorem read_write_eq_checked (e : Excerpt) {before after : String} (blanks : Blanks before.toList)
    (blanks' : Blanks after.toList) : read (before ++ write e ++ after) = checked e := by
  have spells : SpellsText (toValue e) (before ++ write e ++ after).toList := by
    simpa using SpellsText.padded blanks (spells_write e) blanks'
  rw [read_eq_ofValue spells, ofValue_toValue]

/-- An excerpt without a defect is read as it was written, whatever blanks stand around it. -/
theorem read_write {e : Excerpt} (valid : e.Valid) {before after : String}
    (blanks : Blanks before.toList) (blanks' : Blanks after.toList) :
    read (before ++ write e ++ after) = .ok e := by
  rw [read_write_eq_checked e blanks blanks']
  exact checked_eq_ok_iff.mpr ⟨rfl, valid⟩

/-- The greatest number, and characters that have escapes of every kind or none. -/
def escapes : Excerpt :=
  ⟨18446744073709551615, ["", "\"\\/\x00\x08\t\n\x0c\r\x1f\x7fé\uFFFF😀"], 1⟩

theorem read_write_escapes :
    escapes.Valid ∧ Blanks " \t".toList ∧ Blanks "\r\n".toList ∧
      read (" \t" ++ write escapes ++ "\r\n") = .ok escapes := by
  have valid : escapes.Valid := by decide
  have before : Blanks " \t".toList := by simp [Blanks]
  have after : Blanks "\r\n".toList := by simp [Blanks]
  exact ⟨valid, before, after, read_write valid before after⟩

end Pinpoint.Excerpt.Record
