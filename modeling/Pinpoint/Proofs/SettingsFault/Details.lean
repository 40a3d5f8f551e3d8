import Pinpoint.Proofs.Site.Written
import Pinpoint.SettingsFault

/-! Faults at sites that are put together from details. Only what is written last to each field of
the site counts, so that the order of details about different fields does not show in any answer.
The column is a different matter: a line alone that is added later takes the place of the line that
the column was given with, and leaves the column. -/
namespace Pinpoint.SettingsFault

open Site (AgreeLast Detail lastWriter lastWritten)

def atDetails (kind : Kind) (message : String) (details : List Detail) : SettingsFault :=
  ⟨kind, message, .ofDetails details⟩

section

variable (kind : Kind) (message : String) (details : List Detail)

theorem line_atDetails : (atDetails kind message details).diagnostic.site.line =
    lastWritten Detail.line? details :=
  congrArg Site.line (Site.ofDetails_eq details)

theorem column_atDetails : (atDetails kind message details).diagnostic.site.column =
    lastWritten Detail.column? details :=
  congrArg Site.column (Site.ofDetails_eq details)

end

/-- A known column is one on the line that is claimed, exactly if no line alone has been added after
it. If one has, the fault claims this line, and still the column that was given with an earlier
one. -/
theorem column_on_line_iff (kind : Kind) (message : String) (details : List Detail)
    {column : UInt64}
    (known : (atDetails kind message details).diagnostic.site.column = some column) :
    ((∃ line, lastWriter Detail.line? details = some (.lineAndColumn line column) ∧
        (atDetails kind message details).diagnostic.site.line = some line) ↔
      ∀ later, lastWriter Detail.line? details ≠ some (.line later)) ∧
    ∀ later, lastWriter Detail.line? details = some (.line later) →
      (atDetails kind message details).diagnostic.site.line = some later ∧
        ∃ given, lastWriter Detail.column? details = some (.lineAndColumn given column) := by
  rw [column_atDetails] at known
  rw [line_atDetails, lastWritten]
  obtain ⟨given, source, last⟩ := Site.lastWriter_of_column known
  refine ⟨⟨?_, ?_⟩, ?_⟩
  · rintro ⟨line, last, -⟩ later moved
    cases last.symm.trans moved
  · intro unmoved
    obtain last | ⟨later, moved⟩ := last
    · refine ⟨given, last, ?_⟩
      rw [last]
      rfl
    · exact absurd moved (unmoved later)
  · intro later moved
    refine ⟨?_, given, source⟩
    rw [moved]
    rfl

/-- A column of the first line, and later another line without one. -/
def movedOn : List Detail :=
  [.text "a = [\nb = 2", .lineAndColumn 1 5, .name "x", .line 2]

/-- A line, and later another line with a column. -/
def pinned : List Detail :=
  [.line 2, .text "a = [\nb = 2", .lineAndColumn 1 5, .name "x"]

theorem column_on_line_iff_moved_on :
    (atDetails .malformed "m" movedOn).diagnostic.site.column = some 5 ∧
      (atDetails .malformed "m" movedOn).diagnostic.site.line = some 2 ∧
      lastWriter Detail.column? movedOn = some (.lineAndColumn 1 5) ∧
      (atDetails .malformed "m" pinned).diagnostic.site.column = some 5 ∧
      ∃ line, lastWriter Detail.line? pinned = some (.lineAndColumn line 5) ∧
        (atDetails .malformed "m" pinned).diagnostic.site.line = some line := by
  have known : (atDetails .malformed "m" movedOn).diagnostic.site.column = some 5 := rfl
  have known' : (atDetails .malformed "m" pinned).diagnostic.site.column = some 5 := rfl
  obtain ⟨line, given, source⟩ := (column_on_line_iff _ _ _ known).2 2 rfl
  have unmoved : ∀ later, lastWriter Detail.line? pinned ≠ some (.line later) := by
    rintro later ⟨⟩
  cases source
  exact ⟨known, line, rfl, known', (column_on_line_iff _ _ _ known').1.mpr unmoved⟩

/-- A known column need not be one on the line that is claimed. -/
theorem not_column_on_line :
    ¬ ∀ (kind : Kind) (message : String) (details : List Detail) (column : UInt64),
      (atDetails kind message details).diagnostic.site.column = some column →
      ∃ line, lastWriter Detail.line? details = some (.lineAndColumn line column) ∧
        (atDetails kind message details).diagnostic.site.line = some line := by
  intro claim
  obtain ⟨line, last, -⟩ := claim .malformed "m" movedOn 5 rfl
  cases last

/-- Two diagnostics of which the same is seen: the summary, the excerpt, the listing with what is
left in the log, and the text of the listing. -/
structure SeenAlike (d d' : Diagnostic) : Prop where
  summary : d.summary = d'.summary
  excerpt : ∀ border, d.excerpt? border = d'.excerpt? border
  listing : ∀ border log, (d.listing? border).run log = (d'.listing? border).run log
  text : ∀ border log log' l, (d.listing? border).run log = (.ok (some l), log') →
    ∃ l', (d'.listing? border).run log = (.ok (some l'), log') ∧ l.render = l'.render

/-- What is written last decides on the site and on the fault, and so on all that is seen of it. In
which order the fields are written does not show. -/
theorem agreeLast_decides (kind : Kind) (message : String) (details others : List Detail) :
    (Site.ofDetails details = Site.ofDetails others ↔ AgreeLast details others) ∧
    (atDetails kind message details = atDetails kind message others ↔
      AgreeLast details others) ∧
    (AgreeLast details others →
      SeenAlike (atDetails kind message details).diagnostic
        (atDetails kind message others).diagnostic) := by
  have same_iff : atDetails kind message details = atDetails kind message others ↔
      AgreeLast details others := by
    rw [← Site.ofDetails_eq_iff, atDetails, atDetails, SettingsFault.mk.injEq]
    simp only [true_and]
  refine ⟨Site.ofDetails_eq_iff, same_iff, ?_⟩
  intro agree
  rw [same_iff.mpr agree]
  refine ⟨rfl, fun _ => rfl, fun _ _ => rfl, ?_⟩
  intro border log log' l made
  exact ⟨l, made, rfl⟩

/-- Details in no particular order, some of which are replaced by later ones. -/
def jumbled : List Detail :=
  [.line 2, .name "y", .lineAndColumn 1 4, .text "a = [", .name "x"]

/-- Other details, of which the same is left. -/
def orderly : List Detail :=
  [.text "a = [", .name "x", .lineAndColumn 3 4, .line 1]

theorem agreeLast_decides_jumbled :
    AgreeLast jumbled orderly ∧ Site.ofDetails jumbled = Site.ofDetails orderly ∧
      ((atDetails .invalid "m" jumbled).diagnostic.listing? 0).run [] =
        (.ok (some ⟨⟨1, ["a = ["], 0⟩, some 4, some "x"⟩), []) ∧
      (atDetails .invalid "m" jumbled).diagnostic.summary = "invalid setting: m in x:1" ∧
      Site.ofDetails [.line 1, .line 2] ≠ Site.ofDetails [.line 2, .line 1] := by
  have agree : AgreeLast jumbled orderly := ⟨rfl, rfl, rfl, rfl⟩
  obtain ⟨same, -, alike⟩ := agreeLast_decides .invalid "m" jumbled orderly
  refine ⟨agree, same.mpr agree, ?_, ?_, ?_⟩
  · rw [(alike agree).listing]
    rfl
  · rw [(alike agree).summary]
    rfl
  · intro equal
    have line := ((agreeLast_decides .invalid "m" _ _).1.mp equal).line
    cases line

end Pinpoint.SettingsFault
