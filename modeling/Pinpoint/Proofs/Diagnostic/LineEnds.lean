import Mathlib.Data.List.Infix
import Pinpoint.Diagnostic.Basic
import Pinpoint.Proofs.Text.Division

/-! Texts that differ in the spelling of their line ends only. Such texts have the same lines, and
the answers about a diagnostic depend on the lines of its text, not on the text. A carriage return
directly before a spelled out line end stands in the way: it would become a part of the shorter
one. -/
namespace Pinpoint

namespace Text

/-- The characters with a newline in the place of each carriage return and newline. -/
def plainEnds : List Char → List Char
  | [] => []
  | '\r' :: '\n' :: rest => '\n' :: plainEnds rest
  | c :: rest => c :: plainEnds rest

theorem plainEnds_eq_nil_iff {cs : List Char} : plainEnds cs = [] ↔ cs = [] := by
  fun_cases plainEnds cs <;> simp

/-- What begins with a newline began with a line end before. -/
theorem lineEnd_of_head?_plainEnds {cs : List Char} (begins : (plainEnds cs).head? = some '\n') :
    cs.head? = some '\n' ∨ ['\r', '\n'] <+: cs := by
  fun_cases plainEnds cs with
  | case1 => cases begins
  | case2 rest => exact .inr (List.prefix_append ['\r', '\n'] rest)
  | case3 c rest other =>
    rw [plainEnds.eq_3 c rest other] at begins
    exact .inl begins

theorem segments_plainEnds {cs : List Char} (sparse : ¬ ['\r', '\r', '\n'] <:+: cs) :
    segments (plainEnds cs) = segments cs := by
  fun_induction plainEnds cs with
  | case1 => rfl
  | case2 rest ih =>
    have behind : ¬ ['\r', '\r', '\n'] <:+: rest :=
      fun among => sparse (among.trans (List.suffix_append ['\r', '\n'] rest).isInfix)
    rw [segments, segments, ih behind]
  | case3 c rest other ih =>
    have behind : ¬ ['\r', '\r', '\n'] <:+: rest := fun among => sparse (List.infix_cons among)
    by_cases newline : c = '\n'
    · subst newline
      rw [segments, segments, ih behind]
    · have alone : c = '\r' → rest.head? ≠ some '\n' := by
        rintro rfl begins
        obtain ⟨more, rfl⟩ := List.head?_eq_some_iff.mp begins
        exact other more rfl rfl
      have alone' : c = '\r' → (plainEnds rest).head? ≠ some '\n' := by
        rintro rfl begins
        rcases lineEnd_of_head?_plainEnds begins with bare | spelled
        · exact alone rfl bare
        · exact sparse ((List.prefix_cons_inj '\r').mpr spelled).isInfix
      rw [segments_cons newline alone, segments_cons newline alone', ih behind]

theorem lines_plainEnds {text : String} (sparse : ¬ ['\r', '\r', '\n'] <:+: text.toList) :
    lines (String.ofList (plainEnds text.toList)) = lines text := by
  have empty : String.ofList (plainEnds text.toList) = "" ↔ text = "" := by
    rw [← String.toList_eq_nil_iff, String.toList_ofList, plainEnds_eq_nil_iff,
      String.toList_eq_nil_iff]
  simp only [lines, empty, String.toList_ofList, segments_plainEnds sparse]

example : lines "a\r\r\nb" = ["a\r", "b"] ∧
    lines (String.ofList (plainEnds "a\r\r\nb".toList)) = ["a", "b"] := by
  decide

end Text

theorem Excerpt.around?_of_lines_eq {text text' : String}
    (same : Text.lines text = Text.lines text') (line : Option UInt64) (border : UInt64) :
    around? (some text) line border = around? (some text') line border := by
  cases line with
  | none => rfl
  | some number => simp only [around?, same]

namespace Diagnostic

/-- Two diagnostics that claim the same place, in texts with the same lines. -/
structure Alike (d d' : Diagnostic) : Prop where
  line : d.site.line = d'.site.line
  column : d.site.column = d'.site.column
  name : d.site.name = d'.site.name
  lines : d.site.text.map Text.lines = d'.site.text.map Text.lines

namespace Alike

variable {d d' : Diagnostic}

theorem excerpt?_eq (alike : d.Alike d') (border : UInt64) :
    d.excerpt? border = d'.excerpt? border := by
  have lines := alike.lines
  rw [excerpt?, excerpt?, alike.line]
  cases whole : d.site.text with
  | none =>
    rw [whole, Option.map_none, eq_comm, Option.map_eq_none_iff] at lines
    rw [lines]
  | some text =>
    rw [whole, Option.map_some, eq_comm, Option.map_eq_some_iff] at lines
    obtain ⟨text', whole', same⟩ := lines
    rw [whole']
    exact Excerpt.around?_of_lines_eq same.symm d'.site.line border

theorem notice_eq (alike : d.Alike d') (border : UInt64) : d.notice border = d'.notice border := by
  have present := congrArg Option.isSome alike.lines
  rw [Option.isSome_map, Option.isSome_map] at present
  rw [notice, notice, alike.line, alike.name, present]

theorem listing?_eq (alike : d.Alike d') (border : UInt64) :
    d.listing? border = d'.listing? border := by
  rw [listing?, listing?, alike.excerpt?_eq, alike.notice_eq, alike.column, alike.name]

end Alike

/-- However the line ends of a text are spelled, the same is shown of it, and the same notices are
left. -/
theorem answers_of_plainEnds {d d' : Diagnostic} {text : String}
    (sparse : ¬ ['\r', '\r', '\n'] <:+: text.toList) (whole : d.site.text = some text)
    (whole' : d'.site.text = some (String.ofList (Text.plainEnds text.toList)))
    (line : d.site.line = d'.site.line) (column : d.site.column = d'.site.column)
    (name : d.site.name = d'.site.name) (border : UInt64) (log : List Notice) :
    d.excerpt? border = d'.excerpt? border ∧
      (d.listing? border).run log = (d'.listing? border).run log ∧
      d.defaultListing?.run log = d'.defaultListing?.run log := by
  have alike : d.Alike d' := by
    refine ⟨line, column, name, ?_⟩
    rw [whole, whole', Option.map_some, Option.map_some, Text.lines_plainEnds sparse]
  refine ⟨alike.excerpt?_eq border, ?_, ?_⟩
  · rw [alike.listing?_eq]
  · rw [defaultListing?, defaultListing?, alike.listing?_eq]

def ofThird (text : String) : Diagnostic :=
  ⟨"bad value", ⟨some 3, some 2, some text, some "x"⟩⟩

/-- Line ends of both kinds, and carriage returns that are no part of one. -/
def mixedEnds : String := "a\rb\r\n\n\rc\r\n\r\n\r"

theorem answers_of_plainEnds_mixed :
    ¬ ['\r', '\r', '\n'] <:+: mixedEnds.toList ∧
      String.ofList (Text.plainEnds mixedEnds.toList) = "a\rb\n\n\rc\n\n\r" ∧
      (ofThird mixedEnds).excerpt? 1 = .ok (some ⟨2, ["", "\rc", ""], 1⟩) ∧
      (ofThird mixedEnds).excerpt? 1 = (ofThird "a\rb\n\n\rc\n\n\r").excerpt? 1 ∧
      ((ofThird mixedEnds).listing? 1).run [] =
        ((ofThird "a\rb\n\n\rc\n\n\r").listing? 1).run [] ∧
      (ofThird mixedEnds).defaultListing?.run [] =
        (ofThird "a\rb\n\n\rc\n\n\r").defaultListing?.run [] := by
  have sparse : ¬ ['\r', '\r', '\n'] <:+: mixedEnds.toList := by decide
  have plain : String.ofList (Text.plainEnds mixedEnds.toList) = "a\rb\n\n\rc\n\n\r" := by decide
  have shown : (ofThird mixedEnds).excerpt? 1 = .ok (some ⟨2, ["", "\rc", ""], 1⟩) := by rfl
  have same := @answers_of_plainEnds (ofThird mixedEnds)
    (ofThird (String.ofList (Text.plainEnds mixedEnds.toList))) mixedEnds sparse rfl rfl rfl rfl rfl
    1 []
  rw [plain] at same
  exact ⟨sparse, plain, shown, same⟩

end Diagnostic
end Pinpoint
