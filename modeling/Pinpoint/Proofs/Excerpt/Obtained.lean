import Pinpoint.Diagnostic.Basic
import Pinpoint.Excerpt.Recut
import Pinpoint.Proofs.Record.Completion

/-! Every way to an excerpt. An excerpt is checked when it is made of its parts or read from JSON,
and not when it is cut out of a text; that it names a marked line holds in either case. -/
namespace Pinpoint.Excerpt

/-- The ways in which an excerpt comes about. -/
inductive Obtained : Excerpt → Prop where
  | checked {e f : Excerpt} : e.check = .ok f → Obtained f
  | read {text : String} {e : Excerpt} : Record.read text = .ok e → Obtained e
  | around {text : Option String} {line : Option UInt64} {border : UInt64} {e : Excerpt} :
    around? text line border = .ok (some e) → Obtained e
  /-- One excerpt after another, each cut out of the lines of the one before it. -/
  | cuts {text last : String} {steps : List Cut} {excerpts : List (Option Excerpt)} {e : Excerpt} :
    Excerpt.cuts text steps = .ok (excerpts, last) → some e ∈ excerpts → Obtained e
  /-- The same, out of the lines of an excerpt that came about in any way. -/
  | recut {f : Excerpt} {separator last : String} {steps : List Cut}
    {excerpts : List (Option Excerpt)} {e : Excerpt} : Obtained f →
    Excerpt.cuts (f.joined separator) steps = .ok (excerpts, last) → some e ∈ excerpts →
    Obtained e
  | diagnosed {d : Diagnostic} {border : UInt64} {e : Excerpt} :
    d.excerpt? border = .ok (some e) → Obtained e
  | listed {d : Diagnostic} {border : UInt64} {log log' : List Notice} {l : Listing} :
    (d.listing? border).run log = (.ok (some l), log') → Obtained l.excerpt
  | listedByDefault {d : Diagnostic} {log log' : List Notice} {l : Listing} :
    d.defaultListing?.run log = (.ok (some l), log') → Obtained l.excerpt
  /-- What a listing shows of an excerpt that came about in any way. -/
  | shown {e : Excerpt} {column : Option UInt64} {name : Option String} :
    Obtained e → Obtained (Listing.mk e column name).excerpt

theorem around?_of_cut {text next : String} {c : Cut} {e : Excerpt}
    (made : cut text c = .ok (some e, next)) :
    around? (some text) c.line c.border = .ok (some e) := by
  obtain ⟨found, around, made⟩ := bind_eq_ok_iff.mp made
  cases found with
  | some f =>
    cases made
    exact around
  | none => cases made

/-- Each excerpt of a row of cuts is cut out of some text. -/
theorem exists_around?_of_cuts {text last : String} {steps : List Cut}
    {excerpts : List (Option Excerpt)} {e : Excerpt}
    (made : cuts text steps = .ok (excerpts, last)) (there : some e ∈ excerpts) :
    ∃ (from? : String) (line : Option UInt64) (border : UInt64),
      around? (some from?) line border = .ok (some e) := by
  induction steps generalizing text excerpts last with
  | nil =>
    cases made
    cases there
  | cons c steps ih =>
    obtain ⟨⟨first, next⟩, cutFirst, made⟩ := bind_eq_ok_iff.mp made
    obtain ⟨⟨others, final⟩, cutOthers, made⟩ := bind_eq_ok_iff.mp made
    cases made
    rcases List.mem_cons.mp there with same | among
    · subst same
      exact ⟨text, c.line, c.border, around?_of_cut cutFirst⟩
    · exact ih cutOthers among

theorem valid_of_cuts {text last : String} {steps : List Cut} {excerpts : List (Option Excerpt)}
    {e : Excerpt} (made : cuts text steps = .ok (excerpts, last)) (there : some e ∈ excerpts) :
    e.Valid := by
  obtain ⟨whole, line, border, around⟩ := exists_around?_of_cuts made there
  exact valid_of_around? around

theorem valid_of_listing? {d : Diagnostic} {border : UInt64} {log log' : List Notice}
    {l : Listing} (made : (d.listing? border).run log = (.ok (some l), log')) :
    l.excerpt.Valid := by
  obtain ⟨found, -⟩ := Diagnostic.listing?_eq_some_iff.mp made
  exact valid_of_around? found

theorem Obtained.valid {e : Excerpt} (obtained : Obtained e) : e.Valid := by
  induction obtained with
  | checked made =>
    obtain ⟨rfl, valid⟩ := check_eq_ok_iff.mp made
    exact valid
  | read made => exact Record.valid_of_read made
  | around made => exact valid_of_around? made
  | cuts made there => exact valid_of_cuts made there
  | recut _ made there => exact valid_of_cuts made there
  | diagnosed made => exact valid_of_around? made
  | listed made => exact valid_of_listing? made
  | listedByDefault made => exact valid_of_listing? made
  | shown _ ih => exact ih

/-- However an excerpt came about, it has lines, they are numbered from 1 on, and the marked line is
one of them. So checking it once more changes nothing. -/
theorem obtained_sound {e : Excerpt} (obtained : Obtained e) :
    e.lines ≠ [] ∧ 1 ≤ e.firstLine.toNat ∧ e.markedIndex.toNat < e.lines.length ∧
      (∃ marked ∈ e.lines, e.markedLine? = some marked) ∧
      check ⟨e.firstLine, e.lines, e.markedIndex⟩ = .ok e := by
  have valid := obtained.valid
  have marked := valid.markedIndex_lt
  have positive : e.firstLine.toNat ≠ 0 := by
    intro zero
    exact valid.firstLine_ne_zero (UInt64.toNat_inj.mp zero)
  refine ⟨valid.lines_ne_nil, Nat.pos_of_ne_zero positive, marked, ?_, ?_⟩
  · exact ⟨e.lines[e.markedIndex.toNat], List.getElem_mem marked, List.getElem?_eq_getElem marked⟩
  · exact check_eq_ok_iff.mpr ⟨rfl, valid⟩

/-- The lines of an excerpt that was read from JSON, of which the third is gone around. -/
theorem obtained_sound_recut :
    Obtained ⟨2, ["b", "c"], 1⟩ ∧
      (∃ marked ∈ ["b", "c"], markedLine? ⟨2, ["b", "c"], 1⟩ = some marked) ∧
      check ⟨2, ["b", "c"], 1⟩ = .ok ⟨2, ["b", "c"], 1⟩ := by
  have first : Record.read "[7,[\"a\",\"b\",\"c\",\"\"],3]" =
      .ok ⟨7, ["a", "b", "c", ""], 3⟩ := by
    rfl
  have steps : cuts (joined ⟨7, ["a", "b", "c", ""], 3⟩ "\r\n")
      [⟨some 9, 1, ""⟩, ⟨some 3, 1, "\n"⟩] = .ok ([none, some ⟨2, ["b", "c"], 1⟩], "b\nc") := by
    rfl
  have obtained : Obtained ⟨2, ["b", "c"], 1⟩ := .recut (.read first) steps (by simp)
  obtain ⟨-, -, -, marked, checked⟩ := obtained_sound obtained
  exact ⟨obtained, marked, checked⟩

end Pinpoint.Excerpt
