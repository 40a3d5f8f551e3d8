import Pinpoint.Overflow

/-! An excerpt: consecutive lines of a text, one of which is marked. Lines are numbered from 1, the
marked line is counted from 0 within the excerpt. An excerpt is plain data; `Excerpt.Valid` says
when it names a marked line, and `Excerpt.check` refuses the others. -/
namespace Pinpoint

structure Excerpt where
  /-- The number of the first line. -/
  firstLine : UInt64
  lines : List String
  /-- The place of the marked line within the lines. -/
  markedIndex : UInt64
  deriving DecidableEq, Repr

namespace Excerpt

/-- What keeps lines, a first number and a marked place from being an excerpt. -/
inductive Defect where
  | noLines
  | lineZero
  | markOutside (index : UInt64) (count : Nat)
  deriving DecidableEq, Repr

def Defect.message : Defect → String
  | .noLines => "context window has no lines"
  | .lineZero => "context window starts at line 0"
  | .markOutside index count =>
    "error line index " ++ toString index ++ " is outside of " ++ toString count ++ " lines"

/-- There are lines, they are numbered from 1 on, and the marked one is one of them. -/
structure Valid (e : Excerpt) : Prop where
  lines_ne_nil : e.lines ≠ []
  firstLine_ne_zero : e.firstLine ≠ 0
  markedIndex_lt : e.markedIndex.toNat < e.lines.length

/-- The first defect, in the order of the constructors of `Defect`. -/
def defect? (e : Excerpt) : Option Defect :=
  if e.lines = [] then some .noLines
  else if e.firstLine = 0 then some .lineZero
  else if e.lines.length ≤ e.markedIndex.toNat then some (.markOutside e.markedIndex e.lines.length)
  else none

/-- The excerpt itself, unless it has a defect. -/
def check (e : Excerpt) : Except Defect Excerpt :=
  match e.defect? with
  | some d => .error d
  | none => .ok e

/-- The number of the last line. The line after it has to have a number as well. -/
def lastLine (e : Excerpt) : Except Overflow UInt64 := do
  subWord (← addWord e.firstLine e.lines.length) 1

def markedNumber (e : Excerpt) : Except Overflow UInt64 :=
  addWord e.firstLine e.markedIndex.toNat

def markedLine? (e : Excerpt) : Option String :=
  e.lines[e.markedIndex.toNat]?

def numbered (e : Excerpt) : Except Overflow (List (UInt64 × String)) :=
  e.lines.zipIdx.mapM fun (line, index) => return (← addWord e.firstLine index, line)

theorem defect?_eq_none_iff (e : Excerpt) : e.defect? = none ↔ e.Valid := by
  unfold defect?
  constructor
  · intro sound
    split at sound
    · cases sound
    split at sound
    · cases sound
    split at sound
    · cases sound
    exact ⟨‹_›, ‹_›, by omega⟩
  · intro valid
    rw [if_neg valid.lines_ne_nil, if_neg valid.firstLine_ne_zero,
      if_neg (Nat.not_le.mpr valid.markedIndex_lt)]

/-- The check lets exactly the valid excerpts through, and does not change them. -/
theorem check_eq_ok_iff {e f : Excerpt} : e.check = .ok f ↔ e = f ∧ e.Valid := by
  rw [← defect?_eq_none_iff]
  unfold check
  cases h : e.defect? <;> simp

instance (e : Excerpt) : Decidable e.Valid :=
  decidable_of_iff _ (defect?_eq_none_iff e)

theorem Valid.exists_markedLine {e : Excerpt} (valid : e.Valid) :
    ∃ line, e.markedLine? = some line :=
  ⟨_, List.getElem?_eq_getElem valid.markedIndex_lt⟩

theorem mapM_addWord {first : UInt64} {lines : List String} {start : Nat}
    (fits : first.toNat + start + lines.length ≤ UInt64.size) :
    ((lines.zipIdx start).mapM fun (line, index) => return (← addWord first index, line)) =
      .ok ((lines.zipIdx (first.toNat + start)).map fun (line, number) =>
        (UInt64.ofNat number, line)) := by
  induction lines generalizing start with
  | nil => rfl
  | cons line lines ih =>
    rw [List.length_cons] at fits
    have number : addWord first start = .ok (UInt64.ofNat (first.toNat + start)) := by
      rw [addWord_eq_ok_iff, UInt64.toNat_ofNat_of_lt' (by omega)]
    have rest := @ih (start + 1) (by omega)
    rw [List.zipIdx_cons, List.mapM_cons, rest]
    simp only [number, bind, Except.bind]
    rfl

theorem numbered_eq {e : Excerpt} (fits : e.firstLine.toNat + e.lines.length ≤ UInt64.size) :
    e.numbered = .ok ((e.lines.zipIdx e.firstLine.toNat).map fun (line, number) =>
      (UInt64.ofNat number, line)) :=
  mapM_addWord fits

/-- The last line has a number exactly if a line behind it would have one. -/
theorem lastLine_eq_ok_iff {e : Excerpt} {last : UInt64} : e.lastLine = .ok last ↔
    last.toNat + 1 = e.firstLine.toNat + e.lines.length ∧
      e.firstLine.toNat + e.lines.length < UInt64.size := by
  rw [lastLine, bind_eq_ok_iff]
  simp only [addWord_eq_ok_iff, subWord_eq_ok_iff, UInt64.toNat_one]
  constructor
  · rintro ⟨behind, sum, difference⟩
    have bound := behind.toNat_lt_size
    omega
  · rintro ⟨sum, fits⟩
    obtain ⟨behind, value⟩ := exists_word fits
    exact ⟨behind, value, by omega⟩

/-- The numbers of the lines follow one another, and the lines are all of them in their order. -/
theorem numbers_of_numbered {e : Excerpt} {numbered : List (UInt64 × String)}
    (fits : e.firstLine.toNat + e.lines.length ≤ UInt64.size) (made : e.numbered = .ok numbered) :
    numbered.map (·.1.toNat) = List.range' e.firstLine.toNat e.lines.length ∧
      numbered.map (·.2) = e.lines := by
  rw [numbered_eq fits, Except.ok.injEq] at made
  subst made
  rw [List.map_map, List.map_map]
  constructor
  · have words : ∀ p ∈ e.lines.zipIdx e.firstLine.toNat,
        (UInt64.ofNat p.2).toNat = p.2 := by
      intro p there
      have bound := List.snd_lt_of_mem_zipIdx there
      exact UInt64.toNat_ofNat_of_lt' (by omega)
    exact (List.map_congr_left words).trans (List.zipIdx_map_snd _ _)
  · exact List.zipIdx_map_fst _ _

end Excerpt
end Pinpoint
