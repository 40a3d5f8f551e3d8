import Pinpoint.Text.Range
import Pinpoint.Text.Width.Ranges

/-! How many cells of a display a text takes. Characters are counted one by one, never as
sequences. A tab takes no cell of its own; a text for display has spaces in its place. -/
namespace Pinpoint.Text

def charWidth (c : Char) : Nat :=
  if inRanges Width.zero c.toNat then 0
  else if inRanges Width.two c.toNat then 2
  else if inRanges Width.three c.toNat then 3
  else 1

/-- The number of cells of characters, each of which takes so many. -/
def cells (each : Char → Nat) (cs : List Char) : Nat :=
  cs.foldr (fun c more => each c + more) 0

def width (cs : List Char) : Nat :=
  cells charWidth cs

def tab : List Char := List.replicate 4 ' '

def expandTabs (cs : List Char) : List Char :=
  cs.flatMap fun c => if c = '\t' then tab else [c]

/-- The number of cells of a character in a text whose tabs are written as spaces. -/
def displayWidth (c : Char) : Nat :=
  if c = '\t' then tab.length else charWidth c

@[simp]
theorem cells_nil (each : Char → Nat) : cells each [] = 0 := rfl

@[simp]
theorem cells_cons (each : Char → Nat) (c : Char) (cs : List Char) :
    cells each (c :: cs) = each c + cells each cs := rfl

theorem cells_append (each : Char → Nat) (as bs : List Char) :
    cells each (as ++ bs) = cells each as + cells each bs := by
  induction as with
  | nil => simp
  | cons a as ih =>
    rw [List.cons_append, cells_cons, cells_cons, ih]
    omega

theorem cells_le_of_prefix (each : Char → Nat) {as bs : List Char} (front : as <+: bs) :
    cells each as ≤ cells each bs := by
  obtain ⟨rest, rfl⟩ := front
  rw [cells_append]
  exact Nat.le_add_right _ _

theorem cells_le {each : Char → Nat} {most : Nat} (bound : ∀ c, each c ≤ most) (cs : List Char) :
    cells each cs ≤ most * cs.length := by
  induction cs with
  | nil => exact Nat.zero_le _
  | cons c cs ih =>
    have first := bound c
    rw [cells_cons, List.length_cons, Nat.mul_succ]
    omega

theorem charWidth_le (c : Char) : charWidth c ≤ 3 := by
  unfold charWidth
  split
  · decide
  split
  · decide
  split <;> decide

/-- Nothing takes more cells than a tab. -/
theorem displayWidth_le (c : Char) : displayWidth c ≤ 4 := by
  unfold displayWidth
  split
  · decide
  · exact Nat.le_succ_of_le (charWidth_le c)

theorem width_append (as bs : List Char) : width (as ++ bs) = width as + width bs :=
  cells_append charWidth as bs

theorem expandTabs_append (as bs : List Char) :
    expandTabs (as ++ bs) = expandTabs as ++ expandTabs bs := by
  simp [expandTabs]

theorem expandTabs_eq_self {cs : List Char} (tab : '\t' ∉ cs) : expandTabs cs = cs := by
  induction cs with
  | nil => rfl
  | cons c cs ih =>
    rw [List.mem_cons, not_or] at tab
    rw [expandTabs, List.flatMap_cons, if_neg (Ne.symm tab.1)]
    exact congrArg (c :: ·) (ih tab.2)

theorem mem_of_mem_expandTabs {c : Char} {cs : List Char} (there : c ∈ expandTabs cs) :
    c = ' ' ∨ c ≠ '\t' ∧ c ∈ cs := by
  obtain ⟨d, among, shown⟩ := List.mem_flatMap.mp there
  split at shown
  · exact .inl (List.eq_of_mem_replicate shown)
  · rename_i other
    obtain rfl := List.mem_singleton.mp shown
    exact .inr ⟨other, among⟩

/-- The letters, digits and signs of ASCII, and the space. -/
theorem charWidth_of_printable {c : Char} (low : 0x20 ≤ c.toNat) (high : c.toNat < 0x7F) :
    charWidth c = 1 := by
  have zero : inRanges Width.zero c.toNat = false := by
    rw [Width.zero, inRanges, inRanges_eq_false_of_lt high, Bool.or_false, Bool.and_eq_false_iff,
      decide_eq_false_iff_not, decide_eq_false_iff_not]
    omega
  have two : inRanges Width.two c.toNat = false := inRanges_eq_false_of_lt (by omega)
  have three : inRanges Width.three c.toNat = false := inRanges_eq_false_of_lt (by omega)
  simp [charWidth, zero, two, three]

theorem width_eq_length {cs : List Char} (single : ∀ c ∈ cs, charWidth c = 1) :
    width cs = cs.length := by
  induction cs with
  | nil => rfl
  | cons c cs ih =>
    rw [List.forall_mem_cons] at single
    have rest := ih single.2
    unfold width at rest
    rw [width, cells_cons, single.1, rest, List.length_cons, Nat.add_comm]

theorem width_replicate_space (n : Nat) : width (List.replicate n ' ') = n := by
  rw [width_eq_length, List.length_replicate]
  intro c there
  obtain rfl := List.eq_of_mem_replicate there
  exact charWidth_of_printable (by decide) (by decide)

/-- The cells can be counted before the tabs are written as spaces. -/
theorem width_expandTabs (cs : List Char) : width (expandTabs cs) = cells displayWidth cs := by
  induction cs with
  | nil => rw [expandTabs, List.flatMap_nil, width, cells_nil, cells_nil]
  | cons c cs ih =>
    have first : width (if c = '\t' then tab else [c]) = displayWidth c := by
      unfold displayWidth
      split
      · exact width_replicate_space 4
      · simp [width]
    rw [cells_cons, ← ih, ← first, ← width_append, expandTabs, List.flatMap_cons, expandTabs]

end Pinpoint.Text
