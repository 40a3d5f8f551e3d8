/-! A text as its lines. A line ends at a newline; a carriage return directly before the newline
belongs to the line end, any other one is a character of its line. Empty lines at the end of a
text do not count, and the empty text is one empty line. -/
namespace Pinpoint.Text

/-- The stretches of a text between its line ends, the last one being what follows the last line
end. -/
def segments : List Char → List (List Char)
  | [] => [[]]
  | '\n' :: rest => [] :: segments rest
  | '\r' :: '\n' :: rest => [] :: segments rest
  | c :: rest => (segments rest).modifyHead (c :: ·)

/-- The segments up to the last one that holds a character. -/
def dropBlankEnd (segs : List (List Char)) : List (List Char) :=
  (segs.reverse.dropWhile List.isEmpty).reverse

/-- The lines of a text, without their line ends. -/
def lines (text : String) : List String :=
  if text = "" then [""] else (dropBlankEnd (segments text.toList)).map String.ofList

/-- A text that a memory can hold. It takes less than `2 ^ 63` bytes. -/
def Storable (text : String) : Prop :=
  text.utf8ByteSize < 1 <<< 63

instance (text : String) : Decidable (Storable text) :=
  inferInstanceAs (Decidable (_ < _))

theorem segments_ne_nil (cs : List Char) : segments cs ≠ [] := by
  fun_induction segments cs with
  | case1 | case2 | case3 => simp
  | case4 c rest _ _ ih =>
    cases h : segments rest with
    | nil => exact absurd h ih
    | cons s more => simp

/-- The last of the counted segments holds a character. -/
theorem getLast?_dropBlankEnd {segs : List (List Char)} {s : List Char}
    (h : (dropBlankEnd segs).getLast? = some s) : s ≠ [] := by
  simp only [dropBlankEnd, List.getLast?_reverse] at h
  have nonblank := List.head?_dropWhile_not List.isEmpty segs.reverse
  rw [h] at nonblank
  simpa using nonblank

theorem length_segments (cs : List Char) : (segments cs).length = cs.count '\n' + 1 := by
  fun_induction segments cs with
  | case1 => rfl
  | case2 rest ih => rw [List.length_cons, ih, List.count_cons_self]
  | case3 rest ih =>
    rw [List.length_cons, ih, List.count_cons_of_ne (by decide), List.count_cons_self]
  | case4 c rest other _ ih => rw [List.length_modifyHead, ih, List.count_cons_of_ne other]

theorem length_dropBlankEnd_le (segs : List (List Char)) :
    (dropBlankEnd segs).length ≤ segs.length := by
  have shorter := (List.dropWhile_sublist List.isEmpty (l := segs.reverse)).length_le
  rw [List.length_reverse] at shorter
  rwa [dropBlankEnd, List.length_reverse]

theorem length_le_utf8ByteSize (cs : List Char) : cs.length ≤ (String.ofList cs).utf8ByteSize := by
  induction cs with
  | nil => exact Nat.zero_le _
  | cons c cs ih =>
    rw [String.ofList_cons, String.utf8ByteSize_append, String.utf8ByteSize_singleton]
    have positive := c.utf8Size_pos
    rw [List.length_cons]
    omega

/-- The lines of a text that a memory can hold can be counted in a word, and so can one more. -/
theorem Storable.length_lines_succ_lt {text : String} (storable : Storable text) :
    (lines text).length + 1 < UInt64.size := by
  have bytes := length_le_utf8ByteSize text.toList
  have newlines := List.count_le_length (a := '\n') (l := text.toList)
  rw [String.ofList_toList] at bytes
  unfold Storable at storable
  unfold lines
  split
  · decide
  · have kept := length_dropBlankEnd_le (segments text.toList)
    rw [length_segments] at kept
    rw [List.length_map]
    have words : UInt64.size = 2 ^ 64 := rfl
    omega

theorem Storable.length_lines_lt {text : String} (storable : Storable text) :
    (lines text).length < UInt64.size :=
  Nat.lt_of_succ_lt storable.length_lines_succ_lt

end Pinpoint.Text
