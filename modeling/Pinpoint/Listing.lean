import Pinpoint.Excerpt.Basic
import Pinpoint.Place
import Pinpoint.Text.Width

/-! An excerpt as it is shown: a heading that names the place, the lines behind a gutter with their
numbers, and a caret below the marked line when a column is known. The cells in front of the caret
are counted in a word; `caretRow` says what comes out where numbers have no end. -/
namespace Pinpoint

/-- An excerpt together with what is known about the place that it marks. -/
structure Listing where
  excerpt : Excerpt
  /-- The column within the marked line, counted from 1. -/
  column : Option UInt64
  /-- The name of the text. -/
  name : Option String
  deriving DecidableEq, Repr

namespace Listing

/-- The logarithm to the base ten, rounded down. -/
def logTen (n : Nat) : Nat :=
  if n < 10 then 0 else logTen (n / 10) + 1

def digitCount (n : UInt64) : Nat :=
  if n = 0 then 1 else logTen n.toNat + 1

def spaces (count : Nat) : String := String.ofList (List.replicate count ' ')

/-- A text behind as many spaces as make it this long. -/
def rightAligned (length : Nat) (text : String) : String :=
  spaces (length - text.length) ++ text

def heading (l : Listing) (gutter : Nat) (marked : UInt64) : String :=
  spaces gutter ++ "--> " ++ placeText l.name (some marked) ++
    match l.column with
    | some column => ":" ++ toString column
    | none => ""

/-- A line behind its number. An empty line leaves no space behind the bar. -/
def lineRow (gutter : Nat) (number : UInt64) (line : String) : String :=
  rightAligned gutter (toString number) ++ " |" ++
    if line = "" then "" else " " ++ String.ofList (Text.expandTabs line.toList)

/-- The cells in front of a column. Beyond the end of the line, the caret stands in the cell after
its last character. -/
def caretIndent (line : String) (column : UInt64) : Nat :=
  Text.cells Text.displayWidth (line.toList.take (column.toNat - 1))

def caretRow (gutter : Nat) (line : String) (column : UInt64) : String :=
  spaces gutter ++ " | " ++ spaces (caretIndent line column) ++ "^"

def countCells (cs : List Char) : Except Overflow UInt64 :=
  cs.foldlM (fun count c => addWord count (Text.displayWidth c)) 0

/-- The row with the caret, if the cells in front of the column can be counted. -/
def caretRow? (gutter : Nat) (line : String) (column : UInt64) : Except Overflow String := do
  let indent ← countCells (line.toList.take (column.toNat - 1))
  return spaces gutter ++ " | " ++ spaces indent.toNat ++ "^"

/-- A line behind its number, and below the marked line the caret. -/
def lineRows (l : Listing) (gutter : Nat) (marked number : UInt64) (line : String) :
    Except Overflow (List String) := do
  let row := lineRow gutter number line
  match l.column with
  | some column =>
    if number = marked then return [row, ← caretRow? gutter line column] else return [row]
  | none => return [row]

/-- The rows that are shown. The gutter is as wide as the number of the last line. -/
def rows (l : Listing) : Except Overflow (List String) := do
  let gutter := digitCount (← l.excerpt.lastLine)
  let marked ← l.excerpt.markedNumber
  let numbered ← l.excerpt.numbered
  let below ← numbered.mapM fun (number, line) => l.lineRows gutter marked number line
  return l.heading gutter marked :: below.flatten

def render (l : Listing) : Except Overflow String :=
  return "\n".intercalate (← l.rows)

end Listing
end Pinpoint
