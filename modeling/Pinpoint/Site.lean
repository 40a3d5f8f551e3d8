/-! Where something happened, as far as it is known. A site is put together from details; a later
detail takes the place of an earlier one about the same thing. Lines and columns are claims: they
are not compared with the text. -/
namespace Pinpoint

/-- The place of something that happened to a text. -/
structure Site where
  /-- The number of the line, counted from 1. -/
  line : Option UInt64 := none
  /-- The column within the line, counted from 1. -/
  column : Option UInt64 := none
  /-- The whole text. -/
  text : Option String := none
  /-- The name of the text, such as a file path. -/
  name : Option String := none
  deriving DecidableEq, Repr

namespace Site

inductive Detail where
  | text (text : String)
  | name (name : String)
  /-- The line alone. A column that is known already stays. -/
  | line (line : UInt64)
  | lineAndColumn (line column : UInt64)
  deriving DecidableEq, Repr

def add (s : Site) : Detail → Site
  | .text text => { s with text := some text }
  | .name name => { s with name := some name }
  | .line line => { s with line := some line }
  | .lineAndColumn line column => { s with line := some line, column := some column }

def ofDetails (details : List Detail) : Site :=
  details.foldl add {}

/-- The sites on the way: the one of which nothing is known, and one after each detail. -/
def stages (details : List Detail) : List Site :=
  (List.range (details.length + 1)).map fun count => ofDetails (details.take count)

theorem ofDetails_append_singleton (details : List Detail) (d : Detail) :
    ofDetails (details ++ [d]) = (ofDetails details).add d := by
  simp [ofDetails]

end Site
end Pinpoint
