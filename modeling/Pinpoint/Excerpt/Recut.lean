import Pinpoint.Excerpt.Around

/-! Cutting excerpts out of excerpts. The lines of an excerpt, joined, are a text again, out of
which the next excerpt is cut. -/
namespace Pinpoint.Excerpt

/-- One cut: the line to go around, the border, and what joins the lines of the result. -/
structure Cut where
  line : Option UInt64
  border : UInt64
  separator : String
  deriving DecidableEq, Repr

def joined (e : Excerpt) (separator : String) : String :=
  separator.intercalate e.lines

/-- The excerpt of a cut, and the text that the next cut is about: the same text, if there is no
excerpt. -/
def cut (text : String) (c : Cut) : Except Overflow (Option Excerpt × String) := do
  match ← around? (some text) c.line c.border with
  | some e => return (some e, e.joined c.separator)
  | none => return (none, text)

/-- The excerpts of cuts made one after another, and the text that is left. -/
def cuts (text : String) : List Cut → Except Overflow (List (Option Excerpt) × String)
  | [] => return ([], text)
  | c :: more => do
    let (excerpt, next) ← cut text c
    let (excerpts, last) ← cuts next more
    return (excerpt :: excerpts, last)

end Pinpoint.Excerpt
