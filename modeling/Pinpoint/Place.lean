/-! A place in a text, as it is written for a reader. -/
namespace Pinpoint

/-- What is written for a name or a line that is not known. -/
def unknown : String := "?"

def placeText (name : Option String) (line : Option UInt64) : String :=
  name.getD unknown ++ ":" ++ (line.map toString).getD unknown

end Pinpoint
