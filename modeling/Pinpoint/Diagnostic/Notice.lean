import Pinpoint.Text.Quoted

/-! Notices. Whoever asks for a listing that cannot be made gets none, and a notice is left in the
log that says what was asked for. -/
namespace Pinpoint

/-- A note that the site of a diagnostic could not be shown. -/
structure Notice where
  /-- The line that the site claims. -/
  line : Option UInt64
  /-- The border that was asked for. -/
  border : UInt64
  /-- The name of the text. -/
  name : Option String
  /-- Whether the text itself was there. -/
  hasText : Bool
  deriving DecidableEq, Repr

namespace Notice

def level : String := "DEBUG"

def message : String := "no context window for error"

/-- A value that may be missing, as a notice writes it. -/
def optional : Option String → String
  | none => "None"
  | some text => "Some(" ++ text ++ ")"

def lineText (n : Notice) : String := optional (n.line.map toString)

def nameText (n : Notice) : String := optional (n.name.map Text.quoted)

end Notice

/-- A computation that leaves notices in a log, the latest one at the end. -/
abbrev Logged := StateM (List Notice)

def Notice.leave (n : Notice) : Logged Unit :=
  modify (· ++ [n])

end Pinpoint
