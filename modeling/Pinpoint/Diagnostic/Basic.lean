import Pinpoint.Diagnostic.Notice
import Pinpoint.Excerpt.Around
import Pinpoint.Listing
import Pinpoint.Site

/-! A diagnostic: something to report about a text, with its site. It has a summary of one line, an
excerpt of the text around the line that the site claims, and a listing of that excerpt. -/
namespace Pinpoint

structure Diagnostic where
  description : String
  site : Site
  deriving DecidableEq, Repr

namespace Diagnostic

/-- The number of lines on each side of the claimed line, unless asked otherwise. -/
def defaultBorder : UInt64 := 2

def summary (d : Diagnostic) : String :=
  d.description ++ " in " ++ placeText d.site.name d.site.line

def excerpt? (d : Diagnostic) (border : UInt64) : Except Overflow (Option Excerpt) :=
  Excerpt.around? d.site.text d.site.line border

def notice (d : Diagnostic) (border : UInt64) : Notice where
  line := d.site.line
  border := border
  name := d.site.name
  hasText := d.site.text.isSome

/-- The listing of the excerpt. Where there is none, a notice is left. -/
def listing? (d : Diagnostic) (border : UInt64) : Logged (Except Overflow (Option Listing)) :=
  match d.excerpt? border with
  | .error why => return .error why
  | .ok (some e) => return .ok (some ⟨e, d.site.column, d.site.name⟩)
  | .ok none => do
    (d.notice border).leave
    return .ok none

def defaultListing? (d : Diagnostic) : Logged (Except Overflow (Option Listing)) :=
  d.listing? defaultBorder

/-- There is a listing exactly if there is an excerpt, and then no notice is left. -/
theorem listing?_eq_some_iff {d : Diagnostic} {border : UInt64} {log log' : List Notice}
    {l : Listing} : (d.listing? border).run log = (.ok (some l), log') ↔
      d.excerpt? border = .ok (some l.excerpt) ∧ l.column = d.site.column ∧
        l.name = d.site.name ∧ log' = log := by
  unfold listing?
  split
  · rename_i why found
    rw [found]
    constructor
    · intro same
      cases same
    · rintro ⟨same, -⟩
      cases same
  · rename_i e found
    rw [found]
    constructor
    · intro same
      cases same
      exact ⟨rfl, rfl, rfl, rfl⟩
    · obtain ⟨excerpt, column, name⟩ := l
      rintro ⟨same, rfl, rfl, rfl⟩
      cases same
      rfl
  · rename_i found
    rw [found]
    constructor
    · intro same
      cases same
    · rintro ⟨same, -⟩
      cases same

end Diagnostic
end Pinpoint
