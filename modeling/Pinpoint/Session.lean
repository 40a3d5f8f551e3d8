import Pinpoint.Diagnostic.Basic

/-! Sessions: what a reader of diagnostics may ask for, one request after another, and the answers.
Only a request for a listing that cannot be made leaves a notice. -/
namespace Pinpoint.Session

inductive Request where
  | summary (d : Diagnostic)
  | excerpt (d : Diagnostic) (border : UInt64)
  | listing (d : Diagnostic) (border : UInt64)
  | defaultListing (d : Diagnostic)
  | display (l : Listing)

inductive Reply where
  | summary (text : String)
  | excerpt (excerpt : Except Overflow (Option Excerpt))
  | listing (listing : Except Overflow (Option Listing))
  | display (text : Except Overflow String)

def answer : Request → Logged Reply
  | .summary d => return .summary d.summary
  | .excerpt d border => return .excerpt (d.excerpt? border)
  | .listing d border => return .listing (← d.listing? border)
  | .defaultListing d => return .listing (← d.defaultListing?)
  | .display l => return .display l.render

def run (requests : List Request) : Logged (List Reply) :=
  requests.mapM answer

end Pinpoint.Session
