import Pinpoint.Excerpt.Record.Spelling
import Pinpoint.Excerpt.Record.Writer
import Pinpoint.Excerpt.Recut
import Pinpoint.Proofs.Diagnostic.LineEnds
import Pinpoint.Proofs.Diagnostic.SamePlace
import Pinpoint.Proofs.Diagnostic.Unfailing
import Pinpoint.Proofs.Excerpt.Embedded
import Pinpoint.Proofs.Excerpt.Nearby
import Pinpoint.Proofs.Excerpt.Nested
import Pinpoint.Proofs.Excerpt.Obtained
import Pinpoint.Proofs.Excerpt.Pointing
import Pinpoint.Proofs.Json.CutOff
import Pinpoint.Proofs.Listing.Caret
import Pinpoint.Proofs.Listing.Displayed
import Pinpoint.Proofs.Listing.LastLine
import Pinpoint.Proofs.Listing.Layout
import Pinpoint.Proofs.Listing.Legible
import Pinpoint.Proofs.Listing.Places
import Pinpoint.Proofs.Record.CutOff
import Pinpoint.Proofs.Record.Final
import Pinpoint.Proofs.Record.RoundTrip
import Pinpoint.Proofs.Record.Verdict
import Pinpoint.Proofs.Session.Log
import Pinpoint.Proofs.SettingsFault.Details
import Pinpoint.Proofs.Site.Written
import Pinpoint.Session
import Pinpoint.SettingsFault
