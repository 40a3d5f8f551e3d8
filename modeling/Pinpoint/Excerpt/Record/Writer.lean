import Pinpoint.Excerpt.Record.Field
import Pinpoint.Json.Text

/-! Writing an excerpt as JSON: an object with the three fields in their order, without blanks. -/
namespace Pinpoint.Excerpt.Record

/-- A list of values that are written already. -/
def writeList (items : List (List Char)) : List Char :=
  '[' :: [','].intercalate items ++ [']']

/-- A member whose value is written already. -/
def writeMember (field : Field) (value : List Char) : List Char :=
  Json.writeText field.key ++ ':' :: value

def writeWord (n : UInt64) : List Char := Nat.toDigits 10 n.toNat

/-- The JSON text of an excerpt. -/
def write (e : Excerpt) : String :=
  String.ofList ('\x7b' :: [','].intercalate
    [writeMember .firstLine (writeWord e.firstLine),
      writeMember .lines (writeList (e.lines.map Json.writeText)),
      writeMember .markedIndex (writeWord e.markedIndex)] ++ ['\x7d'])

end Pinpoint.Excerpt.Record
