import Pinpoint.Text.Range
import Pinpoint.Text.Unprintable

/-! A text between double quotes, for a reader of messages. Quotes and backslashes get a backslash,
some control characters have a letter of their own, and any other character that would not be seen
is written as its code point. -/
namespace Pinpoint.Text

def quotedChar (c : Char) : List Char :=
  match c with
  | '"' => ['\\', '"']
  | '\\' => ['\\', '\\']
  | '\n' => ['\\', 'n']
  | '\r' => ['\\', 'r']
  | '\t' => ['\\', 't']
  | '\x00' => ['\\', '0']
  | c =>
    if inRanges unprintable c.toNat then
      ['\\', 'u', '\x7b'] ++ Nat.toDigits 16 c.toNat ++ ['\x7d']
    else [c]

def quoted (text : String) : String :=
  String.ofList ('"' :: text.toList.flatMap quotedChar ++ ['"'])

end Pinpoint.Text
