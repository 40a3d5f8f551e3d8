/-! What stands between the quotes of a JSON string, read one character after the other and decoded
on the way. A code point above `0xFFFF` may be written as two escapes, the halves of a pair. Half a
pair alone is malformed; only where nobody asks for the string is it let through, as a character
that stands for what is missing. -/
namespace Pinpoint.Json

namespace StringBody

/-- What the next character belongs to. -/
inductive Phase where
  | plain
  /-- An escape, whose backslash has been read. -/
  | escape
  /-- The digits of an escaped code, with those that have been read. -/
  | code (digits : List Char)
  /-- After the first half of a pair, the backslash of the second. -/
  | pair (high : Nat)
  /-- The letter of the second escape of a pair. -/
  | pairEscape (high : Nat)
  /-- The digits of the second escape of a pair. -/
  | pairCode (high : Nat) (digits : List Char)
  deriving DecidableEq, Repr

end StringBody

structure StringBody where
  /-- The text so far. -/
  text : String := ""
  phase : StringBody.Phase := .plain
  deriving DecidableEq, Repr

namespace StringBody

inductive Outcome where
  | more (body : StringBody)
  /-- The character is the closing quote. -/
  | over (text : String)
  | malformed
  deriving DecidableEq, Repr

def hexDigit? (c : Char) : Option Nat :=
  if c.isDigit then some (c.toNat - '0'.toNat)
  else if 'a' ≤ c ∧ c ≤ 'f' then some (c.toNat - 'a'.toNat + 10)
  else if 'A' ≤ c ∧ c ≤ 'F' then some (c.toNat - 'A'.toNat + 10)
  else none

def hexValue? (digits : List Char) : Option Nat :=
  digits.foldlM (fun value c => return value * 16 + (← hexDigit? c)) 0

/-- The length of an escaped code in bytes. Codes are cut off by bytes, not by characters. -/
def codeSize : Nat := 4

def isHigh (code : Nat) : Bool := 0xD800 ≤ code && code < 0xDC00

def isLow (code : Nat) : Bool := 0xDC00 ≤ code && code < 0xE000

/-- The code point that two halves stand for. -/
def joinHalves (high low : Nat) : Nat := 0x10000 + (high - 0xD800) * 0x400 + (low - 0xDC00)

/-- The character that stands for half a pair alone. -/
def replacement : Char := '\uFFFD'

def escaped? (c : Char) : Option Char :=
  match c with
  | '"' => some '"'
  | '\\' => some '\\'
  | '/' => some '/'
  | 'b' => some '\x08'
  | 'f' => some '\x0c'
  | 'n' => some '\n'
  | 'r' => some '\r'
  | 't' => some '\t'
  | _ => none

def push (b : StringBody) (c : Char) : StringBody :=
  ⟨b.text.push c, .plain⟩

/-- Half a pair turns out to be alone. `attends` tells whether the text is asked for, and `next`
reads on where it is not. -/
def alone (b : StringBody) (attends : Bool) (next : StringBody → Outcome) : Outcome :=
  if attends then .malformed else next (b.push replacement)

def takeCode (b : StringBody) (attends : Bool) (code : Nat) : Outcome :=
  if isHigh code then .more { b with phase := .pair code }
  else if isLow code then b.alone attends .more
  else .more (b.push (Char.ofNat code))

/-- A code that is complete behind the first half of a pair. -/
def takeSecond (b : StringBody) (attends : Bool) (high code : Nat) : Outcome :=
  if isLow code then .more (b.push (Char.ofNat (joinHalves high code)))
  else b.alone attends (·.takeCode attends code)

/-- One more digit of a code: `wait` keeps the digits, `take` the code that they complete. -/
def takeDigit (b : StringBody) (digits : List Char) (c : Char) (wait : List Char → Phase)
    (take : Nat → Outcome) : Outcome :=
  let digits := digits ++ [c]
  if digits.foldr (fun c size => c.utf8Size + size) 0 < codeSize then
    .more { b with phase := wait digits }
  else
    match hexValue? digits with
    | some code => take code
    | none => .malformed

/-- A character that nothing has been begun in front of. -/
def takePlain (b : StringBody) (c : Char) : Outcome :=
  if c = '"' then .over b.text
  else if c = '\\' then .more { b with phase := .escape }
  else if c.toNat < 0x20 then .malformed
  else .more (b.push c)

def takeEscape (b : StringBody) (c : Char) : Outcome :=
  if c = 'u' then .more { b with phase := .code [] }
  else
    match escaped? c with
    | some c => .more (b.push c)
    | none => .malformed

def next (b : StringBody) (attends : Bool) (c : Char) : Outcome :=
  match b.phase with
  | .plain => b.takePlain c
  | .escape => b.takeEscape c
  | .code digits => b.takeDigit digits c .code (b.takeCode attends)
  | .pair high =>
    if c = '\\' then .more { b with phase := .pairEscape high }
    else b.alone attends (·.takePlain c)
  | .pairEscape high =>
    if c = 'u' then .more { b with phase := .pairCode high [] }
    else b.alone attends (·.takeEscape c)
  | .pairCode high digits => b.takeDigit digits c (.pairCode high) (b.takeSecond attends high)

theorem isHigh_iff {code : Nat} : isHigh code ↔ 0xD800 ≤ code ∧ code < 0xDC00 := by
  simp [isHigh]

theorem isLow_iff {code : Nat} : isLow code ↔ 0xDC00 ≤ code ∧ code < 0xE000 := by
  simp [isLow]

end StringBody
end Pinpoint.Json
