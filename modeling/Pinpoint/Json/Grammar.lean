import Pinpoint.Json.Blank
import Pinpoint.Json.Value

/-! How JSON values are spelled. Blanks may stand between tokens, characters of strings may be
written as escapes, and numbers have more than one spelling. Strings in which half a pair stands
alone have no value, so they are not part of the grammar. -/
namespace Pinpoint.Json

/-- Digits as they are written, from digits of which the last one comes first. -/
def digitText (digits : List Nat) : List Char :=
  (digits.map Nat.digitChar).reverse

inductive SpellsFraction : List Nat → List Char → Prop where
  | none : SpellsFraction [] []
  | digits {d : Nat} {ds : List Nat} :
    (∀ x ∈ d :: ds, x < 10) → SpellsFraction (d :: ds) ('.' :: digitText (d :: ds))

inductive SpellsSign : Bool → List Char → Prop where
  | none : SpellsSign false []
  | plus : SpellsSign false ['+']
  | minus : SpellsSign true ['-']

inductive SpellsExponent : Bool → List Nat → List Char → Prop where
  | none : SpellsExponent false [] []
  | digits {negative : Bool} {mark : Char} {sign : List Char} {d : Nat} {ds : List Nat} :
    mark = 'e' ∨ mark = 'E' → SpellsSign negative sign → (∀ x ∈ d :: ds, x < 10) →
    SpellsExponent negative (d :: ds) (mark :: sign ++ digitText (d :: ds))

/-- The digits in front of the point. A zero in front of other digits is not allowed. -/
inductive SpellsWhole : List Nat → List Char → Prop where
  | zero : SpellsWhole [0] ['0']
  | digits {first : Nat} {ds : List Nat} : 0 < first → (∀ x ∈ first :: ds, x < 10) →
    SpellsWhole (ds ++ [first]) (digitText (ds ++ [first]))

inductive SpellsNumeral : Numeral → List Char → Prop where
  | parts {n : Numeral} {whole fraction exponent : List Char} :
    SpellsWhole n.whole whole → SpellsFraction n.fraction fraction →
    SpellsExponent n.negativeExponent n.exponent exponent →
    SpellsNumeral n ((if n.negative then ['-'] else []) ++ whole ++ fraction ++ exponent)

/-- A character that has a short escape, and the letter of the escape. -/
inductive SpellsEscape : Char → Char → Prop where
  | quote : SpellsEscape '"' '"'
  | backslash : SpellsEscape '\\' '\\'
  | slash : SpellsEscape '/' '/'
  | backspace : SpellsEscape '\x08' 'b'
  | formFeed : SpellsEscape '\x0c' 'f'
  | newline : SpellsEscape '\n' 'n'
  | carriageReturn : SpellsEscape '\r' 'r'
  | tab : SpellsEscape '\t' 't'

def SpellsHexDigit (value : Nat) (c : Char) : Prop :=
  "0123456789abcdef".toList[value]? = some c ∨ "0123456789ABCDEF".toList[value]? = some c

/-- The four digits of an escaped code. -/
inductive SpellsCode : Nat → List Char → Prop where
  | digits {w x y z : Nat} {a b c d : Char} :
    SpellsHexDigit w a → SpellsHexDigit x b → SpellsHexDigit y c → SpellsHexDigit z d →
    SpellsCode (w * 0x1000 + x * 0x100 + y * 0x10 + z) [a, b, c, d]

/-- The characters between the quotes of a string. A code that is half a pair does not stand
alone. -/
inductive SpellsBody : List Char → List Char → Prop where
  | nil : SpellsBody [] []
  | plain {c : Char} {text spelled : List Char} :
    c ≠ '"' → c ≠ '\\' → 0x20 ≤ c.toNat → SpellsBody text spelled →
    SpellsBody (c :: text) (c :: spelled)
  | escape {letter c : Char} {text spelled : List Char} :
    SpellsEscape c letter → SpellsBody text spelled →
    SpellsBody (c :: text) ('\\' :: letter :: spelled)
  | code {code : Nat} {digits text spelled : List Char} :
    SpellsCode code digits → code < 0xD800 ∨ 0xDFFF < code → SpellsBody text spelled →
    SpellsBody (Char.ofNat code :: text) ('\\' :: 'u' :: digits ++ spelled)
  | pair {high low : Nat} {first second text spelled : List Char} :
    high < 0x400 → low < 0x400 → SpellsCode (0xD800 + high) first →
    SpellsCode (0xDC00 + low) second → SpellsBody text spelled →
    SpellsBody (Char.ofNat (0x10000 + high * 0x400 + low) :: text)
      ('\\' :: 'u' :: first ++ '\\' :: 'u' :: second ++ spelled)

inductive SpellsString : String → List Char → Prop where
  | quotes {text : String} {spelled : List Char} :
    SpellsBody text.toList spelled → SpellsString text ('"' :: spelled ++ ['"'])

mutual

/-- A value, without blanks around it. -/
inductive Spells : Value → List Char → Prop where
  | null : Spells .null ['n', 'u', 'l', 'l']
  | true : Spells (.bool true) ['t', 'r', 'u', 'e']
  | false : Spells (.bool false) ['f', 'a', 'l', 's', 'e']
  | number {n : Numeral} {spelled : List Char} :
    SpellsNumeral n spelled → Spells (.number n) spelled
  | string {text : String} {spelled : List Char} :
    SpellsString text spelled → Spells (.string text) spelled
  | emptyList {blanks : List Char} : Blanks blanks → Spells (.list []) ('[' :: blanks ++ [']'])
  | list {items : List Value} {spelled : List Char} :
    SpellsItems items spelled → Spells (.list items) ('[' :: spelled ++ [']'])
  | emptyObject {blanks : List Char} :
    Blanks blanks → Spells (.object []) ('\x7b' :: blanks ++ ['\x7d'])
  | object {members : List (String × Value)} {spelled : List Char} :
    SpellsMembers members spelled → Spells (.object members) ('\x7b' :: spelled ++ ['\x7d'])

inductive SpellsItems : List Value → List Char → Prop where
  | last {item : Value} {before spelled after : List Char} :
    Blanks before → Spells item spelled → Blanks after →
    SpellsItems [item] (before ++ spelled ++ after)
  | more {item : Value} {items : List Value} {before spelled after rest : List Char} :
    Blanks before → Spells item spelled → Blanks after → SpellsItems items rest →
    SpellsItems (item :: items) (before ++ spelled ++ after ++ ',' :: rest)

inductive SpellsMembers : List (String × Value) → List Char → Prop where
  | last {member : String × Value} {spelled : List Char} :
    SpellsMember member spelled → SpellsMembers [member] spelled
  | more {member : String × Value} {members : List (String × Value)} {spelled rest : List Char} :
    SpellsMember member spelled → SpellsMembers members rest →
    SpellsMembers (member :: members) (spelled ++ ',' :: rest)

inductive SpellsMember : String × Value → List Char → Prop where
  | pair {key : String} {value : Value} {before name between gap spelled after : List Char} :
    Blanks before → SpellsString key name → Blanks between → Blanks gap → Spells value spelled →
    Blanks after →
    SpellsMember (key, value) (before ++ name ++ between ++ ':' :: gap ++ spelled ++ after)

end

theorem SpellsItems.ne_nil {items : List Value} {spelled : List Char}
    (spells : SpellsItems items spelled) : items ≠ [] := by
  cases spells <;> simp

theorem SpellsMembers.ne_nil {members : List (String × Value)} {spelled : List Char}
    (spells : SpellsMembers members spelled) : members ≠ [] := by
  cases spells <;> simp

/-- A text that is one value between blanks. -/
inductive SpellsText : Value → List Char → Prop where
  | padded {value : Value} {before spelled after : List Char} :
    Blanks before → Spells value spelled → Blanks after →
    SpellsText value (before ++ spelled ++ after)

end Pinpoint.Json
