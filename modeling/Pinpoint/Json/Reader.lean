import Pinpoint.Json.Blank
import Pinpoint.Json.Listener
import Pinpoint.Json.StringBody

/-! Reading a JSON text for a listener, one character after the other. Between two tokens a reader
knows which brackets are open and what may come next; within a token it knows what has been read of
it. A reader that has failed stays so, hence nothing that follows changes its verdict. -/
namespace Pinpoint.Json

namespace Reader

inductive Bracket where
  | list
  | object
  deriving DecidableEq, Repr

/-- What may come next between two tokens. -/
inductive Place where
  | value
  /-- The first item of a list, or its end. -/
  | firstItem
  /-- The first key of an object, or its end. -/
  | firstKey
  | key
  | colon
  /-- What may follow a value: a comma or the end of what is open. -/
  | after
  deriving DecidableEq, Repr

inductive Token where
  /-- A word that says an event, by the characters that are left of it. -/
  | word (next : Char) (rest : List Char) (event : Event)
  | numeral (n : Numeral.Reading)
  /-- A string, which may be the key of a member. -/
  | string (isKey : Bool) (body : StringBody)
  deriving DecidableEq, Repr

inductive State (σ ε : Type) where
  | between (kept : σ) (brackets : List Bracket) (place : Place)
  | within (kept : σ) (brackets : List Bracket) (token : Token)
  | failed (why : Failure ε)
  deriving DecidableEq, Repr

variable {σ ε : Type} (l : Listener σ ε)

def tell (kept : σ) (event : Event) (brackets : List Bracket) (place : Place) : State σ ε :=
  match l.hear kept event with
  | .ok kept => .between kept brackets place
  | .error why => .failed why

/-- The end of what was opened last, if it was opened by this bracket. -/
def close (kept : σ) (bracket : Bracket) : List Bracket → State σ ε
  | [] => .failed .malformed
  | innermost :: outer =>
    if innermost = bracket then
      tell l kept (match bracket with | .list => .closeList | .object => .closeObject) outer .after
    else .failed .malformed

def comma (kept : σ) : List Bracket → State σ ε
  | [] => .failed .malformed
  | .list :: outer => tell l kept .next (.list :: outer) .value
  | .object :: outer => tell l kept .next (.object :: outer) .key

def beginValue (kept : σ) (brackets : List Bracket) (c : Char) : State σ ε :=
  match c with
  | 'n' => .within kept brackets (.word 'u' ['l', 'l'] .null)
  | 't' => .within kept brackets (.word 'r' ['u', 'e'] (.bool true))
  | 'f' => .within kept brackets (.word 'a' ['l', 's', 'e'] (.bool false))
  | '"' => .within kept brackets (.string false {})
  | '[' => tell l kept .openList (.list :: brackets) .firstItem
  | '\x7b' => tell l kept .openObject (.object :: brackets) .firstKey
  | c =>
    match Numeral.begin? c with
    | some n => .within kept brackets (.numeral n)
    | none => .failed .malformed

def beginToken (kept : σ) (brackets : List Bracket) (place : Place) (c : Char) : State σ ε :=
  match place with
  | .value => beginValue l kept brackets c
  | .firstItem => if c = ']' then close l kept .list brackets else beginValue l kept brackets c
  | .firstKey =>
    if c = '\x7d' then close l kept .object brackets
    else if c = '"' then .within kept brackets (.string true {})
    else .failed .malformed
  | .key => if c = '"' then .within kept brackets (.string true {}) else .failed .malformed
  | .colon => if c = ':' then .between kept brackets .value else .failed .malformed
  | .after =>
    if c = ',' then comma l kept brackets
    else if c = ']' then close l kept .list brackets
    else if c = '\x7d' then close l kept .object brackets
    else .failed .malformed

def stepBetween (kept : σ) (brackets : List Bracket) (place : Place) (c : Char) : State σ ε :=
  if isBlank c then .between kept brackets place else beginToken l kept brackets place c

/-- A character of a token, or the first one behind a numeral. -/
def stepWithin (kept : σ) (brackets : List Bracket) (c : Char) : Token → State σ ε
  | .word next rest event =>
    if c ≠ next then .failed .malformed
    else
      match rest with
      | [] => tell l kept event brackets .after
      | next :: rest => .within kept brackets (.word next rest event)
  | .numeral n =>
    match n.next c with
    | .more n => .within kept brackets (.numeral n)
    | .over n =>
      match tell l kept (.number n) brackets .after with
      | .between kept brackets place => stepBetween l kept brackets place c
      | state => state
    | .malformed => .failed .malformed
  | .string isKey body =>
    match body.next (l.attends kept) c with
    | .more body => .within kept brackets (.string isKey body)
    | .over text =>
      if isKey then tell l kept (.key text) brackets .colon
      else tell l kept (.string text) brackets .after
    | .malformed => .failed .malformed

def step (state : State σ ε) (c : Char) : State σ ε :=
  match state with
  | .between kept brackets place => stepBetween l kept brackets place c
  | .within kept brackets token => stepWithin l kept brackets c token
  | .failed why => .failed why

def run (state : State σ ε) (cs : List Char) : State σ ε :=
  cs.foldl (step l) state

/-- The end of the text. A numeral that was being read ends with it. -/
def endOfText : State σ ε → State σ ε
  | .within kept brackets (.numeral n) =>
    match n.ended? with
    | some n => tell l kept (.number n) brackets .after
    | none => .failed (if l.attends kept then .cutOff else .malformed)
  | state => state

/-- What the listener keeps once the text is complete. -/
def verdict : State σ ε → Except (Failure ε) σ
  | .between kept [] .after => .ok kept
  | .failed why => .error why
  | _ => .error .cutOff

end Reader

/-- Read a text that is one value, possibly between blanks. -/
def read {σ ε : Type} (l : Listener σ ε) (kept : σ) (text : String) : Except (Failure ε) σ :=
  Reader.verdict (Reader.endOfText l (Reader.run l (.between kept [] .value) text.toList))

namespace Reader

variable {σ ε : Type} (l : Listener σ ε)

@[simp] theorem run_nil (state : State σ ε) : run l state [] = state := rfl

@[simp] theorem run_cons (state : State σ ε) (c : Char) (cs : List Char) :
    run l state (c :: cs) = run l (step l state c) cs := rfl

theorem run_append (state : State σ ε) (as bs : List Char) :
    run l state (as ++ bs) = run l (run l state as) bs :=
  List.foldl_append

theorem run_failed (why : Failure ε) (cs : List Char) :
    run l (.failed why : State σ ε) cs = .failed why := by
  induction cs with
  | nil => rfl
  | cons c cs ih => exact ih

end Reader
end Pinpoint.Json
