import Pinpoint.Json.Listener

/-! JSON values as trees, and the events that a text of a value says. -/
namespace Pinpoint.Json

/-- A value. The members of an object keep their order, and a key may occur more than once. -/
inductive Value where
  | null
  | bool (value : Bool)
  | number (numeral : Numeral)
  | string (text : String)
  | list (items : List Value)
  | object (members : List (String × Value))

namespace Value

mutual

def events : Value → List Event
  | .null => [.null]
  | .bool value => [.bool value]
  | .number numeral => [.number numeral]
  | .string text => [.string text]
  | .list items => .openList :: itemEvents items ++ [.closeList]
  | .object members => .openObject :: memberEvents members ++ [.closeObject]

def itemEvents : List Value → List Event
  | [] => []
  | [item] => item.events
  | item :: more => item.events ++ .next :: itemEvents more

def memberEvents : List (String × Value) → List Event
  | [] => []
  | [member] => pairEvents member
  | member :: more => pairEvents member ++ .next :: memberEvents more

def pairEvents : String × Value → List Event
  | (key, value) => .key key :: value.events

end

/-- The first event of a value, which says of which kind it is. -/
def first : Value → Event
  | .null => .null
  | .bool value => .bool value
  | .number numeral => .number numeral
  | .string text => .string text
  | .list _ => .openList
  | .object _ => .openObject

theorem events_eq_first_cons (value : Value) :
    value.events = value.first :: value.events.tail := by
  cases value <;> rfl

theorem itemEvents_cons {items : List Value} (more : items ≠ []) (item : Value) :
    itemEvents (item :: items) = item.events ++ .next :: itemEvents items := by
  cases items with
  | nil => exact absurd rfl more
  | cons => rfl

theorem memberEvents_cons {members : List (String × Value)} (more : members ≠ [])
    (member : String × Value) :
    memberEvents (member :: members) = pairEvents member ++ .next :: memberEvents members := by
  cases members with
  | nil => exact absurd rfl more
  | cons => rfl

end Value

def Listener.hearAll {σ ε : Type} (l : Listener σ ε) (kept : σ) (events : List Event) :
    Except (Failure ε) σ :=
  events.foldlM l.hear kept

end Pinpoint.Json
