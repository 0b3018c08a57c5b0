-- Two values that go by one key of a response are made one: objects are
-- united key by key and lists place by place. Of two other values the
-- first stays.
import QueryGate.Json.Value

namespace QueryGate.Engine

/-- The members with another value in the place of the one of that name. -/
def setMember (members : List (String × Json)) (name : String) (value : Json) :
    List (String × Json) :=
  members.map fun m => if m.1 = name then (name, value) else m

mutual

/-- An older value united with a newer one. -/
def united (old : Json) : Json → Json
  | .object newer =>
    match old with
    | .object members => .object (unitedMembers members newer)
    | other => other
  | .array newer =>
    match old with
    | .array items => .array (unitedItems items newer)
    | other => other
  | _ => old

/-- Members with newer ones added or united with them. -/
def unitedMembers (members : List (String × Json)) : List (String × Json) → List (String × Json)
  | [] => members
  | (name, value) :: rest =>
    match members.lookup name with
    | some old => unitedMembers (setMember members name (united old value)) rest
    | none => unitedMembers (members ++ [(name, value)]) rest

/-- Items united with newer ones in the same places; there are never more of them. -/
def unitedItems (items : List Json) : List Json → List Json
  | [] => items
  | value :: rest =>
    match items with
    | [] => []
    | old :: others => united old value :: unitedItems others rest

end

end QueryGate.Engine
