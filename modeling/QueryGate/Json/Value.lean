-- JSON values. The members of an object keep their order, and a number is
-- a whole one or a double, as it was written.
import QueryGate.Decimal.Number

namespace QueryGate

inductive Json where
  | null
  | bool (b : Bool)
  | number (n : Number)
  | string (s : String)
  | array (items : List Json)
  | object (members : List (String × Json))
deriving Repr, Inhabited

namespace Json

/-- The value of the first member of that name. -/
def member? (j : Json) (name : String) : Option Json :=
  match j with
  | .object members => members.lookup name
  | _ => none

def nat (n : Nat) : Json := .number (.int n)

def word (n : UInt64) : Json := nat n.toNat

def strings (ss : List String) : Json := .array (ss.map .string)

/-- A text, or null where there is none. -/
def ofString? (s : Option String) : Json := (s.map .string).getD .null

end Json

end QueryGate
