-- Values of TOML 1.0. A table inside another one may be added to by dotted
-- keys for as long as the outer one is being read.
import QueryGate.Decimal.Double

namespace QueryGate.Toml

inductive Value where
  | string (s : String)
  | integer (n : Int)
  | float (d : Double)
  | boolean (b : Bool)
  | datetime (text : String)
  | array (items : List Value)
  | table (members : List (String × Value))
deriving Repr, Inhabited

/-- A table's members, by their names. -/
abbrev Members := List (String × Value)

/-- The members with another value in the place of the one of that name. -/
def replaceMember {α : Type} (members : List (String × α)) (name : String) (value : α) :
    List (String × α) :=
  members.map fun m => if m.1 = name then (name, value) else m

/-! ## Adding to an inline table -/

/-- Adds a member by its key, whose names are separated by dots: `path` leads to the table that `name` is
added to, and tables that are missing on the way are made. -/
def addMember (name : String) (value : Value) : List String → Members → Option Members
  | [], members =>
    match members.lookup name with
    | some _ => none
    | none => some (members ++ [(name, value)])
  | key :: path, members =>
    match members.lookup key with
    | none => (addMember name value path []).map fun inner => members ++ [(key, .table inner)]
    | some (.table inner) =>
      (addMember name value path inner).map fun inner => replaceMember members key (.table inner)
    | some _ => none

end QueryGate.Toml
