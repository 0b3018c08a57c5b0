-- From statements to the table that they describe. No key may be given
-- twice and no table be opened twice, also not one that dotted keys made;
-- a table that was only named on the way to another one may be opened
-- later, once.
import QueryGate.Toml.Grammar

namespace QueryGate.Toml

open Text

/-- How a table came to be: opened by a header, named in another table's header, or made by dotted
keys. -/
inductive Origin where
  | opened
  | implied
  | dotted
deriving DecidableEq, Repr

/-- What a name stands for while the text is read: a value, a table, or an array of tables that headers
open one after the other. -/
inductive Item where
  | value (v : Value)
  | table (origin : Origin) (items : List (String × Item))
  | elements (tables : List (List (String × Item)))
deriving Repr, Inhabited

/-- The items of a table that is being read, by their names. -/
abbrev Items := List (String × Item)

/-! ## Going to a table -/

/-- Changes the last of a list of tables. -/
def updateLast (change : Items → Option Items) : List Items → Option (List Items)
  | [] => none
  | [last] => (change last).map ([·])
  | t :: rest => (updateLast change rest).map (t :: ·)

/-- Changes the table at the end of a path of names, making the tables that are missing on the way. Of
an array of tables the last one is meant. Dotted keys do not go into tables that a header opened. -/
def updateAt (dotted : Bool) (change : Origin → Items → Option Items) :
    List String → Origin → Items → Option Items
  | [], origin, items => change origin items
  | name :: path, _, items =>
    match items.lookup name with
    | none => do
      let origin := if dotted then Origin.dotted else .implied
      let inner ← updateAt dotted change path origin []
      some (items ++ [(name, .table origin inner)])
    | some (.value _) => none
    | some (.elements tables) => do
      let tables ← updateLast (updateAt dotted change path .opened) tables
      some (replaceMember items name (.elements tables))
    | some (.table origin inner) =>
      if dotted ∧ origin = .opened then none
      else do
        let inner ← updateAt dotted change path origin inner
        some (replaceMember items name (.table origin inner))

/-! ## Statements -/

/-- Opens a table, if it was not there or only implied. -/
def openTable (name : String) (_ : Origin) (items : Items) : Option Items :=
  match items.lookup name with
  | none => some (items ++ [(name, .table .opened [])])
  | some (.table .implied inner) => some (replaceMember items name (.table .opened inner))
  | some _ => none

/-- Opens one more table of an array of tables. -/
def openElement (name : String) (_ : Origin) (items : Items) : Option Items :=
  match items.lookup name with
  | none => some (items ++ [(name, .elements [[]])])
  | some (.elements tables) => some (replaceMember items name (.elements (tables ++ [[]])))
  | some _ => none

/-- Gives a new name a value. At the end of a dotted key the table must have been made by dotted keys. -/
def assign (isDotted : Bool) (name : String) (v : Value) (origin : Origin) (items : Items) :
    Option Items :=
  if isDotted ∧ origin ≠ .dotted then none
  else match items.lookup name with
    | none => some (items ++ [(name, .value v)])
    | some _ => none

/-- The names of the table that the statements are about, and what was read so far. -/
structure Reading where
  header : List String := []
  items : Items := []

def Reading.next (r : Reading) : Statement → Option Reading
  | .empty => some r
  | .table path name => do
    let items ← updateAt false (openTable name) path .opened r.items
    some ⟨path ++ [name], items⟩
  | .element path name => do
    let items ← updateAt false (openElement name) path .opened r.items
    some ⟨path ++ [name], items⟩
  | .assign path name v => do
    let change := updateAt true (assign (!path.isEmpty) name v) path
    let items ← updateAt false change r.header .opened r.items
    some { r with items }

/-! ## The table -/

mutual

/-- What a name stands for when all is read. -/
def Item.toValue : Item → Value
  | .value v => v
  | .table _ items => .table (membersOfItems items)
  | .elements tables => .array (tablesOfItems tables)

def membersOfItems : List (String × Item) → Members
  | [] => []
  | (name, item) :: rest => (name, item.toValue) :: membersOfItems rest

def tablesOfItems : List (List (String × Item)) → List Value
  | [] => []
  | items :: rest => .table (membersOfItems items) :: tablesOfItems rest

end

/-- The table that a text describes, if it is TOML. -/
def read? (text : String) : Option Members := do
  let all ← statements.whole? text.toList
  let reading ← all.foldlM Reading.next {}
  some (membersOfItems reading.items)

end QueryGate.Toml
