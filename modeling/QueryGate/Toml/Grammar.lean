-- Values that hold others, and the statements that a text is made of.
import QueryGate.Toml.Scalar

namespace QueryGate.Toml

open Text

/-! ## Values -/

/-- Items with commas between them, and perhaps one after the last. Gaps may stand everywhere. -/
def arrayItems (value : Reader Value) : Reader (List Value) := do
  let item : Reader Value := do
    gap
    let v ← value
    gap
    return v
  let first ← Reader.optionally item
  let items ← match first with
    | none => pure []
    | some v => do
      let others ← Reader.repeated (do Reader.exactly ","; item)
      let _ ← Reader.optionally (Reader.exactly ",")
      pure (v :: others)
  gap
  return items

/-- The key and value of a pair, with the blanks around them. -/
def pair (value : Reader Value) : Reader ((List String × String) × Value) := do
  let k ← key
  Reader.exactly "="
  blanks
  let v ← value
  blanks
  return (k, v)

/-- The members of pairs that are added one after the other. -/
def membersOf? (pairs : List ((List String × String) × Value)) : Option Members :=
  pairs.foldlM (fun members ((path, name), v) => addMember name v path members) []

/-- Pairs with commas between them, on one line. -/
def inlineMembers (value : Reader Value) : Reader Members := do
  let first ← Reader.optionally (pair value)
  let pairs ← match first with
    | none => pure []
    | some p => do
      let others ← Reader.repeated (do Reader.exactly ","; pair value)
      pure (p :: others)
  blanks
  match membersOf? pairs with
  | some members => return members
  | none => failure

/-- A value that holds others, at most `levels` within each other. -/
def valueUpTo : Nat → Reader Value
  | 0 => scalar
  | levels + 1 =>
    scalar <|>
    (do
      Reader.exactly "["
      let items ← arrayItems (valueUpTo levels)
      Reader.exactly "]"
      return .array items) <|>
    (do
      Reader.exactly "\x7b"
      let members ← inlineMembers (valueUpTo levels)
      Reader.exactly "\x7d"
      return .table members)

def value : Reader Value := valueUpTo (nestingLimit - 1)

/-! ## Statements -/

/-- What a line of a text says: nothing, a value for a key, or the table that the next lines are
about. -/
inductive Statement where
  | empty
  | assign (path : List String) (name : String) (value : Value)
  | table (path : List String) (name : String)
  | element (path : List String) (name : String)
deriving Repr, Inhabited

def emptyLine : Reader Statement := do
  newline <|> (do comment; newline <|> endOfText)
  return .empty

def header : Reader Statement := do
  Reader.exactly "["
  let (path, name) ← key
  Reader.exactly "]"
  restOfLine
  return .table path name

def elementHeader : Reader Statement := do
  Reader.exactly "[["
  let (path, name) ← key
  Reader.exactly "]]"
  restOfLine
  return .element path name

def assignment : Reader Statement := do
  let (path, name) ← key
  Reader.exactly "="
  blanks
  let v ← value
  restOfLine
  return .assign path name v

def statement : Reader Statement := do
  blanks
  emptyLine <|> elementHeader <|> header <|> assignment

/-- All statements of a text. A byte order mark before the first does not count. -/
def statements : Reader (List Statement) := do
  let _ ← Reader.optionally (Reader.exactly "\ufeff")
  let all ← Reader.repeated statement
  blanks
  return all

end QueryGate.Toml
