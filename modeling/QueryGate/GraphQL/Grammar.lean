-- The grammar of documents. Values and selections hold values and
-- selections, so their readers are given how deep they may go; every
-- level takes a character, so the length of the text is deep enough.
import QueryGate.GraphQL.Document
import QueryGate.GraphQL.Lexeme

namespace QueryGate.GraphQL

open Text

/-! ## Values -/

def boolean : Reader Bool :=
  (do Reader.exactly "true"; return true) <|> (do Reader.exactly "false"; return false)

def nullWord : Reader Unit := Reader.exactly "null"

/-- A name that does not start with `true`, `false` or `null`. -/
def enumName : Reader String := do
  Reader.notAhead boolean
  Reader.notAhead nullWord
  name

/-- A dollar sign and a name. -/
def variableName : Reader String := do
  Reader.exactly "$"
  token name

/-- A name, a colon, and a value that `value` reads. -/
def member (value : Reader Value) : Reader (String × Value) := do
  let key ← token name
  mark ":"
  return (key, ← token value)

/-- A value, `depth` levels deep at most. Where values are constant no variable is read. -/
def valueUpTo (constant : Bool) : Nat → Reader Value
  | 0 => failure
  | depth + 1 =>
    let inner := valueUpTo constant depth
    (if constant then failure else do return .var (← variableName)) <|>
    (do return .number (← number)) <|>
    (do return .string (← string)) <|>
    (do return .boolean (← boolean)) <|>
    (do nullWord; return .null) <|>
    (do return .enum (← enumName)) <|>
    (do
      Reader.exactly "["
      let items ← Reader.repeated (token inner)
      mark "]"
      return .list items) <|>
    (do
      Reader.exactly "\x7b"
      let members ← Reader.repeated (member inner)
      mark "\x7d"
      return .object members)

def value (constant : Bool) : Reader Value := fun cs => valueUpTo constant (cs.length + 1) cs

/-! ## Arguments and directives -/

def arguments : Reader Arguments := do
  mark "("
  let args ← Reader.repeatedOnce (member (value false))
  mark ")"
  return args

/-- Arguments, or none at all. -/
def optionalArguments : Reader Arguments := do
  return (← Reader.optionally arguments).getD []

def directive : Reader Directive := do
  mark "@"
  return { name := ← token name, arguments := ← optionalArguments }

/-- Any number of directives. -/
def directives : Reader (List Directive) := Reader.repeated directive

/-! ## Selections -/

/-- The word `on`, white space but no comment, and a name. -/
def typeCondition : Reader String := do
  Reader.exactly "on"
  let _ ← Reader.someCharsWhile isIgnored
  name

/-- A name before a colon. -/
def label : Reader String := do
  let key ← token name
  mark ":"
  return key

/-- Selections in braces, at least one, each as `selection` reads it, and the place of the first
brace. -/
def braced (place : List Char → Position) (selection : Reader Selection) :
    Reader (Position × List Selection) := do
  let start ← token get
  mark "\x7b"
  let selections ← Reader.repeatedOnce selection
  mark "\x7d"
  return (place start, selections)

/-- A field, placed where its text starts. -/
def field (place : List Char → Position) (selections : Reader (Position × List Selection)) :
    Reader Selection := do
  let start ← token get
  let label ← Reader.optionally label
  let name ← token name
  let arguments ← optionalArguments
  let directives ← directives
  let position := place start
  match ← Reader.optionally selections with
  | some (opening, inner) =>
    return .field { position, opening, label, name, arguments, directives } inner
  | none => return .field { position, label, name, arguments, directives } []

def inlineFragment (selections : Reader (Position × List Selection)) : Reader Selection := do
  mark "..."
  let condition ← Reader.optionally (token typeCondition)
  let directives ← directives
  let (opening, inner) ← selections
  return .inline { opening, condition, directives } inner

def fragmentSpread : Reader Selection := do
  mark "..."
  Reader.notAhead (token typeCondition)
  return .spread (← token name) (← directives)

/-- A selection, `depth` levels deep at most. -/
def selectionUpTo (place : List Char → Position) : Nat → Reader Selection
  | 0 => failure
  | depth + 1 =>
    let selections := braced place (selectionUpTo place depth)
    field place selections <|> inlineFragment selections <|> fragmentSpread

def selectionSet (place : List Char → Position) : Reader (Position × List Selection) := fun cs =>
  braced place (selectionUpTo place (cs.length + 1)) cs

/-! ## Definitions -/

def operationType : Reader OperationType :=
  (do Reader.exactly "query"; return .query) <|>
  (do Reader.exactly "mutation"; return .mutation) <|>
  (do Reader.exactly "subscription"; return .subscription)

/-- A type, `depth` lists deep at most. Nothing stands between its parts. -/
def typeUpTo : Nat → Reader String
  | 0 => failure
  | depth + 1 => do
    let inner ← name <|> (do
      Reader.exactly "["
      let item ← typeUpTo depth
      Reader.exactly "]"
      return "[" ++ item ++ "]")
    let required ← Reader.optionally (Reader.exactly "!")
    return if required.isSome then inner ++ "!" else inner

def typeText : Reader String := fun cs => typeUpTo (cs.length + 1) cs

def variableDefinition : Reader VariableDefinition := do
  let name ← token variableName
  mark ":"
  let type ← token typeText
  let directives ← directives
  let default ← Reader.optionally (do mark "="; token (value true))
  return { name, type, directives, default }

/-- Variable definitions in parentheses, possibly none, or no parentheses at all. -/
def variableDefinitions : Reader (List VariableDefinition) := do
  let definitions ← Reader.optionally (do
    mark "("
    let definitions ← Reader.repeated variableDefinition
    mark ")"
    return definitions)
  return definitions.getD []

/-- One definition of a document. Where an operation has a position of its own, a fragment is given
one here. -/
inductive Definition where
  | operation (name : Option String) (operation : Operation)
  | fragment (name : String) (position : Position) (fragment : Fragment)
deriving Repr, Inhabited

def namedOperation (place : List Char → Position) : Reader Definition := do
  let start ← token get
  let type ← token operationType
  let name ← Reader.optionally (token name)
  let parameters ← variableDefinitions
  let directives ← directives
  let (opening, selections) ← selectionSet place
  return .operation name { type, position := place start, opening, parameters, directives, selections }

/-- Selections without a word before them are a query without a name. -/
def bareQuery (place : List Char → Position) : Reader Definition := do
  let start ← token get
  let (opening, selections) ← selectionSet place
  return .operation none { type := .query, position := place start, opening, selections }

def fragmentDefinition (place : List Char → Position) : Reader Definition := do
  let start ← token get
  mark "fragment"
  let name ← token name
  let condition ← token typeCondition
  let directives ← directives
  let (opening, selections) ← selectionSet place
  return .fragment name (place start) { opening, condition, directives, selections }

def definition (place : List Char → Position) : Reader Definition :=
  namedOperation place <|> bareQuery place <|> fragmentDefinition place

/-- At least one definition, and nothing but white space and comments after the last. -/
def definitions (place : List Char → Position) : Reader (List Definition) := do
  let all ← Reader.repeatedOnce (definition place)
  modify skip
  return all

end QueryGate.GraphQL
