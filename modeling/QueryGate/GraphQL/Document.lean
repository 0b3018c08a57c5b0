-- GraphQL documents. A document holds either one operation without a
-- name or named operations, and fragments by their names; nothing says
-- that a spread names a fragment that exists, or that fragments do not
-- go in circles.
import QueryGate.Decimal.Number

namespace QueryGate.GraphQL

/-- A place in a text, both counted from one. -/
structure Position where
  line : Nat
  column : Nat
deriving DecidableEq, Repr, Inhabited

inductive Value where
  | var (name : String)
  | number (n : Number)
  | string (s : String)
  | boolean (b : Bool)
  | null
  | enum (name : String)
  | list (items : List Value)
  | object (members : List (String × Value))
deriving Repr, Inhabited

abbrev Arguments := List (String × Value)

structure Directive where
  name : String
  arguments : Arguments
deriving Repr, Inhabited

/-- A field without the selections below it. The label is the alias that the text gives it, and the
opening is where the selections below it start. -/
structure Field where
  position : Position := ⟨1, 1⟩
  opening : Position := ⟨1, 1⟩
  label : Option String := none
  name : String
  arguments : Arguments := []
  directives : List Directive := []
deriving Repr, Inhabited

/-- The name that the field's value goes by in a response. -/
def Field.responseKey (f : Field) : String := f.label.getD f.name

/-- The first argument of that name. -/
def Field.argument? (f : Field) (name : String) : Option Value := f.arguments.lookup name

/-- A fragment that is written in its place, without its selections. -/
structure InlineFragment where
  opening : Position := ⟨1, 1⟩
  condition : Option String := none
  directives : List Directive := []
deriving Repr, Inhabited

inductive Selection where
  | field (field : Field) (selections : List Selection)
  | spread (name : String) (directives : List Directive)
  | inline (fragment : InlineFragment) (selections : List Selection)
deriving Repr, Inhabited

inductive OperationType where
  | query
  | mutation
  | subscription
deriving DecidableEq, Repr, Inhabited

structure VariableDefinition where
  name : String
  type : String
  directives : List Directive := []
  default : Option Value := none
deriving Repr, Inhabited

structure Operation where
  type : OperationType
  position : Position := ⟨1, 1⟩
  opening : Position := ⟨1, 1⟩
  parameters : List VariableDefinition := []
  directives : List Directive := []
  selections : List Selection
deriving Repr, Inhabited

structure Fragment where
  opening : Position := ⟨1, 1⟩
  condition : String := ""
  directives : List Directive := []
  selections : List Selection
deriving Repr, Inhabited

inductive Operations where
  | single (operation : Operation)
  | named (operations : List (String × Operation))
deriving Repr, Inhabited

structure Document where
  operations : Operations
  fragments : List (String × Fragment)
deriving Repr, Inhabited

/-! ## Looking into a document -/

def OperationType.text : OperationType → String
  | .query => "query"
  | .mutation => "mutation"
  | .subscription => "subscription"

/-- The operations with the names they have. -/
def Operations.toList : Operations → List (Option String × Operation)
  | .single operation => [(none, operation)]
  | .named operations => operations.map fun (name, operation) => (some name, operation)

namespace Document

def operationList (d : Document) : List (Option String × Operation) := d.operations.toList

/-- The operation of that name. -/
def operation? (d : Document) (name : String) : Option Operation := d.operationList.lookup (some name)

/-- The selections of the fragment of that name. -/
def body? (d : Document) (name : String) : Option (List Selection) :=
  (d.fragments.lookup name).map (·.selections)

end Document

/-- Position order: by line, and on one line by column. -/
def Position.before (a b : Position) : Bool :=
  a.line < b.line || (a.line == b.line && a.column < b.column)

end QueryGate.GraphQL
