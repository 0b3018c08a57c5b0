-- From a text to a document. The whole text must follow the grammar;
-- then each definition is looked at in the order of the text, for nesting
-- and for numbers; then the definitions are put together in that order.
-- The first problem that is met is the one that is told.
import QueryGate.GraphQL.Grammar

namespace QueryGate.GraphQL

/-- Why a text is no document. -/
inductive DocumentError where
  | malformed
  | recursionLimitExceeded
  | multipleOperations (anonymous other : Position)
  | operationDuplicated (name : String) (first second : Position)
  | fragmentDuplicated (name : String) (first second : Position)
  | missingOperation
deriving DecidableEq, Repr

/-! ## Positions -/

/-- The position after one more character. A carriage return goes back to the first column and stays
on its line. -/
def Position.next (p : Position) (c : Char) : Position :=
  if c = '\n' then ⟨p.line + 1, 1⟩ else if c = '\r' then ⟨p.line, 1⟩ else ⟨p.line, p.column + 1⟩

/-- The position `count` characters after `p`, or at the end of a shorter text. -/
def Position.after (p : Position) : Nat → List Char → Position
  | 0, _ => p
  | _, [] => p
  | count + 1, c :: rest => Position.after (p.next c) count rest

/-- The length of a text in UTF-8. -/
def byteLength (cs : List Char) : Nat := cs.foldl (fun n c => n + c.utf8Size) 0

/-- The position given to what starts where `rest` is left to read. As many characters are passed as
there are bytes before `rest`, so past a character of several bytes it lies too far ahead. -/
def place (text rest : List Char) : Position :=
  Position.after ⟨1, 1⟩ (byteLength text - byteLength rest) text

/-! ## Nesting and numbers -/

/-- How many more levels of selections an operation or fragment may hold below its own. -/
def maxNesting : Nat := 64

mutual

/-- Every number in a value is one that a double can hold. -/
def Value.isFinite : Value → Bool
  | .number n => n.isFinite
  | .list items => allFinite items
  | .object members => membersFinite members
  | _ => true

def allFinite : List Value → Bool
  | [] => true
  | v :: rest => v.isFinite && allFinite rest

def membersFinite : List (String × Value) → Bool
  | [] => true
  | (_, v) :: rest => v.isFinite && membersFinite rest

end

def Directive.isFinite (d : Directive) : Bool := membersFinite d.arguments

/-- A text with such a number is as good as one that does not follow the grammar. -/
def requireFinite (ok : Bool) : Except DocumentError Unit := if ok then pure () else throw .malformed

mutual

/-- Looks at a selection that may hold `levels` levels of selections below it. -/
def checkSelection (levels : Nat) : Selection → Except DocumentError Unit
  | .field f selections => do
    requireFinite (membersFinite f.arguments && f.directives.all Directive.isFinite)
    checkBelow levels selections
  | .spread _ directives => requireFinite (directives.all Directive.isFinite)
  | .inline f selections => do
    requireFinite (f.directives.all Directive.isFinite)
    checkBelow levels selections

/-- Looks at the selections below a field or inline fragment, if there are any. -/
def checkBelow (levels : Nat) : List Selection → Except DocumentError Unit
  | [] => pure ()
  | s :: rest =>
    match levels with
    | 0 => throw .recursionLimitExceeded
    | levels + 1 => do
      checkSelection levels s
      checkSelections levels rest

def checkSelections (levels : Nat) : List Selection → Except DocumentError Unit
  | [] => pure ()
  | s :: rest => do
    checkSelection levels s
    checkSelections levels rest

end

def VariableDefinition.isFinite (v : VariableDefinition) : Bool :=
  v.directives.all Directive.isFinite && v.default.all Value.isFinite

/-- Looks at a definition from its start to its end. -/
def Definition.check : Definition → Except DocumentError Unit
  | .operation _ o => do
    requireFinite (o.parameters.all VariableDefinition.isFinite && o.directives.all Directive.isFinite)
    checkSelections maxNesting o.selections
  | .fragment _ _ f => do
    requireFinite (f.directives.all Directive.isFinite)
    checkSelections maxNesting f.selections

/-! ## Putting definitions together -/

/-- The definitions met so far. Fragments come with their positions. -/
structure Assembly where
  operations : Option Operations := none
  fragments : List (String × Position × Fragment) := []

namespace Assembly

/-- An operation without a name must be the only operation. -/
def addAnonymous (a : Assembly) (o : Operation) : Except DocumentError Assembly :=
  match a.operations.elim [] Operations.toList with
  | [] => .ok { a with operations := some (.single o) }
  | (_, other) :: _ => .error (.multipleOperations o.position other.position)

def addNamed (a : Assembly) (name : String) (o : Operation) : Except DocumentError Assembly :=
  match a.operations with
  | some (.single other) => .error (.multipleOperations other.position o.position)
  | some (.named operations) =>
    match operations.lookup name with
    | some first => .error (.operationDuplicated name first.position o.position)
    | none => .ok { a with operations := some (.named (operations ++ [(name, o)])) }
  | none => .ok { a with operations := some (.named [(name, o)]) }

def addFragment (a : Assembly) (name : String) (p : Position) (f : Fragment) :
    Except DocumentError Assembly :=
  match a.fragments.lookup name with
  | some (first, _) => .error (.fragmentDuplicated name first p)
  | none => .ok { a with fragments := a.fragments ++ [(name, p, f)] }

def add (a : Assembly) : Definition → Except DocumentError Assembly
  | .operation none o => a.addAnonymous o
  | .operation (some name) o => a.addNamed name o
  | .fragment name p f => a.addFragment name p f

def finish (a : Assembly) : Except DocumentError Document :=
  match a.operations with
  | none => .error .missingOperation
  | some operations => .ok ⟨operations, a.fragments.map fun (name, _, f) => (name, f)⟩

end Assembly

/-! ## Parsing -/

/-- The document of a text. -/
def parse (text : String) : Except DocumentError Document := do
  let cs := text.toList
  match (definitions (place cs)).whole? cs with
  | none => throw .malformed
  | some all =>
    all.forM Definition.check
    let assembly ← all.foldlM Assembly.add {}
    assembly.finish

namespace DocumentError

/-- The one word for the kind of problem. -/
def kind : DocumentError → String
  | .malformed => "Syntax"
  | .recursionLimitExceeded => "RecursionLimitExceeded"
  | .multipleOperations .. => "MultipleOperations"
  | .operationDuplicated .. => "OperationDuplicated"
  | .fragmentDuplicated .. => "FragmentDuplicated"
  | .missingOperation => "MissingOperation"

/-- The message; where the grammar refuses a text there is no fixed one. -/
def message? : DocumentError → Option String
  | .malformed => none
  | .recursionLimitExceeded => some "recursion limit exceeded."
  | .multipleOperations .. => some "document contains multiple operations"
  | .operationDuplicated name .. => some ("operation " ++ name ++ " is defined twice")
  | .fragmentDuplicated name .. => some ("fragment " ++ name ++ " is defined twice")
  | .missingOperation => some "document does not contain an operation"

/-- The places a problem is shown at: the later definition before the earlier one, and an operation
without a name before the other. -/
def positions : DocumentError → List Position
  | .multipleOperations anonymous other => [anonymous, other]
  | .operationDuplicated _ first second => [second, first]
  | .fragmentDuplicated _ first second => [second, first]
  | _ => []

end DocumentError

end QueryGate.GraphQL
