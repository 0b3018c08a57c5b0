-- Which operation of a document a request is about: the one it names, if
-- the document defines it, and otherwise the first one of the text.
import QueryGate.GraphQL.Document

namespace QueryGate.Request

open GraphQL

inductive OperationKind where
  | known (type : OperationType)
  | unknown
deriving DecidableEq, Repr, Inhabited

def OperationKind.text : OperationKind → String
  | .known type => type.text
  | .unknown => "unknown"

abbrev NamedOperation := Option String × Operation

/-- The one of two operations that stands first. -/
def earlier (a b : NamedOperation) : NamedOperation :=
  if b.2.position.before a.2.position then b else a

/-- The operation that stands first. -/
def firstOperation? : List NamedOperation → Option NamedOperation
  | [] => none
  | o :: rest => some (rest.foldl earlier o)

/-- The name and kind of an operation; one without a name goes by `anonymous`. -/
def detailsOf (o : NamedOperation) : String × OperationKind :=
  (o.1.getD "anonymous", .known o.2.type)

/-- The operation that a request names, or else the first one. -/
def chosenOperation? (d : Document) (requested : Option String) : Option NamedOperation :=
  let found := requested.bind fun name => (d.operation? name).map fun o => (some name, o)
  found.or (firstOperation? d.operationList)

/-- The name and kind of the operation that a request is about. Without one, the name is what was
requested. -/
def operationDetails (d : Option Document) (requested : Option String) : String × OperationKind :=
  match d.bind (chosenOperation? · requested) with
  | some o => detailsOf o
  | none => (requested.getD "unknown", .unknown)

end QueryGate.Request
