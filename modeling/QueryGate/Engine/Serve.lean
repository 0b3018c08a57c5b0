-- An engine with the gateway plugged in. A request is parsed and shown to
-- the gateway; then its operation is chosen; then it is executed, through
-- the gateway where the engine runs executions through it: always but for
-- queries and mutations that are streamed.
import QueryGate.Engine.Execution
import QueryGate.GraphQL.Parse
import QueryGate.Serving.Gateway

namespace QueryGate.Engine

open Answer GraphQL Log Request Serving

structure EngineRequest where
  query : String
  operationName : Option String := none
  values : Variables := []
  hints : CorrelationHints := {}
  stream : Bool := false

/-- What parsing tells the client. -/
def parseError (e : DocumentError) : ServerError :=
  { message := e.message?.getD "", locations := e.positions }

/-! ## Nesting -/

/-- How many levels of selections may lie below those of an operation. -/
def levelLimit : Nat := 32

/-- Where the first selections start that lie `levels` levels down. Fragments are followed wherever they
are spread, and a field without selections has none that could lie too deep. -/
def tooDeep? (d : Document) : Nat → Position → List Selection → Option Position
  | 0, opening, _ => some opening
  | levels + 1, _, selections => selections.findSome? fun
    | .field f inner => if inner.isEmpty then none else tooDeep? d levels f.opening inner
    | .inline f inner => tooDeep? d levels f.opening inner
    | .spread name _ =>
      (d.fragments.lookup name).bind fun f => tooDeep? d levels f.opening f.selections

/-- The document, unless its selections lie too deep in an operation. -/
def requireShallow (d : Document) : Except ServerError Document :=
  let found := d.operationList.findSome? fun (_, o) =>
    tooDeep? d (levelLimit + 1) o.opening o.selections
  match found with
  | none => .ok d
  | some opening =>
    let message := "The recursion depth of the query cannot be greater than `" ++
      toString levelLimit ++ "`"
    .error { message, locations := [opening] }

/-- The document of a request. -/
def readDocument (query : String) : Except ServerError Document := do
  requireShallow (← (parse query).mapError parseError)

/-! ## Operations -/

/-- Why no operation of a document can be executed. -/
inductive NoOperation where
  | unknownName (name : String)
  | nameRequired
deriving DecidableEq, Repr

def NoOperation.message : NoOperation → String
  | .unknownName name => "Unknown operation named \"" ++ name ++ "\""
  | .nameRequired => "Operation name required in request."

/-- The operation of the name that is asked for, with that name. Without a name the document must have
only one, which is taken with its own; an operation without a name has no name to be asked for. -/
def selectOperation (d : Document) (requested : Option String) : Except NoOperation NamedOperation :=
  match requested with
  | some name =>
    match d.operation? name with
    | some o => .ok (some name, o)
    | none => .error (.unknownName name)
  | none =>
    match d.operationList with
    | [o] => .ok o
    | _ => .error .nameRequired

/-! ## Serving -/

/-- Executes an operation that was chosen. -/
def executeChosen (g : Gateway) (s : Session) (r : EngineRequest) (d : Document)
    (chosen : NamedOperation) : Run (List Response) := do
  let (name, o) := chosen
  let bindings : Bindings := ⟨r.values, o.parameters⟩
  let once := executeOnce bindings o.type (wantedOfOperation d r.values o)
  if r.stream then
    match o.type with
    | .subscription =>
      (deliveries bindings (subscribedFields r.values o)).mapM fun
        | .event response => g.executeCall s r.hints name (pure response)
        | .refusal response => pure response
    | _ => return [← once]
  else
    return [← g.executeCall s r.hints name once]

/-- The responses to a request. -/
def serve (g : Gateway) (r : EngineRequest) : Run (List Response) := do
  let (checked, session) ← g.parseCall {} (readDocument r.query) r.values
  match checked with
  | .error e => return [{ errors := [e] }]
  | .ok d =>
    match selectOperation d r.operationName with
    | .error problem => return [{ errors := [{ message := problem.message }] }]
    | .ok o => executeChosen g session r d o

/-- Serves requests one after the other, each with its own journal. -/
def serveAll (g : Gateway) (requests : List EngineRequest) :
    Run (List (List Response × List Entry)) :=
  requests.mapM fun r => Run.recorded (serve g r)

end QueryGate.Engine
