-- Executing an operation: its fields are resolved one after the other. A
-- field that fails makes the whole response an error, which tells where
-- the field stands and which keys lead to it.
import QueryGate.Answer.Response
import QueryGate.Engine.Merging
import QueryGate.Engine.Schema
import QueryGate.Engine.Wanted

namespace QueryGate.Engine

open Answer GraphQL Log

/-! ## Values -/

/-- The values of an operation's variables: what the request gives, or else the defaults. -/
structure Bindings where
  values : List (String × Json)
  definitions : List VariableDefinition

mutual

/-- The value that is written, with variables replaced. A variable without a value leaves none. -/
def constant (valueOf : String → Option Json) : Value → Option Json
  | .var name => valueOf name
  | .number n => some (.number n)
  | .string s => some (.string s)
  | .boolean b => some (.bool b)
  | .null => some .null
  | .enum name => some (.string name)
  | .list items => some (.array (constantItems valueOf items))
  | .object members => some (.object (constantMembers valueOf members))

def constantItems (valueOf : String → Option Json) : List Value → List Json
  | [] => []
  | v :: rest => ((constant valueOf v).getD .null) :: constantItems valueOf rest

def constantMembers (valueOf : String → Option Json) :
    List (String × Value) → List (String × Json)
  | [] => []
  | (name, v) :: rest =>
    ((constant valueOf v).map (name, ·)).toList ++ constantMembers valueOf rest

end

/-- The value of a variable. -/
def Bindings.boundTo (b : Bindings) (name : String) : Option Json :=
  match b.values.lookup name with
  | some j => some j
  | none =>
    ((b.definitions.find? (·.name == name)).bind (·.default)).bind (constant fun _ => none)

def Bindings.given (b : Bindings) (arguments : Arguments) : Given :=
  constantMembers b.boundTo arguments

/-! ## Fields -/

/-- Executing may take time, and may fail with an error. -/
abbrev Executing := ExceptT ServerError Run

/-- The members of an object of a response. -/
abbrev Members := List (String × Json)

/-- The failure of a field. -/
def fieldError (f : Field) (path : List PathSegment) (message : String) : ServerError :=
  { message, locations := [f.position], path }

def resolveField (b : Bindings) (node : Node) (path : List PathSegment) (f : Field) :
    Executing Resolved := do
  match ← (resolve node f.name (b.given f.arguments)).run with
  | .ok resolved => return resolved
  | .error message => throw (fieldError f path message)

mutual

/-- The members of a response with that of one more field. -/
def executeField (b : Bindings) (node : Node) (path : List PathSegment) (members : Members) :
    Wanted → Executing Members
  | .field f inner => do
    let path := path ++ [.key f.responseKey]
    match ← resolveField b node path f with
    | .leaf value => return unitedMembers members [(f.responseKey, value)]
    | .one node =>
      let object ← executeFields b node path [] inner
      return unitedMembers members [(f.responseKey, .object object)]
    | .many nodes =>
      let items ← nodes.zipIdx.mapM fun (node, n) => do
        let object ← executeFields b node (path ++ [.index n]) [] inner
        return Json.object object
      return unitedMembers members [(f.responseKey, .array items)]

/-- The members of a response with those of more fields. -/
def executeFields (b : Bindings) (node : Node) (path : List PathSegment) (members : Members) :
    List Wanted → Executing Members
  | [] => return members
  | w :: rest => do
    let members ← executeField b node path members w
    executeFields b node path members rest

end

/-! ## Operations -/

/-- The most fields for which a failure is noticed as soon as it happens. Of more fields it is noticed in
its turn. -/
def promptLimit : Nat := 30

/-- The field waits. -/
def Wanted.waits (w : Wanted) (node : Node) : Bool :=
  match w with
  | .field f _ => isWaiting node f.name

/-- Starts fields whose values nobody will see. -/
def startFields (b : Bindings) (fields : List Wanted) : Run Unit :=
  fields.forM fun w => do
    let _ ← (executeField b .query [] [] w).run

/-- The members of a response with those of the fields of a query. They are started one after the other,
and the first failure ends it. Where failures are noticed in turn, `inTurn`, and a field before the failing
one has waited, `waited`, the fields behind it have all been started by then. -/
def executeQuery (b : Bindings) (inTurn waited : Bool) (members : Members) :
    List Wanted → Run (Except ServerError Members)
  | [] => return .ok members
  | w :: rest => do
    match ← (executeField b .query [] members w).run with
    | .ok members => executeQuery b inTurn (waited || w.waits .query) members rest
    | .error e =>
      if inTurn && waited then startFields b rest
      return .error e

def responseOf : Except ServerError Members → Response
  | .ok members => { data := .object members }
  | .error e => { errors := [e] }

/-- The one response of an operation that is not streamed. -/
def executeOnce (b : Bindings) (type : OperationType) (fields : List Wanted) : Run Response :=
  match type with
  | .query => do
    return responseOf (← executeQuery b (promptLimit < fields.length) false [] fields)
  | .mutation => do return responseOf (← (executeFields b .mutation [] [] fields).run)
  | .subscription =>
    return { errors := [{ message := "Subscriptions are not supported on this transport." }] }

/-! ## Subscriptions -/

/-- What a subscription brings: the value of a field at an event, or that there is no such field. -/
inductive Delivery where
  | event (r : Response)
  | refusal (r : Response)

/-- There is no such field to subscribe to. -/
def refusalOf (f : Field) : Response :=
  let message := "Cannot query field \"" ++ f.responseKey ++ "\" on type \"" ++
    Node.subscription.typeName ++ "\"."
  { errors := [fieldError f [.key f.responseKey] message] }

/-- What one field of a subscription brings, one after the other. -/
def fieldDeliveries (b : Bindings) (f : Field) : List Delivery :=
  match events? f.name (b.given f.arguments) with
  | some values => values.map fun value => .event { data := .object [(f.responseKey, value)] }
  | none => [.refusal (refusalOf f)]

/-- What a subscription brings. Its fields take turns: the first events of all of them come before the
second ones. -/
def deliveries (b : Bindings) (fields : List Field) : List Delivery :=
  let all := fields.flatMap fun f => (fieldDeliveries b f).zipIdx
  (all.mergeSort fun x y => x.2 ≤ y.2).map (·.1)

end QueryGate.Engine
