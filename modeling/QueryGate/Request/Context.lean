-- What is known of one request while it is served. Stages add to it; it
-- is gone when the request is answered.
import QueryGate.Request.Hints
import QueryGate.Request.Operation
import QueryGate.Json.Text

namespace QueryGate.Request

open GraphQL Log

/-- The values of a request's variables, in the order of their names. -/
abbrev Variables := List (String × Json)

/-- The variables that a JSON object holds; anything else holds none. -/
def Variables.ofJson : Json → Variables
  | .object members => members.mergeSort fun a b => a.1 ≤ b.1
  | _ => []

/-- The variables as JSON text on one line. -/
def Variables.text (v : Variables) : String := (Json.object v).compact

/-- What ties a request's log lines together, and when its serving began. -/
structure OperationTrace where
  traceId : String
  span : Span
  start : Nat
  operationName : String
  operationKind : OperationKind
deriving DecidableEq, Repr, Inhabited

/-- The document is missing where parsing failed; the operation's name is the one that the client asked
for; the trace is there once the request has been observed. -/
structure RequestContext where
  document : Option Document := none
  operationName : Option String := none
  values : Variables := []
  hints : CorrelationHints := {}
  trace : Option OperationTrace := none

/-! ## As JSON -/

def OperationTrace.toJson (t : OperationTrace) (now : Nat) : Json :=
  .object [("traceId", .string t.traceId), ("operationName", .string t.operationName),
    ("operationType", .string t.operationKind.text), ("span", .ofString? t.span.name?),
    ("elapsedNs", .nat (now - t.start))]

/-- What can be seen of a request at a time. -/
def RequestContext.toJson (c : RequestContext) (now : Nat) : Json :=
  .object [("hasDocument", .bool c.document.isSome), ("operationName", .ofString? c.operationName),
    ("variables", .object c.values), ("trace", (c.trace.map (·.toJson now)).getD .null)]

end QueryGate.Request
