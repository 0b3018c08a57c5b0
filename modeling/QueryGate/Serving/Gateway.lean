-- The gateway inside an engine. The engine calls it twice for a request:
-- when the text is parsed, and for every execution. What one request
-- parsed is kept in its own session and nowhere else.
import QueryGate.Serving.Stages

namespace QueryGate.Serving

open Analysis Answer GraphQL Log Request

/-- The state holds documents to its limits; the stages are passed by every execution. -/
structure Gateway where
  state : GatewayState
  stages : List Stage

/-- The state of a gateway with given limits and weights. -/
def GatewayState.ofConfig (limits : Limits) (m : CostModel) : GatewayState :=
  { limits, validator := complexityValidator m }

/-- The standard gateway. -/
def Gateway.ofConfig (limits : Limits) (m : CostModel) : Gateway :=
  let st := GatewayState.ofConfig limits m
  ⟨st, instrumentedStages st⟩

/-- What is kept for one request between its calls: the document that was accepted last, and the
variables that came with it. -/
structure Session where
  parsed : Option (Document × Variables) := none

/-- What comes back from a call that may fail: an error for the client, or a value. -/
abbrev Checked := Except ServerError

/-- Called for the text of a request. `parsed` is what parsing it gave. A document is kept once it is
accepted; an error keeps what was there. -/
def Gateway.parseCall (g : Gateway) (s : Session) (parsed : Checked Document)
    (values : Variables) : Run (Checked Document × Session) := do
  match parsed with
  | .error e => return (.error e, s)
  | .ok d =>
    match ← g.state.check d with
    | .error r => return (.error r.toServerError, s)
    | .ok () => return (.ok d, ⟨some (d, values)⟩)

/-- What is known of a request when one of its executions starts. -/
def Session.context (s : Session) (hints : CorrelationHints) (operationName : Option String) :
    RequestContext :=
  { document := s.parsed.map (·.1), operationName, values := (s.parsed.map (·.2)).getD [], hints }

/-- Called for each execution, for a subscription once an event. `next` is the execution itself. -/
def Gateway.executeCall (g : Gateway) (s : Session) (hints : CorrelationHints)
    (operationName : Option String) (next : Run Response) : Run Response := do
  let executor : Executor := fun _ => return .ok (← next)
  let (outcome, _) ← (execute g.stages executor).run (s.context hints operationName)
  match outcome with
  | .ok response => return response
  | .error failure => return failure.toResponse

end QueryGate.Serving
