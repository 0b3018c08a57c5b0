-- What all requests share: the limits that documents are held to, how
-- they are measured, and the span for requests that bring none. It is
-- made once and only read afterwards.
import QueryGate.Answer.Failure
import QueryGate.Log.Journal

namespace QueryGate.Serving

open Analysis Answer GraphQL Log

/-- Gives its verdict on a document. A validator that is asked may note it in the journal. -/
abbrev Validator := Document → Limits → Run Verdict

/-- The validator that measures with the weights of `m`, and notes nothing. -/
def complexityValidator (m : CostModel) : Validator := fun d limits => pure (m.validate d limits)

structure GatewayState where
  limits : Limits
  validator : Validator
  span : Span := .root "graphql_gateway" []

/-- A line about a rejected document, with all that the verdict says. -/
def logRejection (span : Span) (v : Verdict) : Run Unit :=
  Run.log span .warn "GraphQL query rejected due to complexity"
    [("depth", toString v.depth), ("cost", toString v.cost.toNat),
      ("max_depth", toString v.maxDepth.toNat), ("max_cost", toString v.maxCost.toNat),
      ("errors", Text.quotedList v.errors)]

/-- Holds a document to the limits. A rejection is logged before it is given. -/
def GatewayState.check (st : GatewayState) (d : Document) : Run (Except Rejection Unit) := do
  let v ← st.validator d st.limits
  if v.valid then return .ok ()
  logRejection st.span v
  return .error (.ofVerdict v)

end QueryGate.Serving
