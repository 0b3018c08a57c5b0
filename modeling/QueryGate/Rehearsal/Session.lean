-- One rehearsal: requests that are served one after the other, each with
-- a journal of its own, over the same state and the same clock.
import QueryGate.GraphQL.Parse
import QueryGate.Rehearsal.Collaborators

namespace QueryGate.Rehearsal

open Answer GraphQL Log Request Serving

/-- A request and the executor that waits at the end of its line. -/
structure Scripted where
  document : Except DocumentError (Option Document)
  operationName : Option String
  values : Variables
  hints : CorrelationHints
  executor : Executor

/-- What became of a request. -/
structure Served where
  parseError : Option DocumentError
  outcome : Outcome
  journal : List Entry
  context : RequestContext
  finishedAt : Nat

/-- A text that does not parse leaves the request without a document. -/
def Scripted.context (r : Scripted) : RequestContext :=
  { document := r.document.toOption.join, operationName := r.operationName, values := r.values,
    hints := r.hints }

def Scripted.parseError (r : Scripted) : Option DocumentError :=
  match r.document with
  | .error e => some e
  | .ok _ => none

def serve (stages : List Stage) (r : Scripted) : Run Served := do
  let ((outcome, context), journal) ← Run.recorded ((execute stages r.executor).run r.context)
  return { parseError := r.parseError, outcome, journal, context, finishedAt := ← Run.now }

def serveAll (stages : List Stage) (requests : List Scripted) : Run (List Served) :=
  requests.mapM (serve stages)

end QueryGate.Rehearsal
