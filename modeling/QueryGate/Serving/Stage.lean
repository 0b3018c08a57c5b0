-- Requests are served by a line of stages with the executor at its end. A
-- stage is given the rest of the line and may run it, once or not at all,
-- and do something before and after.
import QueryGate.Answer.Failure
import QueryGate.Request.Context

namespace QueryGate.Serving

open Answer Log Request

abbrev Outcome := Except Failure Response

/-- Serves a request, and may change what is known of it. -/
abbrev Handler := StateT RequestContext Run Outcome

/-- From the rest of a line to the line with one more stage in front. -/
abbrev Stage := Handler → Handler

/-- Performs the operation itself. It sees what is known of the request and changes none of it. -/
abbrev Executor := RequestContext → Run Outcome

def Executor.toHandler (executor : Executor) : Handler := do executor (← get)

/-- A line of stages in front of an executor. -/
def execute (stages : List Stage) (executor : Executor) : Handler :=
  stages.foldr (fun stage rest => stage rest) executor.toHandler

/-- Serves a request in a span, and goes back to the span it was in. -/
def within (span : Span) (handler : Handler) : Handler := do
  let outer ← Run.currentSpan
  Run.setCurrentSpan span
  let outcome ← handler
  Run.setCurrentSpan outer
  return outcome

end QueryGate.Serving
