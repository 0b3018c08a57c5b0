-- Where a request's correlation id and span come from: the transport it
-- arrived over, a header, or a fresh identifier. The transport is asked
-- first, and a header is read only where the transport has no id.
import QueryGate.Log.Journal
import QueryGate.Text.Quoted

namespace QueryGate.Request

open Log

/-- The header that carries a correlation id. -/
def requestIdHeader : String := "x-request-id"

/-- The request as the transport sees it. Asking it may be noted in the journal. -/
structure TransportRequest where
  id : Run (Option String)
  span : Run (Option Span) := pure none

structure CorrelationHints where
  request : Option TransportRequest := none
  headers : Option (String → Run (Option String)) := none

namespace CorrelationHints

/-- The id that the transport gave the request. -/
def transportId (h : CorrelationHints) : Run (Option String) :=
  match h.request with
  | some request => request.id
  | none => pure none

/-- The id in the headers, if they can be read. -/
def headerId (h : CorrelationHints) : Run (Option String) :=
  match h.headers with
  | some read => read requestIdHeader
  | none => pure none

/-- The correlation id of the request: the transport's, else the header's, else a fresh one. -/
def traceId (h : CorrelationHints) : Run String := do
  match ← h.transportId with
  | some id => return id
  | none =>
    match ← h.headerId with
    | some id => return id
    | none => Run.freshId

/-- The span that the transport opened for the request. -/
def span (h : CorrelationHints) : Run (Option Span) :=
  match h.request with
  | some request => request.span
  | none => pure none

/-- The hints as text: the transport's id, and whether headers can be read. -/
def describe (h : CorrelationHints) : Run String := do
  let id := match ← h.transportId with
    | some id => "Some(" ++ Text.quoted id ++ ")"
    | none => "None"
  let headers := if h.headers.isSome then "true" else "false"
  return "CorrelationHints \x7b request_id: " ++ id ++ ", headers: " ++ headers ++ " \x7d"

end CorrelationHints

end QueryGate.Request
