-- The stages of the gateway. Admission turns documents away before any
-- work is done for them; observation gives the request its trace; timing
-- logs how the rest of the line ended, and after how long.
import QueryGate.Decimal.Layout
import QueryGate.Serving.Stage
import QueryGate.Serving.State

namespace QueryGate.Serving

open Answer Log Request

/-! ## Admission -/

/-- Lets a request through if its document keeps to the limits, or if it has none. -/
def admission (st : GatewayState) : Stage := fun next => do
  match (← get).document with
  | none => next
  | some d =>
    match ← st.check d with
    | .error r => return .error (.rejected r)
    | .ok () => next

/-! ## Observation -/

/-- The span of one operation. -/
def operationSpan (parent : Span) (traceId name : String) (kind : OperationKind) : Span :=
  parent.child "graphql"
    [("trace_id", traceId), ("operation_name", name), ("operation_type", kind.text)]

/-- The words that all lines about one operation start with. -/
def operationTitle (name : String) (kind : OperationKind) : String :=
  "GraphQL " ++ kind.text ++ " " ++ name

/-- Finds out what a request is about, says that it starts, and notes when. -/
def observe (st : GatewayState) (ctx : RequestContext) : Run OperationTrace := do
  let traceId ← ctx.hints.traceId
  let (name, kind) := operationDetails ctx.document ctx.operationName
  let parent := (← ctx.hints.span).getD st.span
  let span := operationSpan parent traceId name kind
  Run.log span .debug (operationTitle name kind ++ " started") [("variables", ctx.values.text)]
  return { traceId, span, start := ← Run.now, operationName := name, operationKind := kind }

/-- Gives the request its trace, and serves it in the span of its operation. -/
def observation (st : GatewayState) : Stage := fun next => do
  let ctx ← get
  let trace ← observe st ctx
  set { ctx with trace := some trace }
  within trace.span next

/-! ## Timing -/

/-- The nanoseconds of a second. -/
def second : Nat := 1000000000

/-- Nanoseconds as seconds: the whole ones and the rest are made doubles and then added. -/
def asSeconds (nanoseconds : Nat) : Double :=
  (Double.ofNat (nanoseconds / second)).addition
    ((Double.ofNat (nanoseconds % second)).overNat second)

/-- Nanoseconds as milliseconds with two places. -/
def asMilliseconds (nanoseconds : Nat) : Double :=
  let hundredths := (((asSeconds nanoseconds).timesNat 1000).timesNat 100).roundHalfUp
  (Double.ofNat hundredths).overNat 100

/-- Durations never have an exponent, and whole ones no point. -/
def durationLayout : DecimalLayout := ⟨fun _ => true, false⟩

def durationText (nanoseconds : Nat) : String :=
  String.ofList (durationLayout.ofDouble (asMilliseconds nanoseconds))

/-- What the lines about the end of an operation need to know of it. -/
structure Timed where
  start : Nat
  name : String
  kind : OperationKind
  span : Span

/-- The operation of the trace, or where there is none an unknown one that starts now. -/
def timedBy (st : GatewayState) (trace : Option OperationTrace) (now : Nat) : Timed :=
  match trace with
  | some t => ⟨t.start, t.operationName, t.operationKind, t.span⟩
  | none => ⟨now, "unknown", .unknown, st.span⟩

/-- Says how an operation ended. -/
def logEnd (t : Timed) (outcome : Outcome) (duration : String) : Run Unit :=
  let title := operationTitle t.name t.kind
  let timing := ("duration_ms", duration)
  match outcome with
  | .ok response =>
    if response.hasErrors then
      Run.log t.span .warn (title ++ " completed with errors in " ++ duration ++ "ms")
        [timing, ("errors", summarize response.errors)]
    else Run.log t.span .info (title ++ " completed in " ++ duration ++ "ms") [timing]
  | .error failure =>
    Run.log t.span .error (title ++ " failed after " ++ duration ++ "ms")
      [timing, ("error.message", failure.display), ("error.stack", failure.describe)]

/-- Times the rest of the line, and hands its outcome back as it is. -/
def timing (st : GatewayState) : Stage := fun next => do
  let t := timedBy st (← get).trace (← Run.now)
  let outcome ← next
  logEnd t outcome (durationText ((← Run.now) - t.start))
  return outcome

/-! ## The lines of the gateway -/

/-- The stages of a gateway that checks documents itself. -/
def gatewayStages (st : GatewayState) : List Stage := [admission st, observation st, timing st]

/-- The stages of a gateway whose documents are checked as soon as they are parsed. -/
def instrumentedStages (st : GatewayState) : List Stage := [observation st, timing st]

end QueryGate.Serving
