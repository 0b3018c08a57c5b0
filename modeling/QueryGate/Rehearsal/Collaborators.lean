-- Collaborators that follow a script: transports, header readers,
-- validators and executors that answer what they are told to and note in
-- the journal that they were asked. With them a line of stages can be
-- rehearsed without a network or an engine.
import QueryGate.Serving.Stages

namespace QueryGate.Rehearsal

open Analysis Answer Log Request Serving

/-- A note of one member. -/
def note (name : String) (content : Json) : Run Unit := Run.note (.object [(name, content)])

/-! ## Hints -/

/-- The span that a transport has for a request: none, one that is disabled, or one with a label. -/
inductive SpanScript where
  | absent
  | disabled
  | labelled (label : String)
deriving DecidableEq, Repr, Inhabited

/-- A transport's own span lies inside none, wherever it is asked for. -/
def SpanScript.span : SpanScript → Option Span
  | .absent => none
  | .disabled => some .disabled
  | .labelled label => some (.root "custom" [("label", label)])

/-- A transport has an id or none; one that knows of spans is asked for its span. -/
structure TransportScript where
  id : Option String
  span : Option SpanScript

def TransportScript.toRequest (t : TransportScript) : TransportRequest where
  id := do
    note "transport" (.string "id")
    return t.id
  span := match t.span with
    | none => pure none
    | some script => do
      note "transport" (.string "span")
      return script.span

/-- Headers are found by their exact names. -/
def headerReader (headers : List (String × String)) (name : String) : Run (Option String) := do
  note "header" (.string name)
  return headers.lookup name

def hints (transport : Option TransportScript) (headers : Option (List (String × String))) :
    CorrelationHints :=
  { request := transport.map TransportScript.toRequest, headers := headers.map headerReader }

/-! ## Validators and executors -/

def limitsJson (l : Limits) : Json :=
  .object [("maxDepth", .word l.maxDepth), ("maxCost", .word l.maxCost)]

/-- Gives the same verdict whatever it is asked. -/
def fixedValidator (v : Verdict) : Validator := fun _ limits => do
  note "validate" (limitsJson limits)
  return v

/-- What is known of a request now. -/
def contextNow (ctx : RequestContext) : Run Json := return ctx.toJson (← Run.now)

/-- Logs that it executes, takes its time, and gives its outcome. -/
def executor (nanoseconds : Nat) (outcome : Outcome) : Executor := fun ctx => do
  note "execute" (← contextNow ctx)
  Run.log (← Run.currentSpan) .info "executing" []
  Run.advance nanoseconds
  return outcome

/-! ## Probes -/

/-- A stage that notes what it sees and does what its script says. -/
structure Probe where
  name : String
  setName : Option String := none
  clearTrace : Bool := false
  clearDocument : Bool := false
  newTraceName : Option String := none
  before : Nat := 0
  stop : Option Outcome := none
  after : Nat := 0
  replacement : Option Outcome := none

/-- What a probe makes of what is known of a request. -/
def Probe.change (p : Probe) (ctx : RequestContext) : RequestContext :=
  let trace := if p.clearTrace then none else ctx.trace
  { ctx with
    operationName := p.setName.or ctx.operationName
    document := if p.clearDocument then none else ctx.document
    trace := trace.map fun t => { t with operationName := p.newTraceName.getD t.operationName } }

def Probe.enter (p : Probe) (ctx : RequestContext) : Run Unit := do
  Run.note (.object [("enter", .string p.name), ("context", ← contextNow ctx)])

def Probe.leave (p : Probe) (outcome : Outcome) : Run Unit :=
  Run.note (.object [("exit", .string p.name), ("ok", .bool outcome.isOk)])

def Probe.toStage (p : Probe) : Stage := fun next => do
  p.enter (← get)
  modify p.change
  Run.advance p.before
  match p.stop with
  | some outcome => return outcome
  | none =>
    let outcome ← next
    Run.advance p.after
    p.leave outcome
    return p.replacement.getD outcome

end QueryGate.Rehearsal
