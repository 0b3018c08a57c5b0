-- What a line of stages does, without the nesting of its continuations. A
-- request goes through the line in one direction until a stage stops it or
-- the executor is reached, and its outcome goes back through the stages
-- that it has passed, the last one first.
import QueryGate.Serving.Stages

namespace QueryGate.Serving

open Analysis Answer GraphQL Log Request

/-! ## Kinds of stages -/

/-- A state whose validator gives its verdict and does nothing else. -/
structure Judge where
  limits : Limits
  verdict : Document → Limits → Verdict
  span : Span

def Judge.state (j : Judge) : GatewayState :=
  { limits := j.limits, validator := fun d limits => pure (j.verdict d limits), span := j.span }

/-- A stage of someone else that leaves alone what is known of the request, and the journal. It
fails the request or serves it, and time may pass before and after that. -/
structure OwnStage where
  stops? : RequestContext → World → Option Failure
  before : RequestContext → World → World
  after : RequestContext → Outcome → World → World
  before_journal : ∀ ctx w, (before ctx w).journal = w.journal
  after_journal : ∀ ctx outcome w, (after ctx outcome w).journal = w.journal

def OwnStage.toStage (s : OwnStage) : Stage := fun next => do
  let ctx ← get
  let failure? := s.stops? ctx (← (get : Run World))
  (modify (s.before ctx) : Run Unit)
  match failure? with
  | some failure => return .error failure
  | none =>
    let outcome ← next
    (modify (s.after (← get) outcome) : Run Unit)
    return outcome

/-- The stages of which lines are made. -/
inductive Link where
  | admission (j : Judge)
  | observation (st : GatewayState)
  | timing (st : GatewayState)
  | own (s : OwnStage)

def Link.toStage : Link → Stage
  | .admission j => Serving.admission j.state
  | .observation st => Serving.observation st
  | .timing st => Serving.timing st
  | .own s => s.toStage

/-- Serves a request with a line in front of an executor: the outcome, what is known of the request
afterwards, and the surroundings. -/
def serveLine (line : List Link) (executor : Executor) (ctx : RequestContext) (w : World) :
    (Outcome × RequestContext) × World :=
  ((execute (line.map Link.toStage) executor).run ctx).run w

/-! ## The lines of the log -/

def startedLine (ctx : RequestContext) (span : Span) : Event :=
  let (name, kind) := operationDetails ctx.document ctx.operationName
  ⟨.debug, "GraphQL " ++ kind.text ++ " " ++ name ++ " started", [("variables", ctx.values.text)],
    span.path⟩

def rejectedLine (span : Span) (v : Verdict) : Event :=
  ⟨.warn, "GraphQL query rejected due to complexity",
    [("depth", toString v.depth), ("cost", toString v.cost.toNat),
      ("max_depth", toString v.maxDepth.toNat), ("max_cost", toString v.maxCost.toNat),
      ("errors", Text.quotedList v.errors)], span.path⟩

/-- The line about the end of an operation, after a time in nanoseconds. -/
def concludingLine (t : Timed) (outcome : Outcome) (nanoseconds : Nat) : Event :=
  let title := "GraphQL " ++ t.kind.text ++ " " ++ t.name
  let duration := durationText nanoseconds
  match outcome with
  | .ok response =>
    if response.hasErrors then
      ⟨.warn, title ++ " completed with errors in " ++ duration ++ "ms",
        [("duration_ms", duration), ("errors", summarize response.errors)], t.span.path⟩
    else ⟨.info, title ++ " completed in " ++ duration ++ "ms", [("duration_ms", duration)],
      t.span.path⟩
  | .error failure =>
    ⟨.error, title ++ " failed after " ++ duration ++ "ms",
      [("duration_ms", duration), ("error.message", failure.display),
        ("error.stack", failure.describe)], t.span.path⟩

/-- The surroundings with one more line in the log. -/
def logged (w : World) (e : Event) : World := { w with journal := w.journal ++ [.event e] }

/-! ## On the way in -/

/-- Where a request is on its way through a line: the trace that it has by then, and its
surroundings. Nothing else that is known of it changes. -/
structure Place where
  trace : Option OperationTrace
  world : World

def Place.context (p : Place) (ctx : RequestContext) : RequestContext :=
  { ctx with trace := p.trace }

/-- The verdict that turns a request away. One without a document is let through. -/
def Judge.refusal? (j : Judge) (ctx : RequestContext) : Option Verdict :=
  ctx.document.bind fun d =>
    let v := j.verdict d j.limits
    if v.valid then none else some v

/-- The failure of a request that was turned away. -/
def refused (v : Verdict) : Failure :=
  .rejected
    { message := v.errors.head?.getD "Query complexity exceeds the configured limits"
      depth := v.depth
      cost := v.cost
      maxDepth := v.maxDepth
      maxCost := v.maxCost }

/-- What is asked of a request's hints when it is observed: its id, and then its span. -/
def asked (ctx : RequestContext) (w : World) : (String × Option Span) × World :=
  let (traceId, w') := ctx.hints.traceId.run w
  let (span, w'') := ctx.hints.span.run w'
  ((traceId, span), w'')

/-- The trace that a request is given when it is observed. -/
def traceAt (ctx : RequestContext) (st : GatewayState) (w : World) : OperationTrace :=
  let ((traceId, span), w') := asked ctx w
  let (name, kind) := operationDetails ctx.document ctx.operationName
  { traceId
    span := operationSpan (span.getD st.span) traceId name kind
    start := w'.now
    operationName := name
    operationKind := kind }

namespace Link

/-- Why a stage stops a request, if it does. -/
def stops? (ctx : RequestContext) : Link → Place → Option Failure
  | .admission j, _ => (j.refusal? ctx).map refused
  | .own s, p => s.stops? (p.context ctx) p.world
  | _, _ => none

/-- The surroundings after a stage has stopped a request. -/
def stopped (ctx : RequestContext) : Link → Place → World
  | .admission j, p =>
    ((j.refusal? ctx).map fun v => logged p.world (rejectedLine j.span v)).getD p.world
  | .own s, p => s.before (p.context ctx) p.world
  | _, p => p.world

/-- Where a request is after a stage that did not stop it. -/
def enter (ctx : RequestContext) : Link → Place → Place
  | .observation st, p =>
    let trace := traceAt ctx st p.world
    let w := logged (asked ctx p.world).2 (startedLine ctx trace.span)
    ⟨some trace, { w with current := trace.span }⟩
  | .own s, p => { p with world := s.before (p.context ctx) p.world }
  | _, p => p

/-- The surroundings after a stage that a request came to at `p` was handed its outcome. -/
def leave (ctx : RequestContext) : Link → Place → RequestContext → Outcome → World → World
  | .observation _, p, _, _, w => { w with current := (asked ctx p.world).2.current }
  | .timing st, p, _, outcome, w =>
    let t := timedBy st p.trace p.world.now
    logged w (concludingLine t outcome (w.now - t.start))
  | .own s, _, ctx', outcome, w => s.after ctx' outcome w
  | .admission _, _, _, _, w => w

end Link

/-! ## One stage -/

theorem logEnd_run (t : Timed) (outcome : Outcome) (nanoseconds : Nat) (w : World) :
    (logEnd t outcome (durationText nanoseconds)).run w =
      ((), logged w (concludingLine t outcome nanoseconds)) := by
  rcases outcome with failure | response
  · rfl
  · simp only [logEnd, concludingLine]
    split <;> rfl

theorem Judge.check_run (j : Judge) (d : Document) (w : World) :
    (j.state.check d).run w =
      let v := j.verdict d j.limits
      if v.valid then (.ok (), w)
      else (.error (.ofVerdict v), logged w (rejectedLine j.span v)) := by
  show (if (j.verdict d j.limits).valid then pure (.ok ()) else _ : Run (Except _ _)).run w = _
  by_cases h : (j.verdict d j.limits).valid = true
  · rw [if_pos h]
    exact (if_pos h).symm
  · rw [if_neg h]
    exact (if_neg h).symm

theorem Judge.refusal?_eq_some_iff {j : Judge} {ctx : RequestContext} {v : Verdict} :
    j.refusal? ctx = some v ↔
      ∃ d, ctx.document = some d ∧ j.verdict d j.limits = v ∧ ¬ v.valid = true := by
  rw [Judge.refusal?, Option.bind_eq_some_iff]
  refine exists_congr fun d => and_congr_right fun _ => ?_
  constructor
  · intro h
    dsimp only at h
    split at h
    · cases h
    · rename_i invalid
      exact ⟨Option.some.inj h, Option.some.inj h ▸ invalid⟩
  · rintro ⟨rfl, invalid⟩
    exact if_neg invalid

theorem admission_run_of_some {j : Judge} {ctx : RequestContext} {v : Verdict}
    (h : j.refusal? ctx = some v) (next : Handler) (w : World) :
    ((admission j.state next).run ctx).run w =
      ((.error (refused v), ctx), logged w (rejectedLine j.span v)) := by
  obtain ⟨d, hd, rfl, invalid⟩ := Judge.refusal?_eq_some_iff.mp h
  have check := (j.check_run d w).trans (if_neg invalid)
  simp only [admission, StateT.run_bind, StateT.run_get, StateT.run_monadLift, monadLift_self,
    bind_pure_comp, bind_map_left, pure_bind, hd, check]
  rfl

theorem admission_run_of_none {j : Judge} {ctx : RequestContext} (h : j.refusal? ctx = none)
    (next : Handler) (w : World) :
    ((admission j.state next).run ctx).run w = (next.run ctx).run w := by
  rcases hd : ctx.document with _ | d
  · simp only [admission, StateT.run_bind, StateT.run_get, pure_bind, hd]
  · have valid : (j.verdict d j.limits).valid = true := by
      refine Decidable.by_contra fun invalid => ?_
      have refusal := Judge.refusal?_eq_some_iff.mpr ⟨d, hd, rfl, invalid⟩
      cases h.symm.trans refusal
    have check := (j.check_run d w).trans (if_pos valid)
    simp only [admission, StateT.run_bind, StateT.run_get, StateT.run_monadLift, monadLift_self,
      bind_pure_comp, bind_map_left, pure_bind, hd, check]
    rfl

theorem timing_run (st : GatewayState) (next : Handler) (ctx : RequestContext) (w : World) :
    ((timing st next).run ctx).run w =
      let t := timedBy st ctx.trace w.now
      let r := (next.run ctx).run w
      (r.1, logged r.2 (concludingLine t r.1.1 (r.2.now - t.start))) := by
  show (let t := timedBy st ctx.trace w.now
    let r := (next.run ctx).run w
    (r.1, ((logEnd t r.1.1 (durationText (r.2.now - t.start))).run r.2).2)) = _
  simp only [logEnd_run]

theorem own_run_of_some {s : OwnStage} {ctx : RequestContext} {w : World} {failure : Failure}
    (h : s.stops? ctx w = some failure) (next : Handler) :
    ((s.toStage next).run ctx).run w = ((.error failure, ctx), s.before ctx w) := by
  simp only [OwnStage.toStage, StateT.run_bind, StateT.run_get, StateT.run_modify,
    StateT.run_monadLift, monadLift_self, bind_pure_comp, bind_map_left, pure_bind, h]
  rfl

theorem own_run_of_none {s : OwnStage} {ctx : RequestContext} {w : World}
    (h : s.stops? ctx w = none) (next : Handler) :
    ((s.toStage next).run ctx).run w =
      let r := (next.run ctx).run (s.before ctx w)
      (r.1, s.after r.1.2 r.1.1 r.2) := by
  simp only [OwnStage.toStage, StateT.run_bind, StateT.run_get, StateT.run_modify,
    StateT.run_monadLift, monadLift_self, bind_pure_comp, bind_map_left, pure_bind, h]
  rfl

namespace Link

variable {ctx : RequestContext} {p : Place}

/-- A stage that stops a request gives its failure, and runs nothing of the rest of the line. -/
theorem run_of_stops (link : Link) {failure : Failure} (h : link.stops? ctx p = some failure)
    (next : Handler) :
    ((link.toStage next).run (p.context ctx)).run p.world =
      ((.error failure, p.context ctx), link.stopped ctx p) := by
  cases link with
  | admission j =>
    obtain ⟨v, hv, rfl⟩ := Option.map_eq_some_iff.mp h
    have hv' : j.refusal? (p.context ctx) = some v := hv
    simp only [toStage, admission_run_of_some hv', stopped, hv, Option.map_some, Option.getD_some]
  | observation st => cases h
  | timing st => cases h
  | own s =>
    have hs : s.stops? (p.context ctx) p.world = some failure := h
    exact own_run_of_some hs next

/-- A stage that does not stop a request runs the rest of the line once, and hands its outcome
back. -/
theorem run_of_passes (link : Link) (h : link.stops? ctx p = none) (next : Handler) :
    ((link.toStage next).run (p.context ctx)).run p.world =
      let r := (next.run ((link.enter ctx p).context ctx)).run (link.enter ctx p).world
      (r.1, link.leave ctx p r.1.2 r.1.1 r.2) := by
  cases link with
  | admission j =>
    have hv : j.refusal? (p.context ctx) = none := Option.map_eq_none_iff.mp h
    exact admission_run_of_none hv next p.world
  | observation st => rfl
  | timing st =>
    rw [toStage, timing_run]
    rfl
  | own s =>
    have hs : s.stops? (p.context ctx) p.world = none := h
    exact own_run_of_none hs next

end Link

/-! ## A line of stages -/

section

variable (ctx : RequestContext)

/-- Where a request is after stages that did not stop it. -/
def arrive (line : List Link) (p : Place) : Place := line.foldl (fun p link => link.enter ctx p) p

/-- The surroundings after stages were handed the outcome of a request, the last stage first. -/
def leaveAll : List Link → Place → RequestContext → Outcome → World → World
  | [], _, _, _, w => w
  | link :: rest, p, ctx', outcome, w =>
    link.leave ctx p ctx' outcome (leaveAll rest (link.enter ctx p) ctx' outcome w)

/-- No stage of a line stops the request. -/
def Passes (line : List Link) (p : Place) : Prop :=
  ∀ earlier link later, line = earlier ++ link :: later →
    link.stops? ctx (arrive ctx earlier p) = none

/-- The first stage of a line that stops the request, with the stages before and after it. -/
structure StopsAt (line : List Link) (p : Place) (earlier : List Link) (k : Link)
    (later : List Link) (failure : Failure) : Prop where
  line_eq : line = earlier ++ k :: later
  passes : Passes ctx earlier p
  stops : k.stops? ctx (arrive ctx earlier p) = some failure

theorem passes_nil (p : Place) : Passes ctx [] p := by
  intro earlier k later hl
  cases earlier <;> cases hl

theorem passes_cons {link : Link} {rest : List Link} {p : Place} :
    Passes ctx (link :: rest) p ↔
      link.stops? ctx p = none ∧ Passes ctx rest (link.enter ctx p) := by
  constructor
  · intro h
    refine ⟨h [] link rest rfl, fun earlier k later hl => ?_⟩
    exact h (link :: earlier) k later (by rw [hl, List.cons_append])
  · rintro ⟨first, rest_passes⟩ earlier k later hl
    cases earlier with
    | nil =>
      obtain ⟨rfl, -⟩ := List.cons.inj hl
      exact first
    | cons _ earlier =>
      obtain ⟨rfl, hr⟩ := List.cons.inj hl
      exact rest_passes earlier k later hr

/-- A line passes a request, or one of its stages is the first to stop it. -/
theorem passes_or_stops (line : List Link) (p : Place) :
    Passes ctx line p ∨ ∃ earlier k later failure, StopsAt ctx line p earlier k later failure := by
  induction line generalizing p with
  | nil => exact .inl (passes_nil ctx p)
  | cons link rest ih =>
    rcases h : link.stops? ctx p with _ | failure
    · rcases ih (link.enter ctx p) with hp | ⟨earlier, k, later, failure, hk⟩
      · exact .inl ((passes_cons ctx).mpr ⟨h, hp⟩)
      · right
        refine ⟨link :: earlier, k, later, failure, ?_, ?_, hk.stops⟩
        · rw [hk.line_eq, List.cons_append]
        · exact (passes_cons ctx).mpr ⟨h, hk.passes⟩
    · exact .inr ⟨[], link, rest, failure, rfl, passes_nil ctx p, h⟩

/-- Stages that do not stop a request run the rest of the line once, from where they leave the
request, and hand its outcome back. -/
theorem serveLine_append {earlier : List Link} {p : Place} (h : Passes ctx earlier p)
    (later : List Link) (executor : Executor) :
    serveLine (earlier ++ later) executor (p.context ctx) p.world =
      let q := arrive ctx earlier p
      let r := serveLine later executor (q.context ctx) q.world
      (r.1, leaveAll ctx earlier p r.1.2 r.1.1 r.2) := by
  induction earlier generalizing p with
  | nil => rfl
  | cons link rest ih =>
    obtain ⟨first, rest_passes⟩ := (passes_cons ctx).mp h
    -- The rest of the line is the continuation that the first stage is given.
    have one := link.run_of_passes first (execute ((rest ++ later).map Link.toStage) executor)
    have others := ih rest_passes
    rw [serveLine] at others
    rw [others] at one
    exact one

theorem serveLine_of_passes {line : List Link} {p : Place} (h : Passes ctx line p)
    (executor : Executor) :
    serveLine line executor (p.context ctx) p.world =
      let q := arrive ctx line p
      let r := (executor (q.context ctx)).run q.world
      ((r.1, q.context ctx), leaveAll ctx line p (q.context ctx) r.1 r.2) := by
  have all := serveLine_append ctx h [] executor
  rw [List.append_nil] at all
  exact all

theorem serveLine_of_stopsAt {line : List Link} {p : Place} {earlier later : List Link} {k : Link}
    {failure : Failure} (h : StopsAt ctx line p earlier k later failure) (executor : Executor) :
    serveLine line executor (p.context ctx) p.world =
      let q := arrive ctx earlier p
      ((.error failure, q.context ctx),
        leaveAll ctx earlier p (q.context ctx) (.error failure) (k.stopped ctx q)) := by
  have all := serveLine_append ctx h.passes (k :: later) executor
  have last : serveLine (k :: later) executor _ _ = _ :=
    k.run_of_stops h.stops (execute (later.map Link.toStage) executor)
  simp only [last, ← h.line_eq] at all
  exact all

end

/-! ## The log of a line -/

/-- Writes nothing to the journal. -/
def Quiet {α : Type} (act : Run α) : Prop := ∀ w, (act.run w).2.journal = w.journal

theorem Quiet.pure {α : Type} (a : α) : Quiet (Pure.pure a) := fun _ => rfl

theorem Quiet.bind {α β : Type} {act : Run α} {next : α → Run β} (h : Quiet act)
    (hnext : ∀ a, Quiet (next a)) : Quiet (act >>= next) :=
  fun w => (hnext (act.run w).1 (act.run w).2).trans (h w)

/-- The transport and the headers of a request write nothing when they are asked. -/
structure QuietHints (h : CorrelationHints) : Prop where
  transport : ∀ request, h.request = some request → Quiet request.id ∧ Quiet request.span
  headers : ∀ read, h.headers = some read → Quiet (read requestIdHeader)

/-- The log lines that a stage writes before it hands over. -/
def Link.starting (ctx : RequestContext) : Link → Place → List Event
  | .observation st, p => [startedLine ctx (traceAt ctx st p.world).span]
  | _, _ => []

/-- The log lines that a stage writes when it stops a request. -/
def Link.refusing (ctx : RequestContext) : Link → List Event
  | .admission j => ((j.refusal? ctx).map (rejectedLine j.span)).toList
  | _ => []

/-- The log lines that a stage that a request came to at `p` writes when it is handed the
outcome. -/
def Link.concluding (p : Place) (outcome : Outcome) (now : Nat) : Link → List Event
  | .timing st =>
    let t := timedBy st p.trace p.world.now
    [concludingLine t outcome (now - t.start)]
  | _ => []

section

variable (ctx : RequestContext)

/-- The log lines of a line on the way in, in the order of its stages. -/
def startedLines : List Link → Place → List Event
  | [], _ => []
  | link :: rest, p => link.starting ctx p ++ startedLines rest (link.enter ctx p)

/-- The log lines of a line on the way back, from its last stage to its first. -/
def concludingLines : List Link → Place → RequestContext → Outcome → World → List Event
  | [], _, _, _, _ => []
  | link :: rest, p, ctx', outcome, w =>
    let w' := leaveAll ctx rest (link.enter ctx p) ctx' outcome w
    concludingLines rest (link.enter ctx p) ctx' outcome w ++ link.concluding p outcome w'.now

theorem asked_journal {ctx : RequestContext} (h : QuietHints ctx.hints) (w : World) :
    (asked ctx w).2.journal = w.journal := by
  have transportId : Quiet ctx.hints.transportId := by
    unfold CorrelationHints.transportId
    rcases hr : ctx.hints.request with _ | request
    · exact Quiet.pure none
    · exact (h.transport request hr).1
  have headerId : Quiet ctx.hints.headerId := by
    unfold CorrelationHints.headerId
    rcases hr : ctx.hints.headers with _ | read
    · exact Quiet.pure none
    · exact h.headers read hr
  have traceId : Quiet ctx.hints.traceId := by
    refine transportId.bind fun id => ?_
    rcases id with _ | id
    · refine headerId.bind fun id => ?_
      rcases id with _ | id
      · exact fun _ => rfl
      · exact Quiet.pure id
    · exact Quiet.pure id
  have span : Quiet ctx.hints.span := by
    unfold CorrelationHints.span
    rcases hr : ctx.hints.request with _ | request
    · exact Quiet.pure none
    · exact (h.transport request hr).2
  exact (span _).trans (traceId w)

theorem enter_journal {ctx : RequestContext} (h : QuietHints ctx.hints) (link : Link) (p : Place) :
    (link.enter ctx p).world.journal =
      p.world.journal ++ (link.starting ctx p).map Entry.event := by
  cases link with
  | observation st =>
    show (asked ctx p.world).2.journal ++ _ = _
    rw [asked_journal h]
    rfl
  | own s => exact (s.before_journal _ _).trans (List.append_nil _).symm
  | _ => exact (List.append_nil _).symm

theorem leave_journal (link : Link) (p : Place) (ctx' : RequestContext) (outcome : Outcome)
    (w : World) :
    (link.leave ctx p ctx' outcome w).journal =
      w.journal ++ (link.concluding p outcome w.now).map Entry.event := by
  cases link with
  | own s => exact (s.after_journal _ _ _).trans (List.append_nil _).symm
  | timing st => rfl
  | _ => exact (List.append_nil _).symm

theorem stopped_journal {link : Link} {p : Place} {failure : Failure}
    (h : link.stops? ctx p = some failure) :
    (link.stopped ctx p).journal = p.world.journal ++ (link.refusing ctx).map Entry.event := by
  cases link with
  | admission j =>
    obtain ⟨v, hv, -⟩ := Option.map_eq_some_iff.mp h
    simp only [Link.stopped, Link.refusing, hv]
    rfl
  | own s => exact (s.before_journal _ _).trans (List.append_nil _).symm
  | observation st => cases h
  | timing st => cases h

theorem arrive_journal {ctx : RequestContext} (h : QuietHints ctx.hints) (line : List Link)
    (p : Place) :
    (arrive ctx line p).world.journal =
      p.world.journal ++ (startedLines ctx line p).map Entry.event := by
  induction line generalizing p with
  | nil => exact (List.append_nil _).symm
  | cons link rest ih =>
    have first := enter_journal h link p
    rw [startedLines, List.map_append, ← List.append_assoc, ← first, ← ih]
    rfl

theorem leaveAll_journal (line : List Link) (p : Place) (ctx' : RequestContext)
    (outcome : Outcome) (w : World) :
    (leaveAll ctx line p ctx' outcome w).journal =
      w.journal ++ (concludingLines ctx line p ctx' outcome w).map Entry.event := by
  induction line generalizing p with
  | nil => exact (List.append_nil _).symm
  | cons link rest ih =>
    rw [leaveAll, leave_journal, ih, concludingLines, List.map_append, List.append_assoc]

/-! ## Which trace a stage finds -/

theorem arrive_trace_of_unobserved {line : List Link} (h : ∀ st, .observation st ∉ line)
    (p : Place) : (arrive ctx line p).trace = p.trace := by
  induction line generalizing p with
  | nil => rfl
  | cons link rest ih =>
    have later := ih (fun st hs => h st (List.mem_cons_of_mem _ hs)) (link.enter ctx p)
    refine later.trans ?_
    cases link with
    | observation st => exact absurd List.mem_cons_self (h st)
    | _ => rfl

theorem arrive_trace_of_observed {before after : List Link} {st : GatewayState}
    (h : ∀ st', .observation st' ∉ after) (p : Place) :
    (arrive ctx (before ++ .observation st :: after) p).trace =
      some (traceAt ctx st (arrive ctx before p).world) := by
  rw [arrive, List.foldl_append, List.foldl_cons]
  exact arrive_trace_of_unobserved ctx h _

/-! ## The whole of it -/

/-- What any line of stages does with any request.

Either no stage stops the request: then the executor runs once, its outcome is the outcome of the
line, and the log has a line for each observation and, the other way round, one for each timing. Or
a first stage stops it: then its failure is the outcome, nothing behind it runs, and the log has the
same lines of the stages before it, with the rejection between them where there is one. A timing
stage logs about the operation that the last observation in front of it found. -/
theorem a_line_of_stages_does_exactly_this (line : List Link) (w : World) :
    let start : Place := ⟨ctx.trace, w⟩
    (Passes ctx line start ∨
      ∃ earlier k later failure, StopsAt ctx line start earlier k later failure) ∧
    (Passes ctx line start → ∀ executor : Executor,
      let p := arrive ctx line start
      let r := (executor (p.context ctx)).run p.world
      let served := serveLine line executor ctx w
      served = ((r.1, p.context ctx), leaveAll ctx line start (p.context ctx) r.1 r.2) ∧
      (QuietHints ctx.hints → Quiet (executor (p.context ctx)) →
        served.2.journal = w.journal ++ (startedLines ctx line start ++
          concludingLines ctx line start (p.context ctx) r.1 r.2).map Entry.event)) ∧
    (∀ earlier k later failure, StopsAt ctx line start earlier k later failure →
      ∀ executor : Executor,
      let p := arrive ctx earlier start
      let served := serveLine line executor ctx w
      served = ((.error failure, p.context ctx),
        leaveAll ctx earlier start (p.context ctx) (.error failure) (k.stopped ctx p)) ∧
      (QuietHints ctx.hints →
        served.2.journal = w.journal ++ (startedLines ctx earlier start ++ k.refusing ctx ++
          concludingLines ctx earlier start (p.context ctx) (.error failure)
            (k.stopped ctx p)).map Entry.event)) ∧
    (∀ (st : GatewayState) (now : Nat) (before after : List Link),
      (∀ st', .observation st' ∉ after) →
      (ctx.trace = none →
        timedBy st (arrive ctx after start).trace now = ⟨now, "unknown", .unknown, st.span⟩) ∧
      ∀ st', let trace := traceAt ctx st' (arrive ctx before start).world
        let (name, kind) := operationDetails ctx.document ctx.operationName
        timedBy st (arrive ctx (before ++ .observation st' :: after) start).trace now =
          ⟨trace.start, name, kind, trace.span⟩) := by
  intro start
  refine ⟨passes_or_stops ctx line start, ?_, ?_, ?_⟩
  · intro passes executor p r served
    have whole : served = _ := serveLine_of_passes ctx passes executor
    refine ⟨whole, fun hints quiet => ?_⟩
    rw [whole, List.map_append, ← List.append_assoc]
    rw [leaveAll_journal, quiet p.world, arrive_journal hints]
  · intro earlier k later failure stops executor p served
    have whole : served = _ := serveLine_of_stopsAt ctx stops executor
    refine ⟨whole, fun hints => ?_⟩
    rw [whole, List.map_append, List.map_append, ← List.append_assoc, ← List.append_assoc]
    rw [leaveAll_journal, stopped_journal ctx stops.stops, arrive_journal hints]
  · intro st now before after unobserved
    constructor
    · intro unset
      rw [arrive_trace_of_unobserved ctx unobserved, show start.trace = none from unset]
      rfl
    · intro st'
      rw [arrive_trace_of_observed ctx unobserved]
      rfl

end

/-- A request that is observed twice and timed three times before it is turned away. The first timing
stage finds no trace, the other two that of the observation before them; the stage between the two
takes its time on both ways. Nothing behind the rejection is run, the executor neither. -/
theorem observed_twice_and_turned_away :
    let st : GatewayState := { limits := {}, validator := complexityValidator {} }
    let slow : OwnStage :=
      { stops? := fun _ _ => none
        before := fun _ w => { w with now := w.now + 1500000 }
        after := fun _ _ w => { w with now := w.now + 10000 }
        before_journal := fun _ _ => rfl
        after_journal := fun _ _ _ => rfl }
    let j : Judge :=
      { limits := {}
        verdict := fun _ _ => ⟨false, 3, 7, 2, 9, ["too deep", "too dear"]⟩
        span := .root "gate" [] }
    let earlier : List Link :=
      [.timing st, .observation st, .timing st, .own slow, .observation st, .timing st]
    let later : List Link := [.observation st, .timing st, .own slow]
    let ctx : RequestContext :=
      { document := some ⟨.named [("A", { type := .mutation, selections := [] })], []⟩ }
    let failure : Failure := .rejected ⟨"too deep", 3, 7, 2, 9⟩
    let executor : Executor := fun _ => do Run.note .null; return .ok {}
    let line := earlier ++ .admission j :: later
    let served := serveLine line executor ctx { ids := toString }
    StopsAt ctx line ⟨none, { ids := toString }⟩ earlier (.admission j) later failure ∧
    served.1.1 = .error failure ∧
    served.2.journal.map (fun
        | .event e => (e.level, e.message, (e.spans.flatMap (·.fields)).lookup "trace_id")
        | .note _ => (.error, "", none)) =
      [(.debug, "GraphQL mutation A started", some "0"),
        (.debug, "GraphQL mutation A started", some "1"),
        (.warn, "GraphQL query rejected due to complexity", none),
        (.error, "GraphQL mutation A failed after 0ms", some "1"),
        (.error, "GraphQL mutation A failed after 1.51ms", some "0"),
        (.error, "GraphQL unknown unknown failed after 1.51ms", none)] := by
  intro st slow j earlier later ctx failure executor line served
  have stops : StopsAt ctx line ⟨none, { ids := toString }⟩ earlier (.admission j) later failure :=
    { line_eq := rfl
      passes := by simp [earlier, passes_cons, passes_nil, Link.stops?, slow]
      stops := rfl }
  obtain ⟨-, -, stopped, -⟩ := a_line_of_stages_does_exactly_this ctx line { ids := toString }
  obtain ⟨whole, lines⟩ := stopped _ _ _ _ stops executor
  refine ⟨stops, by rw [show served = _ from whole], ?_⟩
  rw [show served.2.journal = _ from lines ⟨nofun, nofun⟩]
  decide +kernel

end QueryGate.Serving
