-- Two places for admission. A gateway can hold documents to its limits as
-- the first of its stages, or be plugged into an engine that shows it each
-- document as soon as it is parsed. Nobody can tell the two apart: not the
-- client, not the engine, and not who reads the log.
import QueryGate.Proofs.InFlight
import QueryGate.Proofs.Walking

namespace QueryGate.Serving

open Analysis Answer GraphQL Log Request

/-! ## The two ways to be served -/

/-- A request whose text was parsed. -/
structure ParsedRequest where
  document : Document
  operationName : Option String := none
  values : Variables := []
  hints : CorrelationHints := {}

/-- What is known of a request before any stage has seen it. -/
def ParsedRequest.context (r : ParsedRequest) : RequestContext :=
  { document := some r.document, operationName := r.operationName, values := r.values,
    hints := r.hints }

/-- Serves a request through the stages of a gateway that checks documents itself. `next` is what the
engine does for an execution. -/
def servedByStages (st : GatewayState) (r : ParsedRequest) (next : Run Response) :
    Run Response := do
  let executor : Executor := fun _ => return .ok (← next)
  let (outcome, _) ← (execute (gatewayStages st) executor).run r.context
  match outcome with
  | .ok response => return response
  | .error failure => return failure.toResponse

/-- Serves a request through an engine that a gateway is plugged into. An error for the text is the
whole answer; otherwise the request is executed once. -/
def servedByEngine (g : Gateway) (r : ParsedRequest) (next : Run Response) : Run Response := do
  let (checked, session) ← g.parseCall {} (.ok r.document) r.values
  match checked with
  | .error e => return { errors := [e] }
  | .ok _ => g.executeCall session r.hints r.operationName next

/-! ## Admitted and refused -/

variable (limits : Limits) (m : CostModel) {r : ParsedRequest}

/-- The session of a request whose document was admitted. -/
def ParsedRequest.session (r : ParsedRequest) : Session := ⟨some (r.document, r.values)⟩

theorem servedByEngine_of_admitted (h : Admitted limits m r.document) (next : Run Response)
    (w : World) :
    let g := Gateway.ofConfig limits m
    (servedByEngine g r next).run w =
      (g.executeCall r.session r.hints r.operationName next).run w := by
  intro g
  have parsed : (g.parseCall {} (.ok r.document) r.values).run w = _ :=
    (parseCall_run limits m {} r.document r.values w).trans (if_pos h)
  unfold servedByEngine
  rw [StateT.run_bind, parsed]
  rfl

theorem servedByEngine_of_refused (h : ¬ Admitted limits m r.document) (next : Run Response)
    (w : World) :
    let st := GatewayState.ofConfig limits m
    let v := m.validate r.document limits
    (servedByEngine (Gateway.ofConfig limits m) r next).run w =
      ({ errors := [(Rejection.ofVerdict v).toServerError] }, logged w (rejectedLine st.span v)) := by
  intro st v
  have parsed : ((Gateway.ofConfig limits m).parseCall {} (.ok r.document) r.values).run w = _ :=
    (parseCall_run limits m {} r.document r.values w).trans (if_neg h)
  unfold servedByEngine
  rw [StateT.run_bind, parsed]
  rfl

theorem refusal?_of_admitted (h : Admitted limits m r.document) :
    (standardJudge limits m).refusal? r.context = none := if_pos h

theorem refusal?_of_refused (h : ¬ Admitted limits m r.document) :
    (standardJudge limits m).refusal? r.context = some (m.validate r.document limits) := if_neg h

/-- An admitted request goes on to the stages that an execution in the engine passes, and nothing
about it is different there. -/
theorem servedByStages_of_admitted (h : Admitted limits m r.document) (next : Run Response)
    (w : World) :
    (servedByStages (GatewayState.ofConfig limits m) r next).run w =
      ((Gateway.ofConfig limits m).executeCall r.session r.hints r.operationName next).run w := by
  let st := GatewayState.ofConfig limits m
  let executor : Executor := fun _ => do return .ok (← next)
  have passed : ((execute (gatewayStages st) executor).run r.context).run w =
      ((execute (instrumentedStages st) executor).run r.context).run w :=
    admission_run_of_none (refusal?_of_admitted limits m h) _ w
  unfold servedByStages Gateway.executeCall
  simp only [executor] at passed
  rw [StateT.run_bind, StateT.run_bind, passed]
  rfl

theorem servedByStages_of_refused (h : ¬ Admitted limits m r.document) (next : Run Response)
    (w : World) :
    let st := GatewayState.ofConfig limits m
    let v := m.validate r.document limits
    (servedByStages st r next).run w =
      ((refused v).toResponse, logged w (rejectedLine st.span v)) := by
  intro st v
  let executor : Executor := fun _ => do return .ok (← next)
  have stopped : ((execute (gatewayStages st) executor).run r.context).run w = _ :=
    admission_run_of_some (refusal?_of_refused limits m h) _ w
  unfold servedByStages
  rw [StateT.run_bind, stopped]
  rfl

/-! ## How often a request is executed -/

/-- A number in the surroundings that counts executions: each one adds one to it, and nothing else that
is done for the request changes it. -/
structure CountsExecutions (count : World → Nat) (ctx : RequestContext) (next : Run Response) :
    Prop where
  line : ∀ w e, count (logged w e) = count w
  span : ∀ (w : World) (s : Span), count { w with current := s } = count w
  hints : ∀ w, count (asked ctx w).2 = count w
  executed : ∀ w, count (next.run w).2 = count w + 1

section

variable {count : World → Nat} {ctx : RequestContext} {next : Run Response}

theorem count_begins (h : CountsExecutions count ctx next) (st : GatewayState) (w : World) :
    count (begins st ctx w).2 = count w := by
  unfold begins
  dsimp only
  rw [h.span, h.line, h.hints]

theorem count_ends (h : CountsExecutions count ctx next) (e : Execution) (response : Response)
    (w : World) : count (ends e response w) = count w := by
  unfold ends
  dsimp only
  rw [h.span, h.line]

end

/-! ## The whole of it -/

/-- A request is served alike by the stages of a gateway that checks documents itself and by an engine
that the gateway is plugged into: the answer is the same, and so is what is left of the
surroundings, with all that was logged.

A request that is admitted is executed once, between its two lines of the log, and answered what that
gives. One that is not admitted is answered its rejection and nothing more, after one line of the
log, and is not executed. -/
theorem the_two_placements_agree (limits : Limits) (m : CostModel) (r : ParsedRequest)
    (next : Run Response) (w : World) :
    let st := GatewayState.ofConfig limits m
    let byStages := (servedByStages st r next).run w
    let byEngine := (servedByEngine (Gateway.ofConfig limits m) r next).run w
    byEngine = byStages ∧
    (Admitted limits m r.document →
      let begun := begins st r.context w
      let answer := next.run begun.2
      byStages = (answer.1, ends begun.1 answer.1 answer.2)) ∧
    (¬ Admitted limits m r.document →
      let v := m.validate r.document limits
      let error : ServerError :=
        { message := v.errors.head?.getD "Query complexity exceeds the configured limits"
          locations := []
          path := []
          extensions := [("code", .string "QUERY_COMPLEXITY_EXCEEDED"), ("depth", .nat v.depth),
            ("cost", .word v.cost), ("maxDepth", .word limits.maxDepth),
            ("maxCost", .word limits.maxCost)] }
      byStages = ({ data := .null, errors := [error] }, logged w (rejectedLine st.span v))) ∧
    (∀ count, CountsExecutions count r.context next →
      count byStages.2 = count w + if Admitted limits m r.document then 1 else 0) := by
  intro st byStages byEngine
  by_cases h : Admitted limits m r.document
  · have staged : byStages = _ := servedByStages_of_admitted limits m h next w
    have plugged : byEngine = _ := servedByEngine_of_admitted limits m h next w
    have once : byStages = _ :=
      staged.trans (executeCall_run st r.session r.hints r.operationName next w)
    refine ⟨plugged.trans staged.symm, fun _ => once, fun refused => absurd h refused, ?_⟩
    intro count counts
    rw [if_pos h, once]
    dsimp only
    rw [count_ends counts, counts.executed]
    exact congrArg (· + 1) (count_begins counts st w)
  · have staged : byStages = _ := servedByStages_of_refused limits m h next w
    have plugged : byEngine = _ := servedByEngine_of_refused limits m h next w
    refine ⟨plugged.trans staged.symm, fun admitted => absurd admitted h, fun _ => staged, ?_⟩
    intro count counts
    rw [if_neg h, staged]
    exact counts.line w _

/-- Under limits of nothing, a request for nothing is executed once and a request for a field is not
executed: an execution that leaves a note shows it. -/
theorem only_what_is_admitted_leaves_a_note :
    let ask (selections : List Selection) : ParsedRequest :=
      { document := { operations := .single { type := .query, selections }, fragments := [] } }
    let next : Run Response := do Run.note .null; return {}
    let notes (w : World) : Nat := w.journal.countP fun | .note _ => true | .event _ => false
    let left (r : ParsedRequest) : Nat :=
      notes ((servedByEngine (Gateway.ofConfig ⟨0, 0⟩ {}) r next).run { ids := toString }).2
    left (ask []) = 1 ∧ left (ask [.field { name := "me" } []]) = 0 := by
  intro ask next notes left
  have counts (r : ParsedRequest) (h : r.hints = {}) : CountsExecutions notes r.context next := by
    refine ⟨fun w e => ?_, fun _ _ => rfl, fun w => ?_, fun w => ?_⟩
    · simp [notes, logged]
    · show notes (r.hints.span.run (r.hints.traceId.run w).2).2 = notes w
      rw [h]
      rfl
    · show List.countP _ (w.journal ++ [Entry.note .null]) = _
      simp [notes]
  let field : Selection := .field { name := "me" } []
  have flat : depth (ask []).document = 0 := by
    simp [depth, ask, Measure.document_eq, Document.operationList, Operations.toList, depthMeasure]
  have free : CostModel.estimate {} (ask []).document = 0 := by
    simp only [CostModel.estimate, ask, Measure.document_eq, Document.operationList,
      Operations.toList, List.map_cons, List.map_nil, Measure.all_nil]
    rfl
  have deeper : depth (ask [field]).document = 1 := by
    simp [depth, ask, field, Measure.document_eq, Document.operationList, Operations.toList,
      depthMeasure]
  have admitted : Admitted ⟨0, 0⟩ {} (ask []).document := by
    simp [Admitted, CostModel.validate, Verdict.ofMeasured, depthErrors, costErrors, flat, free]
  have refused : ¬ Admitted ⟨0, 0⟩ {} (ask [field]).document := by
    simp [Admitted, CostModel.validate, Verdict.ofMeasured, depthErrors, deeper]
  have left_eq (r : ParsedRequest) (h : r.hints = {}) :
      left r = if Admitted ⟨0, 0⟩ {} r.document then 1 else 0 := by
    obtain ⟨same, -, -, counted⟩ := the_two_placements_agree ⟨0, 0⟩ {} r next { ids := toString }
    show notes _ = _
    rw [same, counted notes (counts r h)]
    exact Nat.zero_add _
  constructor
  · rw [left_eq _ rfl, if_pos admitted]
  · rw [left_eq _ rfl, if_neg refused]

end QueryGate.Serving
