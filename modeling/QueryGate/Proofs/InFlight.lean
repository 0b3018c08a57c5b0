-- Many requests in flight. Each has a session of its own; their calls, and
-- what happens elsewhere meanwhile, come in any order. An execution lets
-- the others go on while it waits for its continuation, so it is two steps
-- here: what it does before, and what it does after.
import Mathlib.Data.List.Induction
import Mathlib.Logic.Function.Basic
import QueryGate.Proofs.StageLines
import QueryGate.Serving.Gateway

namespace QueryGate.Serving

open Analysis Answer GraphQL Log Request

/-! ## One execution -/

/-- An execution that waits for its continuation: what was known of its request when it started,
what its last line will tell, and the span to go back to. -/
structure Execution where
  ctx : RequestContext
  timed : Timed
  outer : Span

/-- What an execution does before its continuation. -/
def begins (st : GatewayState) (ctx : RequestContext) (w : World) : Execution × World :=
  let trace := traceAt ctx st w
  let w' := (asked ctx w).2
  let timed := ⟨trace.start, trace.operationName, trace.operationKind, trace.span⟩
  (⟨ctx, timed, w'.current⟩, { logged w' (startedLine ctx trace.span) with current := trace.span })

/-- What an execution does after its continuation. -/
def ends (e : Execution) (response : Response) (w : World) : World :=
  let line := concludingLine e.timed (.ok response) (w.now - e.timed.start)
  { logged w line with current := e.outer }

/-- An execution runs its continuation once, between its two halves, and answers what that gave. -/
theorem executeCall_run (st : GatewayState) (s : Session) (hints : CorrelationHints)
    (operationName : Option String) (next : Run Response) (w : World) :
    (Gateway.executeCall ⟨st, instrumentedStages st⟩ s hints operationName next).run w =
      let begun := begins st (s.context hints operationName) w
      let r := next.run begun.2
      (r.1, ends begun.1 r.1 r.2) := by
  let ctx := s.context hints operationName
  let executor : Executor := fun _ => do return .ok (← next)
  have passes : Passes ctx [.observation st, .timing st] ⟨none, w⟩ :=
    (passes_cons ctx).mpr ⟨rfl, (passes_cons ctx).mpr ⟨rfl, passes_nil ctx _⟩⟩
  have served : ((execute (instrumentedStages st) executor).run ctx).run w = _ :=
    serveLine_of_passes ctx passes executor
  simp only [Gateway.executeCall, StateT.run_bind, executor, ctx] at served ⊢
  rw [served]
  rfl

/-! ## What can happen -/

/-- All requests at a time: the session of each, the executions that wait for their continuations,
by the number of those that started before them, and the surroundings. -/
structure Traffic where
  sessions : Nat → Session
  waiting : Nat → Option Execution
  started : Nat
  world : World

/-- What can happen next. The text of a request was parsed, and its document is checked and kept at
once; a request is executed; the continuation of an execution gave its response; or something
happened that the gateway has no part in: time passed, another span came to run, a continuation did
something. -/
inductive Happening where
  | parse (r : Nat) (parsed : Checked Document) (values : Variables)
  | start (r : Nat) (hints : CorrelationHints) (operationName : Option String)
  | finish (k : Nat) (response : Response)
  | elsewhere (act : World → World)

section

variable (limits : Limits) (m : CostModel)

def happen (t : Traffic) : Happening → Traffic
  | .parse r parsed values =>
    let g := Gateway.ofConfig limits m
    let ((_, s), w) := (g.parseCall (t.sessions r) parsed values).run t.world
    { t with sessions := Function.update t.sessions r s, world := w }
  | .start r hints operationName =>
    let ctx := (t.sessions r).context hints operationName
    let (e, w) := begins (GatewayState.ofConfig limits m) ctx t.world
    { t with
      waiting := Function.update t.waiting t.started (some e)
      started := t.started + 1
      world := w }
  | .finish k response =>
    match t.waiting k with
    | some e =>
      { t with waiting := Function.update t.waiting k none, world := ends e response t.world }
    | none => t
  | .elsewhere act => { t with world := act t.world }

/-- The traffic of one gateway after what has happened, from when no request has come yet. -/
def traffic (w : World) (history : List Happening) : Traffic :=
  history.foldl (happen limits m) ⟨fun _ => {}, fun _ => none, 0, w⟩

theorem traffic_snoc (w : World) (history : List Happening) (h : Happening) :
    traffic limits m w (history ++ [h]) = happen limits m (traffic limits m w history) h := by
  rw [traffic, List.foldl_append]
  rfl

/-- A document that keeps to the limits. -/
def Admitted (d : Document) : Prop := (m.validate d limits).valid = true

instance (d : Document) : Decidable (Admitted limits m d) := inferInstanceAs (Decidable (_ = true))

/-- What a request had admitted. -/
def admitted? (r : Nat) : Happening → Option (Document × Variables)
  | .parse r' (.ok d) values => if r' = r ∧ Admitted limits m d then some (d, values) else none
  | _ => none

/-- What a request had admitted last, with its variables. -/
def lastAdmitted? (r : Nat) (history : List Happening) : Option (Document × Variables) :=
  (history.filterMap (admitted? limits m r)).getLast?

theorem admitted?_eq_some_iff {r : Nat} {h : Happening} {d : Document} {values : Variables} :
    admitted? limits m r h = some (d, values) ↔
      h = .parse r (.ok d) values ∧ Admitted limits m d := by
  constructor
  · intro admitted
    unfold admitted? at admitted
    split at admitted
    · split at admitted
      · rename_i own
        obtain ⟨rfl, rfl⟩ := Prod.mk.inj (Option.some.inj admitted)
        exact ⟨by rw [own.1], own.2⟩
      · cases admitted
    · cases admitted
  · rintro ⟨rfl, hd⟩
    exact if_pos ⟨rfl, hd⟩

/-! ## A text that was parsed -/

/-- The validator of a standard gateway gives its verdict and does nothing else. -/
def standardJudge : Judge := ⟨limits, m.validate, (GatewayState.ofConfig limits m).span⟩

/-- An admitted document is answered and kept; the rejection of any other is logged and answered. -/
theorem parseCall_run (s : Session) (d : Document) (values : Variables) (w : World) :
    ((Gateway.ofConfig limits m).parseCall s (.ok d) values).run w =
      if Admitted limits m d then ((.ok d, ⟨some (d, values)⟩), w)
      else ((.error (Rejection.ofVerdict (m.validate d limits)).toServerError, s),
        logged w (rejectedLine (GatewayState.ofConfig limits m).span (m.validate d limits))) := by
  have judged : ((Gateway.ofConfig limits m).state.check d).run w = _ :=
    (standardJudge limits m).check_run d w
  by_cases h : Admitted limits m d
  · rw [if_pos h]
    have check := judged.trans (if_pos h)
    simp only [Gateway.parseCall, StateT.run_bind, check]
    rfl
  · rw [if_neg h]
    have check := judged.trans (if_neg h)
    simp only [Gateway.parseCall, StateT.run_bind, check]
    rfl

variable (t : Traffic)

theorem happen_parse_of_error (r : Nat) (e : ServerError) (values : Variables) :
    happen limits m t (.parse r (.error e) values) = t := by
  show { t with sessions := Function.update t.sessions r (t.sessions r) } = t
  rw [Function.update_eq_self]

theorem happen_parse_of_admitted {d : Document} (h : Admitted limits m d) (r : Nat)
    (values : Variables) :
    happen limits m t (.parse r (.ok d) values) =
      { t with sessions := Function.update t.sessions r ⟨some (d, values)⟩ } := by
  simp only [happen, parseCall_run, if_pos h]

theorem happen_parse_of_refused {d : Document} (h : ¬ Admitted limits m d) (r : Nat)
    (values : Variables) :
    happen limits m t (.parse r (.ok d) values) =
      let line := rejectedLine (GatewayState.ofConfig limits m).span (m.validate d limits)
      { t with world := logged t.world line } := by
  simp only [happen, parseCall_run, if_neg h, Function.update_eq_self]

/-! ## What sessions keep -/

/-- A session changes only when its own request has a document admitted. -/
theorem happen_parsed (h : Happening) (r : Nat) :
    ((happen limits m t h).sessions r).parsed =
      (admitted? limits m r h).or (t.sessions r).parsed := by
  cases h with
  | parse r' parsed values =>
    rcases parsed with e | d
    · rw [happen_parse_of_error]
      rfl
    · by_cases hd : Admitted limits m d
      · rw [happen_parse_of_admitted limits m t hd]
        by_cases hr : r' = r
        · subst hr
          rw [admitted?, if_pos ⟨rfl, hd⟩]
          show (Function.update t.sessions r' _ r').parsed = _
          rw [Function.update_self]
          rfl
        · rw [admitted?, if_neg (fun both => hr both.1)]
          show (Function.update t.sessions r' _ r).parsed = _
          rw [Function.update_of_ne (Ne.symm hr)]
          rfl
      · rw [happen_parse_of_refused limits m t hd, admitted?, if_neg (fun both => hd both.2)]
        rfl
  | start r' hints operationName => rfl
  | finish k response =>
    simp only [happen]
    split <;> rfl
  | elsewhere act => rfl

theorem traffic_parsed (w : World) (history : List Happening) (r : Nat) :
    ((traffic limits m w history).sessions r).parsed = lastAdmitted? limits m r history := by
  induction history using List.reverseRecOn with
  | nil => rfl
  | append_singleton history h ih =>
    rw [traffic_snoc, happen_parsed, ih, lastAdmitted?, lastAdmitted?, List.filterMap_append,
      List.getLast?_append]
    cases hh : admitted? limits m r h <;> simp [hh]

/-! ## How long an execution waits -/

theorem happen_start_waiting (r : Nat) (hints : CorrelationHints) (operationName : Option String) :
    (happen limits m t (.start r hints operationName)).waiting t.started =
      some (begins (GatewayState.ofConfig limits m)
        ((t.sessions r).context hints operationName) t.world).1 :=
  Function.update_self ..

theorem happen_started (h : Happening) : t.started ≤ (happen limits m t h).started := by
  cases h with
  | start r hints operationName => exact Nat.le_succ _
  | finish k response =>
    simp only [happen]
    split <;> exact Nat.le_refl _
  | _ => exact Nat.le_refl _

/-- Nothing but its own end changes that an execution waits, or that it is over. -/
theorem happen_waiting {k : Nat} (started : k < t.started) {h : Happening}
    (other : ∀ response, h ≠ .finish k response) :
    (happen limits m t h).waiting k = t.waiting k := by
  cases h with
  | start r hints operationName => exact Function.update_of_ne (Nat.ne_of_lt started) ..
  | finish k' response =>
    have hk : k ≠ k' := fun same => other response (by rw [same])
    simp only [happen]
    split
    · exact Function.update_of_ne hk ..
    · rfl
  | _ => rfl

theorem happen_finish {t : Traffic} {k : Nat} {e : Execution} (waits : t.waiting k = some e)
    (response : Response) :
    happen limits m t (.finish k response) =
      { t with
        waiting := Function.update t.waiting k none
        world := ends e response t.world } := by
  simp only [happen, waits]

theorem happen_finish_again {t : Traffic} {k : Nat} (past : t.waiting k = none)
    (response : Response) : happen limits m t (.finish k response) = t := by
  simp only [happen, past]

theorem happen_finish_waiting (k : Nat) (response : Response) :
    (happen limits m t (.finish k response)).waiting k = none := by
  rcases waits : t.waiting k with _ | e
  · rw [happen_finish_again limits m waits, waits]
  · rw [happen_finish limits m waits]
    exact Function.update_self ..

/-- An execution waits from when it starts until its continuation has given a response, whatever
else happens. -/
theorem traffic_waiting (w : World) (before : List Happening) (r : Nat) (hints : CorrelationHints)
    (operationName : Option String) (after : List Happening) :
    let t₀ := traffic limits m w before
    let k := t₀.started
    let e := (begins (GatewayState.ofConfig limits m)
      ((t₀.sessions r).context hints operationName) t₀.world).1
    let t := traffic limits m w (before ++ .start r hints operationName :: after)
    k < t.started ∧
      (((∀ response, .finish k response ∉ after) ∧ t.waiting k = some e) ∨
        ((∃ response, .finish k response ∈ after) ∧ t.waiting k = none)) := by
  intro t₀ k e t
  -- That the number was given out is carried along, so that no later start can take it.
  induction after using List.reverseRecOn with
  | nil =>
    have now : t = happen limits m t₀ (.start r hints operationName) := traffic_snoc ..
    refine ⟨?_, .inl ⟨fun _ => List.not_mem_nil, ?_⟩⟩
    · rw [now]
      exact Nat.lt_succ_self k
    · rw [now]
      exact happen_start_waiting limits m t₀ r hints operationName
  | append_singleton after h ih =>
    let t' := traffic limits m w (before ++ .start r hints operationName :: after)
    have now : t = happen limits m t' h := by
      rw [← traffic_snoc, List.append_assoc, List.cons_append]
    obtain ⟨started, ih⟩ := ih
    refine ⟨Nat.lt_of_lt_of_le started (now ▸ happen_started limits m t' h), ?_⟩
    rw [now]
    by_cases own : ∃ response, h = .finish k response
    · obtain ⟨response, rfl⟩ := own
      exact .inr ⟨⟨response, List.mem_concat_self⟩, happen_finish_waiting limits m t' k response⟩
    · have other : ∀ response, h ≠ .finish k response := fun response hr => own ⟨response, hr⟩
      rw [happen_waiting limits m t' started other]
      rcases ih with ⟨none_yet, waits⟩ | ⟨⟨response, ended⟩, past⟩
      · refine .inl ⟨fun response hr => ?_, waits⟩
        rcases List.mem_append.mp hr with hr | hr
        · exact none_yet response hr
        · exact other response (List.mem_singleton.mp hr).symm
      · exact .inr ⟨⟨response, List.mem_append_left _ ended⟩, past⟩

/-! ## What is executed -/

/-- Whatever is kept, or executed, was admitted. -/
structure Good (t : Traffic) : Prop where
  kept : ∀ r d values, (t.sessions r).parsed = some (d, values) → Admitted limits m d
  executing : ∀ k e d, t.waiting k = some e → e.ctx.document = some d → Admitted limits m d

theorem good_happen {t : Traffic} (good : Good limits m t) (h : Happening) :
    Good limits m (happen limits m t h) := by
  refine ⟨fun r d values => ?_, fun k e d waits hd => ?_⟩
  · rw [happen_parsed]
    intro kept
    rcases Option.or_eq_some_iff.mp kept with now | ⟨-, before⟩
    · exact ((admitted?_eq_some_iff limits m).mp now).2
    · exact good.kept r d values before
  · cases h with
    | parse r parsed values => exact good.executing k e d waits hd
    | elsewhere act => exact good.executing k e d waits hd
    | start r hints operationName =>
      by_cases hk : k = t.started
      · subst hk
        -- It executes what its session kept, and that was admitted.
        obtain rfl := Option.some.inj ((happen_start_waiting limits m t ..).symm.trans waits)
        obtain ⟨⟨d', values⟩, kept, rfl⟩ := Option.map_eq_some_iff.mp hd
        exact good.kept r d' values kept
      · exact good.executing k e d ((Function.update_of_ne hk ..).symm.trans waits) hd
    | finish k' response =>
      by_cases hk : k = k'
      · subst hk
        cases (happen_finish_waiting limits m t k response).symm.trans waits
      · simp only [happen] at waits
        split at waits
        · exact good.executing k e d ((Function.update_of_ne hk ..).symm.trans waits) hd
        · exact good.executing k e d waits hd

theorem good_traffic (w : World) (history : List Happening) :
    Good limits m (traffic limits m w history) := by
  induction history using List.reverseRecOn with
  | nil => exact ⟨fun _ _ _ kept => (by cases kept), fun _ _ _ waits => (by cases waits)⟩
  | append_singleton history h ih =>
    rw [traffic_snoc]
    exact good_happen limits m ih h

/-- An execution that nothing else comes between is its two steps with its continuation in the
middle. -/
theorem executeCall_happens (r : Nat) (hints : CorrelationHints) (operationName : Option String)
    (next : Run Response) :
    let g := Gateway.ofConfig limits m
    let call := (g.executeCall (t.sessions r) hints operationName next).run t.world
    ([.start r hints operationName, .elsewhere fun w => (next.run w).2,
      .finish t.started call.1].foldl (happen limits m) t).world = call.2 := by
  intro g call
  let t' := happen limits m t (.start r hints operationName)
  let t'' := happen limits m t' (.elsewhere fun w => (next.run w).2)
  have run : call = _ :=
    executeCall_run g.state (t.sessions r) hints operationName next t.world
  have waits : t''.waiting t.started = some _ :=
    happen_start_waiting limits m t r hints operationName
  show (happen limits m t'' (.finish t.started call.1)).world = call.2
  rw [happen_finish limits m waits, run]
  rfl

/-! ## The whole of it -/

/-- One gateway serves any number of requests, whose calls come in any order.

A session holds what its own request had admitted last, and nothing else is executed. A text that
does not parse changes nothing, a document that is turned away writes one warning, and one that is
admitted is kept without a word. An execution runs its continuation once between one line about its
start and one about its end, which comes when the continuation ends and not again, and both lines
name the operation that the document of its session makes it. -/
theorem requests_in_flight_keep_to_themselves (w : World) (history : List Happening) :
    let g := Gateway.ofConfig limits m
    let t := traffic limits m w history
    (∀ r, (t.sessions r).parsed = lastAdmitted? limits m r history) ∧
    Good limits m t ∧
    (∀ (r : Nat) (values : Variables) (e : ServerError),
      (g.parseCall (t.sessions r) (.error e) values).run t.world =
        ((.error e, t.sessions r), t.world) ∧
      happen limits m t (.parse r (.error e) values) = t) ∧
    (∀ (r : Nat) (values : Variables) (d : Document), Admitted limits m d →
      (g.parseCall (t.sessions r) (.ok d) values).run t.world =
        ((.ok d, ⟨some (d, values)⟩), t.world) ∧
      happen limits m t (.parse r (.ok d) values) =
        { t with sessions := Function.update t.sessions r ⟨some (d, values)⟩ }) ∧
    (∀ (r : Nat) (values : Variables) (d : Document), ¬ Admitted limits m d →
      let v := m.validate d limits
      let w' := logged t.world (rejectedLine g.state.span v)
      (g.parseCall (t.sessions r) (.ok d) values).run t.world =
        ((.error (Rejection.ofVerdict v).toServerError, t.sessions r), w') ∧
      happen limits m t (.parse r (.ok d) values) = { t with world := w' }) ∧
    (∀ (r : Nat) (hints : CorrelationHints) (operationName : Option String) (next : Run Response),
      let ctx := (t.sessions r).context hints operationName
      let e := (begins g.state ctx t.world).1
      let before := (begins g.state ctx t.world).2
      let response := (next.run before).1
      let after := (next.run before).2
      let call := (g.executeCall (t.sessions r) hints operationName next).run t.world
      call = (response, ends e response after) ∧
      ([.start r hints operationName, .elsewhere fun w => (next.run w).2,
        .finish t.started call.1].foldl (happen limits m) t).world = call.2 ∧
      (e.timed.name, e.timed.kind) =
        operationDetails ((t.sessions r).parsed.map (·.1)) operationName ∧
      before.journal =
        (asked ctx t.world).2.journal ++ [.event (startedLine ctx e.timed.span)] ∧
      (QuietHints hints → (asked ctx t.world).2.journal = t.world.journal) ∧
      call.2.journal = after.journal ++
        [.event (concludingLine e.timed (.ok response) (after.now - e.timed.start))]) ∧
    (∀ (before after : List Happening) (r : Nat) (hints : CorrelationHints)
      (operationName : Option String),
      history = before ++ .start r hints operationName :: after →
      let t₀ := traffic limits m w before
      let k := t₀.started
      let e := (begins g.state ((t₀.sessions r).context hints operationName) t₀.world).1
      ((∀ response, .finish k response ∉ after) → ∀ response,
        happen limits m t (.finish k response) =
          { t with
            waiting := Function.update t.waiting k none
            world := ends e response t.world }) ∧
      ((∃ response, .finish k response ∈ after) → ∀ response,
        happen limits m t (.finish k response) = t)) := by
  intro g t
  refine ⟨traffic_parsed limits m w history, good_traffic limits m w history, ?_, ?_, ?_, ?_, ?_⟩
  · intro r values e
    exact ⟨rfl, happen_parse_of_error limits m t r e values⟩
  · intro r values d hd
    have call := (parseCall_run limits m (t.sessions r) d values t.world).trans (if_pos hd)
    exact ⟨call, happen_parse_of_admitted limits m t hd r values⟩
  · intro r values d hd
    have call := (parseCall_run limits m (t.sessions r) d values t.world).trans (if_neg hd)
    exact ⟨call, happen_parse_of_refused limits m t hd r values⟩
  · intro r hints operationName next ctx e before response after call
    have run : call = _ := executeCall_run g.state (t.sessions r) hints operationName next t.world
    have steps := executeCall_happens limits m t r hints operationName next
    refine ⟨run, steps, rfl, rfl, fun quiet => asked_journal quiet t.world, ?_⟩
    rw [run]
    rfl
  · rintro before after r hints operationName rfl t₀ k e
    obtain ⟨-, ⟨none_yet, waits⟩ | ⟨ended, past⟩⟩ :=
      traffic_waiting limits m w before r hints operationName after
    · refine ⟨fun _ => happen_finish limits m waits, ?_⟩
      rintro ⟨response, hr⟩
      exact absurd hr (none_yet response)
    · obtain ⟨response, hr⟩ := ended
      refine ⟨fun none_yet => absurd hr (none_yet response), fun _ => ?_⟩
      exact happen_finish_again limits m past

end

end QueryGate.Serving
