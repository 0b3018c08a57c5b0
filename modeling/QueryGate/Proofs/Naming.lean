-- Which operation the log is about. A request that names an operation is
-- about that one, and a request that names none about the only one there
-- is; what an engine executes is named in the span of the request and in
-- both of its lines, however the document keeps its operations.
import Mathlib.Data.List.Nodup
import QueryGate.Engine.Serve
import QueryGate.Proofs.StageLines
import QueryGate.Proofs.Tables

namespace QueryGate.Serving

open Answer GraphQL Log Request

/-! ## The operation that is executed -/

/-- What an engine executes for a request: the operation that the request names, or, if it names none,
the only one that the document has. No other request is executed. -/
inductive Executes (d : Document) : Option String → NamedOperation → Prop where
  | named {name : String} {o : Operation} :
    (some name, o) ∈ d.operationList → Executes d (some name) (some name, o)
  | only {o : NamedOperation} : d.operationList = [o] → Executes d none o

/-- A document has one operation for each name. -/
def OneForEachName (d : Document) : Prop := (d.operationList.map (·.1)).Nodup

section

variable {d : Document} {requested : Option String} {o : NamedOperation}

/-- The operation is executed for its own name too, which an engine may hand on in the place of the
requested one. -/
theorem Executes.for_own_name (h : Executes d requested o) : Executes d o.1 o := by
  cases h with
  | named here => exact .named here
  | only alone =>
    obtain ⟨_ | name, o⟩ := o
    · exact .only alone
    · exact .named (by rw [alone]; exact List.mem_singleton_self _)

/-- What is executed is what the request is found to be about. -/
theorem Executes.chosen (h : Executes d requested o) (one : OneForEachName d) :
    chosenOperation? d requested = some o := by
  cases h with
  | @named name o here =>
    have found : d.operation? name = some o := (lookup_eq_some_iff_mem one).mpr here
    simp [chosenOperation?, found]
  | only alone => simp [chosenOperation?, alone, firstOperation?]

theorem Executes.details (h : Executes d requested o) (one : OneForEachName d)
    {operationName : Option String} (handedOn : operationName = requested ∨ operationName = o.1) :
    operationDetails (some d) operationName = (o.1.getD "anonymous", .known o.2.type) := by
  have chosen : chosenOperation? d operationName = some o := by
    rcases handedOn with rfl | rfl
    · exact h.chosen one
    · exact h.for_own_name.chosen one
  simp [operationDetails, chosen, detailsOf]

/-- The engine of this library executes just that. -/
theorem selectOperation_eq_ok_iff (one : OneForEachName d) :
    Engine.selectOperation d requested = .ok o ↔ Executes d requested o := by
  unfold Engine.selectOperation
  rcases requested with _ | name
  · constructor
    · intro h
      dsimp only at h
      split at h
      · rename_i o' alone
        cases h
        exact .only alone
      · cases h
    · rintro ⟨⟩
      rename_i alone
      simp [alone]
  · constructor
    · intro h
      dsimp only at h
      split at h
      · rename_i o' found
        cases h
        exact .named ((lookup_eq_some_iff_mem one).mp found)
      · cases h
    · rintro ⟨⟩
      rename_i o here
      have found : d.operation? name = some o := (lookup_eq_some_iff_mem one).mpr here
      simp [found]

end

/-! ## The operation that stands first -/

theorem before_iff (p q : Position) :
    p.before q = true ↔ p.line < q.line ∨ p.line = q.line ∧ p.column < q.column := by
  simp [Position.before]

/-- No operation stands before the first one, which is one of them. -/
theorem foldl_earlier_spec (o : NamedOperation) (rest : List NamedOperation) :
    rest.foldl earlier o ∈ o :: rest ∧
      ∀ x ∈ o :: rest, ¬ x.2.position.before (rest.foldl earlier o).2.position = true := by
  induction rest generalizing o with
  | nil => simp [before_iff]
  | cons b rest ih =>
    obtain ⟨among, first⟩ := ih (earlier o b)
    rw [List.foldl_cons]
    generalize rest.foldl earlier (earlier o b) = r at among first ⊢
    have head := first _ List.mem_cons_self
    constructor
    · rcases List.mem_cons.mp among with rfl | among
      · unfold earlier
        split <;> simp
      · exact List.mem_cons_of_mem _ (List.mem_cons_of_mem _ among)
    · -- Of `o` and `b`, the one that was not kept stands no earlier than the one that was.
      have both : ¬ o.2.position.before r.2.position = true ∧
          ¬ b.2.position.before r.2.position = true := by
        unfold earlier at head
        split at head
        · rename_i h
          simp only [before_iff] at h head ⊢
          omega
        · rename_i h
          simp only [before_iff] at h head ⊢
          omega
      intro x hx
      rcases List.mem_cons.mp hx with rfl | hx
      · exact both.1
      · rcases List.mem_cons.mp hx with rfl | hx
        · exact both.2
        · exact first x (List.mem_cons_of_mem _ hx)

theorem eq_of_not_before {p q : Position} (h : ¬ p.before q = true) (h' : ¬ q.before p = true) :
    p = q := by
  rw [before_iff] at h h'
  obtain ⟨line, column⟩ := p
  obtain ⟨line', column'⟩ := q
  simp only [Position.mk.injEq] at h h' ⊢
  omega

/-- Where no two operations stand at one place, it does not matter in which order they are looked
at. -/
theorem firstOperation?_eq_of_perm {os os' : List NamedOperation} (h : os.Perm os')
    (distinct : (os.map (·.2.position)).Nodup) : firstOperation? os = firstOperation? os' := by
  rcases os with _ | ⟨o, rest⟩
  · rw [h.nil_eq]
  · rcases os' with _ | ⟨o', rest'⟩
    · exact absurd h.symm.nil_eq (by simp)
    · obtain ⟨among, first⟩ := foldl_earlier_spec o rest
      obtain ⟨among', first'⟩ := foldl_earlier_spec o' rest'
      have here := h.mem_iff.mpr among'
      have same := eq_of_not_before (first' _ (h.mem_iff.mp among)) (first _ here)
      exact congrArg some (List.inj_on_of_nodup_map distinct among here same)

/-- What a request is found to be about does not depend on the order in which a document keeps its
operations. -/
theorem operationDetails_eq_of_perm {d d' : Document} (h : d.operationList.Perm d'.operationList)
    (one : OneForEachName d) (distinct : (d.operationList.map (·.2.position)).Nodup)
    (requested : Option String) :
    operationDetails (some d) requested = operationDetails (some d') requested := by
  have found (name : String) : d.operation? name = d'.operation? name := lookup_eq_of_perm h one _
  have chosen : chosenOperation? d requested = chosenOperation? d' requested := by
    simp only [chosenOperation?, found, firstOperation?_eq_of_perm h distinct]
  simp only [operationDetails, Option.bind_some, chosen]

theorem chosenOperation?_eq_none_iff {d : Document} {requested : Option String} :
    chosenOperation? d requested = none ↔ d.operationList = [] := by
  constructor
  · intro h
    have none_first := (Option.or_eq_none_iff.mp h).2
    rcases hd : d.operationList with _ | ⟨o, rest⟩
    · rfl
    · rw [hd] at none_first
      cases none_first
  · intro h
    simp [chosenOperation?, Document.operation?, h, firstOperation?]

theorem kind_unknown_iff (d : Option Document) (requested : Option String) :
    (operationDetails d requested).2 = .unknown ↔
      d = none ∨ ∃ d', d = some d' ∧ d'.operationList = [] := by
  rcases d with _ | d
  · simp [operationDetails]
  · simp only [reduceCtorEq, Option.some.injEq, exists_eq_left', false_or]
    rw [← chosenOperation?_eq_none_iff]
    rcases h : chosenOperation? d requested with _ | o
    · simp [operationDetails, h]
    · simp [operationDetails, h, detailsOf]

/-! ## The log of a run -/

/-- Between the two lines of the log that the instrumented line of stages writes, the executor runs
once, in the span of the request; that span and both lines have the name and the kind that the
request was found to be about. -/
theorem instrumented_run (st : GatewayState) (executor : Executor) (ctx : RequestContext)
    (w : World) :
    let name := (operationDetails ctx.document ctx.operationName).1
    let kind := (operationDetails ctx.document ctx.operationName).2
    let traceId := (asked ctx w).1.1
    let parent := (asked ctx w).1.2.getD st.span
    let w₀ := (asked ctx w).2
    let span := operationSpan parent traceId name kind
    let started : Event :=
      ⟨.debug, "GraphQL " ++ kind.text ++ " " ++ name ++ " started", [("variables", ctx.values.text)],
        span.path⟩
    let ctx' := { ctx with trace := some ⟨traceId, span, w₀.now, name, kind⟩ }
    let r := (executor ctx').run { logged w₀ started with current := span }
    let concluded := concludingLine ⟨w₀.now, name, kind, span⟩ r.1 (r.2.now - w₀.now)
    ((execute (instrumentedStages st) executor).run ctx).run w =
      ((r.1, ctx'), { logged r.2 concluded with current := w₀.current }) := by
  have passes : Passes ctx [.observation st, .timing st] ⟨ctx.trace, w⟩ :=
    (passes_cons ctx).mpr ⟨rfl, (passes_cons ctx).mpr ⟨rfl, passes_nil ctx _⟩⟩
  have served : ((execute (instrumentedStages st) executor).run ctx).run w = _ :=
    serveLine_of_passes ctx passes executor
  exact served

/-! ## The whole of it -/

/-- An operation that is executed is named, with its type, in the span that it is executed in, in the
line about its start and in the line about its end, whatever the order and the places of the
operations in its document.

Where no two operations stand at one place, no order of them changes what any request is found to be
about; and that is unknown only where there is no operation. -/
theorem log_lines_name_the_operation_that_runs :
    (∀ (d : Document) (requested : Option String) (o : NamedOperation), OneForEachName d →
      Executes d requested o →
      ∀ (st : GatewayState) (executor : Executor) (ctx : RequestContext) (w : World),
        ctx.document = some d → ctx.operationName = requested ∨ ctx.operationName = o.1 →
        let name := o.1.getD "anonymous"
        let type := o.2.type.text
        let traceId := (asked ctx w).1.1
        let parent := (asked ctx w).1.2.getD st.span
        let w₀ := (asked ctx w).2
        let span := parent.child "graphql"
          [("trace_id", traceId), ("operation_name", name), ("operation_type", type)]
        let started : Event :=
          ⟨.debug, "GraphQL " ++ type ++ " " ++ name ++ " started", [("variables", ctx.values.text)],
            span.path⟩
        let kind : OperationKind := .known o.2.type
        let ctx' := { ctx with trace := some ⟨traceId, span, w₀.now, name, kind⟩ }
        let r := (executor ctx').run { logged w₀ started with current := span }
        let concluded := concludingLine ⟨w₀.now, name, kind, span⟩ r.1 (r.2.now - w₀.now)
        ((execute (instrumentedStages st) executor).run ctx).run w =
          ((r.1, ctx'), { logged r.2 concluded with current := w₀.current })) ∧
    (∀ d d' : Document, OneForEachName d → (d.operationList.map (·.2.position)).Nodup →
      d.operationList.Perm d'.operationList →
      ∀ requested, operationDetails (some d) requested = operationDetails (some d') requested) ∧
    (∀ (d : Option Document) (requested : Option String),
      (operationDetails d requested).2 = .unknown ↔
        d = none ∨ ∃ d', d = some d' ∧ d'.operationList = []) := by
  refine ⟨?_, fun d d' one distinct perm => operationDetails_eq_of_perm perm one distinct, ?_⟩
  · intro d requested o one executes st executor ctx w hd handedOn
    have details : operationDetails ctx.document ctx.operationName =
        (o.1.getD "anonymous", .known o.2.type) := by
      rw [hd]
      exact executes.details one handedOn
    have run := instrumented_run st executor ctx w
    rw [details] at run
    exact run
  · exact kind_unknown_iff

/-- Of two operations the second one of the text stands first in the document; it is asked for by its
name, and logged by it. -/
theorem logged_by_its_name :
    let one : Operation := { type := .query, position := ⟨1, 1⟩, selections := [] }
    let other : Operation := { type := .mutation, position := ⟨2, 1⟩, selections := [] }
    let d : Document := ⟨.named [("B", other), ("A", one)], []⟩
    let d' : Document := ⟨.named [("A", one), ("B", other)], []⟩
    let st : GatewayState := .ofConfig {} {}
    let ctx : RequestContext := { document := some d, operationName := some "B" }
    let executor : Executor := fun _ => return .ok {}
    let served := ((execute (instrumentedStages st) executor).run ctx).run { ids := toString }
    OneForEachName d ∧ Executes d (some "B") (some "B", other) ∧
    served.2.journal.map (fun | .event e => e.message | .note _ => "") =
      ["GraphQL mutation B started", "GraphQL mutation B completed in 0ms"] ∧
    operationDetails (some d) none = ("A", .known .query) ∧
    operationDetails (some d') none = ("A", .known .query) := by
  intro one other d d' st ctx executor served
  obtain ⟨named, reordered, -⟩ := log_lines_name_the_operation_that_runs
  have single : OneForEachName d := by
    unfold OneForEachName
    decide
  have executes : Executes d (some "B") (some "B", other) := (selectOperation_eq_ok_iff single).mp rfl
  have run : served = _ :=
    named d _ _ single executes st executor ctx { ids := toString } rfl (.inl rfl)
  refine ⟨single, executes, ?_, rfl, ?_⟩
  · rw [run]
    decide +kernel
  · rw [← reordered d d' single (by decide) (.swap _ _ _)]
    rfl

end QueryGate.Serving
