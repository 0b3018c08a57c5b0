-- What a document comes to, and what it only keeps. The walks start in the
-- operations and follow spreads, so a fragment that no chain of spreads
-- leads to is never looked at, whatever it holds and whatever it spreads.
import QueryGate.Proofs.SideBySide

namespace QueryGate.Analysis

open GraphQL

variable {α : Type} {d e : Document}

/-! ## Names that are reached -/

/-- An operation spreads a fragment of that name, or one from which a chain of spreads leads there.
Nothing need be defined under the name. -/
def Reachable (d : Document) (name : String) : Prop :=
  ∃ o ∈ d.operationList, ∃ first ∈ spreadsInAll o.2.selections,
    Relation.ReflTransGen (Spreads d) first name

theorem reachable_of_operation {o : Option String × Operation} (ho : o ∈ d.operationList)
    {name : String} (spread : name ∈ spreadsInAll o.2.selections) : Reachable d name :=
  ⟨o, ho, name, spread, .refl⟩

theorem Reachable.of_body {a b : String} (h : Reachable d a) {body : List Selection}
    (found : d.body? a = some body) (spread : b ∈ spreadsInAll body) : Reachable d b := by
  obtain ⟨o, ho, first, starts, chain⟩ := h
  exact ⟨o, ho, first, starts, chain.tail ⟨body, found, spread⟩⟩

/-- The same operations, and the same selections under each name that is reached in the first
document, or no definition in both. -/
structure AgreeWhereReached (d e : Document) : Prop where
  operations : d.operationList = e.operationList
  bodies : ∀ name, Reachable d name → d.body? name = e.body? name

/-! ## Walks that stay among them -/

/-- Selections that spread nothing but what is reached are measured alike. The walk enters bodies of
fragments that are reached only, and these again spread nothing else. -/
theorem AgreeWhereReached.all_eq (agree : AgreeWhereReached d e) (m : Measure α) (active : Active)
    (ss : List Selection) (reached : ∀ name ∈ spreadsInAll ss, Reachable d name) :
    m.all d active ss = m.all e active ss := by
  induction active, ss using walk_induction d with
  | nil active => rw [m.all_nil, m.all_nil]
  | field active f below rest ihb ihr =>
    have hb := ihb fun name h => reached name (mem_spreadsInAll_field rest h)
    have hr := ihr fun name h => reached name (mem_spreadsInAll_tail _ h)
    rw [m.all_cons, m.all_cons, m.one_field, m.one_field, hb, hr]
  | inline active x below rest ihb ihr =>
    have hb := ihb fun name h => reached name (mem_spreadsInAll_inline rest h)
    have hr := ihr fun name h => reached name (mem_spreadsInAll_tail _ h)
    rw [m.all_cons, m.all_cons, m.one_inline, m.one_inline, hb, hr]
  | undefined active name ds rest missing ihr =>
    have hr := ihr fun name h => reached name (mem_spreadsInAll_tail _ h)
    have same := agree.bodies name (reached name (mem_spreadsInAll_spread _ _ _))
    have missing' := same.symm.trans missing
    rw [m.all_cons, m.all_cons, m.one_undefined missing, m.one_undefined missing', hr]
  | inside active name ds rest inside ihr =>
    have hr := ihr fun name h => reached name (mem_spreadsInAll_tail _ h)
    rw [m.all_cons, m.all_cons, m.one_inside inside, m.one_inside inside, hr]
  | entered active name ds rest body found outside ihb ihr =>
    have here := reached name (mem_spreadsInAll_spread _ _ _)
    have hb := ihb fun b hb => here.of_body found hb
    have hr := ihr fun name h => reached name (mem_spreadsInAll_tail _ h)
    have found' := (agree.bodies name here).symm.trans found
    rw [m.all_cons, m.all_cons, m.one_entered found outside, m.one_entered found' outside, hb, hr]

theorem AgreeWhereReached.document_eq (agree : AgreeWhereReached d e) (m : Measure α) :
    m.document d = m.document e := by
  rw [m.document_eq, m.document_eq, ← agree.operations]
  congr 1
  refine List.map_congr_left fun o ho => ?_
  exact agree.all_eq m [] o.2.selections fun name spread => reachable_of_operation ho spread

/-! ## The whole of it -/

/-- Two documents that have the same operations and agree on every fragment that these come to are
measured alike, whatever other fragments they define. -/
theorem only_what_is_reached_is_measured (agree : AgreeWhereReached d e) : MeasuredAlike d e :=
  measuredAlike_of_document_eq fun m _ => agree.document_eq m

/-- A fragment in a circle and one that has no definition are reached. Two more in a circle of their own,
one of them with a dear field and a spread of a fragment that is reached, change nothing. -/
theorem circles_aside_do_not_count :
    let users : Field := { name := "users" }
    let o : Operation := { type := .query, selections := [.spread "A" [], .spread "Z" []] }
    let a : Fragment := { selections := [.field { name := "f" } [.spread "A" []]] }
    let x : Fragment := { selections := [.field users [.spread "Y" [], .spread "A" []]] }
    let y : Fragment := { selections := [.spread "X" []] }
    let d : Document := ⟨.single o, [("A", a)]⟩
    let e : Document := ⟨.single o, [("X", x), ("A", a), ("Y", y)]⟩
    AgreeWhereReached d e ∧ depth d = 1 ∧ depth e = 1 ∧
      CostModel.estimate {} e = CostModel.estimate {} d := by
  intro users o a x y d e
  have operation : d.operationList = [(none, o)] := rfl
  have found : d.body? "A" = some a.selections := rfl
  have missing : d.body? "Z" = none := rfl
  have reached {name : String} (h : Reachable d name) : name = "A" ∨ name = "Z" := by
    obtain ⟨o', ho, first, starts, chain⟩ := h
    obtain rfl : o' = (none, o) := by simpa [operation] using ho
    have start : first = "A" ∨ first = "Z" := by simpa [o, spreadsInAll, spreadsIn] using starts
    induction chain with
    | refl => exact start
    | @tail b c _ last ih =>
      obtain ⟨body, here, spread⟩ := last
      rcases ih with rfl | rfl
      · obtain rfl : a.selections = body := Option.some.inj (found.symm.trans here)
        exact .inl (by simpa [a, spreadsInAll, spreadsIn] using spread)
      · exact absurd here (by simp [missing])
  have agree : AgreeWhereReached d e :=
    ⟨rfl, fun name h => by rcases reached h with rfl | rfl <;> rfl⟩
  have alike := only_what_is_reached_is_measured agree
  have depth_d : depth d = 1 := by
    simp [depth, Measure.document_eq, operation, o, a, Measure.one_entered _ found,
      Measure.one_undefined _ missing, Measure.one_inside, depthMeasure]
  exact ⟨agree, depth_d, alike.depth_eq.trans depth_d, alike.estimate_eq {}⟩

end QueryGate.Analysis
