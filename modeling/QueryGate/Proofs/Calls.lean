-- How a walk comes to an end. What one call of it does is written down
-- with its further calls left open, so that they can be answered by the
-- walk itself, be noted, or be allowed to a limited depth. A further call
-- has less of the text before it, or it enters a fragment that it is not
-- inside of, of which there is one less each time.
import Mathlib.Data.List.Chain
import Mathlib.Data.List.MinMax
import Mathlib.Data.Prod.Lex
import QueryGate.Analysis.Cost
import QueryGate.Analysis.Depth
import QueryGate.Proofs.Spreads

namespace QueryGate.Analysis

open GraphQL

variable {α : Type} {d : Document}

/-! ## One call -/

/-- A call of a walk: the selections to measure, and the fragments that it is inside of. A call that
visits the body of a fragment says which one it enters. -/
structure Call where
  entering : Option String := none
  active : Active
  selections : List Selection

section

variable {M : Type → Type} [Monad M] (m : Measure α) (d : Document) (ask : Call → M (α × Active))

/-- Measures one selection, and asks for what is below it. -/
def Measure.callOne (active : Active) : Selection → M (α × Active)
  | .field f below => do
    let (a, active) ← ask { active, selections := below }
    return (m.field f a, active)
  | .inline _ below => ask { active, selections := below }
  | .spread name _ =>
    match d.body? name with
    | none => return (m.nothing, active)
    | some body =>
      if name ∈ active then return (m.nothing, active)
      else do
        let (a, active) ← ask ⟨some name, name :: active, body⟩
        return (a, active.erase name)

/-- What a call does by itself. It measures the first selection, and asks for those after it. -/
def Measure.call (c : Call) : M (α × Active) :=
  match c.selections with
  | [] => return (m.nothing, c.active)
  | s :: rest => do
    let (a, active) ← m.callOne d ask c.active s
    let (b, active) ← ask { active, selections := rest }
    return (m.beside a b, active)

end

namespace Measure

variable (m : Measure α) (d : Document)

/-- What the walk answers to a call. -/
def answer (c : Call) : α × Active :=
  let w := walkAll m d c.active c.selections
  (w.value, w.active)

/-- Notes a call that is asked for, and has the walk answer it. -/
def noting (c : Call) : StateM (List Call) (α × Active) := do
  modify (· ++ [c])
  return m.answer d c

/-- The further calls that a call asks for, in their order. -/
def furtherCalls (c : Call) : List Call := ((m.call d (m.noting d) c).run []).run.2

/-- The walk with no more than so many calls inside of one another, none where these do not do. -/
def within : Nat → Call → Option (α × Active)
  | 0, _ => none
  | limit + 1, c => m.call d (within limit) c

end Measure

/-! ## What a call has before it -/

mutual

/-- How many selections are written in a selection, itself among them. Spreads are not followed. -/
def selectionSize : Selection → Nat
  | .field _ below => 1 + selectionsSize below
  | .spread _ _ => 1
  | .inline _ below => 1 + selectionsSize below

def selectionsSize : List Selection → Nat
  | [] => 0
  | s :: rest => selectionSize s + selectionsSize rest

end

theorem selectionSize_pos (s : Selection) : 0 < selectionSize s := by
  cases s with
  | field f below => exact Nat.lt_add_right _ Nat.one_pos
  | spread name ds => exact Nat.one_pos
  | inline x below => exact Nat.lt_add_right _ Nat.one_pos

/-- The size of the largest fragment of a document. -/
def largestBody (d : Document) : Nat :=
  (d.fragments.map fun f => selectionsSize f.2.selections).foldr max 0

theorem size_le_largestBody {name : String} {body : List Selection}
    (found : d.body? name = some body) : selectionsSize body ≤ largestBody d := by
  obtain ⟨f, hf, rfl⟩ := exists_fragment_of_body?_eq_some found
  exact List.le_max_of_le' 0 (List.mem_map_of_mem hf) (Nat.le_refl _)

/-- The fragment definitions that a call has left to enter, and the size of what it is to measure. -/
def Call.left (d : Document) (c : Call) : Nat × Nat :=
  (pending d c.active, selectionsSize c.selections)

/-- Both in one number: each definition that is left counts for the largest of them. -/
def Call.rank (d : Document) (c : Call) : Nat :=
  pending d c.active * largestBody d + selectionsSize c.selections

/-- What a call can ask for: less of the text inside of the same fragments, or the body of a fragment
that it is not inside of. -/
inductive Call.Leads (d : Document) (c : Call) : Call → Prop
  | on {ss : List Selection} : selectionsSize ss < selectionsSize c.selections →
    Leads d c { active := c.active, selections := ss }
  | into {name : String} {body : List Selection} : d.body? name = some body → name ∉ c.active →
    0 < selectionsSize c.selections → Leads d c ⟨some name, name :: c.active, body⟩

namespace Call.Leads

variable {c c' : Call}

theorem left_lt (leads : c.Leads d c') :
    Prod.Lex (· < ·) (· < ·) (c'.left d) (c.left d) := by
  cases leads with
  | on smaller => exact goes_on (Nat.le_refl _) smaller
  | into found outside _ => exact enters found outside _ _

theorem rank_lt (leads : c.Leads d c') : c'.rank d < c.rank d := by
  cases leads with
  | on smaller => exact Nat.add_lt_add_left smaller _
  | @into name body found outside something =>
    have fits := size_le_largestBody found
    have fewer : pending d (name :: c.active) + 1 ≤ pending d c.active :=
      pending_enter_lt found outside
    calc pending d (name :: c.active) * largestBody d + selectionsSize body
        ≤ (pending d (name :: c.active) + 1) * largestBody d := by rw [Nat.succ_mul]; omega
      _ ≤ pending d c.active * largestBody d := Nat.mul_le_mul_right _ fewer
      _ < pending d c.active * largestBody d + selectionsSize c.selections := by omega

end Call.Leads

/-! ## The further calls -/

namespace Measure

variable (m : Measure α) {active : Active} {name : String} {ds : List Directive}
  {rest : List Selection}

theorem answer_eq (c : Call) : m.answer d c = (m.all d c.active c.selections, c.active) :=
  Prod.ext rfl (walkAll_active m d c.active c.selections)

theorem furtherCalls_field (e : Option String) (f : Field) (below : List Selection) :
    m.furtherCalls d ⟨e, active, .field f below :: rest⟩ =
      [{ active, selections := below }, { active, selections := rest }] := by
  simp [furtherCalls, call, callOne, noting, answer_eq]

theorem furtherCalls_inline (e : Option String) (x : InlineFragment) (below : List Selection) :
    m.furtherCalls d ⟨e, active, .inline x below :: rest⟩ =
      [{ active, selections := below }, { active, selections := rest }] := by
  simp [furtherCalls, call, callOne, noting, answer_eq]

theorem furtherCalls_undefined (e : Option String) (h : d.body? name = none) :
    m.furtherCalls d ⟨e, active, .spread name ds :: rest⟩ = [{ active, selections := rest }] := by
  simp [furtherCalls, call, callOne, noting, h]

theorem furtherCalls_inside (e : Option String) {body : List Selection}
    (found : d.body? name = some body) (h : name ∈ active) :
    m.furtherCalls d ⟨e, active, .spread name ds :: rest⟩ = [{ active, selections := rest }] := by
  simp [furtherCalls, call, callOne, noting, found, h]

theorem furtherCalls_entered (e : Option String) {body : List Selection}
    (found : d.body? name = some body) (h : name ∉ active) :
    m.furtherCalls d ⟨e, active, .spread name ds :: rest⟩ =
      [⟨some name, name :: active, body⟩, { active, selections := rest }] := by
  simp [furtherCalls, call, callOne, noting, answer_eq, found, h]

theorem leads_of_mem_furtherCalls {c c' : Call} (asked : c' ∈ m.furtherCalls d c) :
    c.Leads d c' := by
  obtain ⟨e, active, ss⟩ := c
  rcases ss with _ | ⟨s, rest⟩
  · cases asked
  have later : selectionsSize rest < selectionsSize (s :: rest) :=
    Nat.lt_add_of_pos_left (selectionSize_pos s)
  have one {below : List Selection} (h : selectionSize s = 1 + selectionsSize below) :
      selectionsSize below < selectionsSize (s :: rest) := by
    rw [selectionsSize, h]
    omega
  cases s with
  | field f below =>
    rw [furtherCalls_field, List.mem_pair] at asked
    rcases asked with rfl | rfl
    · exact .on (one rfl)
    · exact .on later
  | inline x below =>
    rw [furtherCalls_inline, List.mem_pair] at asked
    rcases asked with rfl | rfl
    · exact .on (one rfl)
    · exact .on later
  | spread name ds =>
    rcases found : d.body? name with _ | body
    · rw [m.furtherCalls_undefined e found, List.mem_singleton] at asked
      exact asked ▸ .on later
    · by_cases h : name ∈ active
      · rw [m.furtherCalls_inside e found h, List.mem_singleton] at asked
        exact asked ▸ .on later
      · rw [m.furtherCalls_entered e found h, List.mem_pair] at asked
        rcases asked with rfl | rfl
        · exact .into found h (Nat.lt_of_le_of_lt (Nat.zero_le _) later)
        · exact .on later

/-- A call gives what the walk gives, if the calls that it asks for are answered as the walk answers
them. How others would be answered does not matter. -/
theorem call_of_answered {M : Type → Type} [Monad M] [LawfulMonad M] {ask : Call → M (α × Active)}
    {c : Call} (answered : ∀ c' ∈ m.furtherCalls d c, ask c' = pure (m.answer d c')) :
    m.call d ask c = pure (m.answer d c) := by
  obtain ⟨e, active, ss⟩ := c
  rcases ss with _ | ⟨s, rest⟩
  · rw [answer_eq, all_nil]
    rfl
  cases s with
  | field f below =>
    rw [furtherCalls_field, List.forall_mem_cons, List.forall_mem_singleton] at answered
    simp [call, callOne, answered, answer_eq]
  | inline x below =>
    rw [furtherCalls_inline, List.forall_mem_cons, List.forall_mem_singleton] at answered
    simp [call, callOne, answered, answer_eq]
  | spread name ds =>
    rcases found : d.body? name with _ | body
    · rw [m.furtherCalls_undefined e found, List.forall_mem_singleton] at answered
      simp [call, callOne, answered, answer_eq, found, m.one_undefined found]
    · by_cases h : name ∈ active
      · rw [m.furtherCalls_inside e found h, List.forall_mem_singleton] at answered
        simp [call, callOne, answered, answer_eq, found, h, m.one_inside h]
      · rw [m.furtherCalls_entered e found h, List.forall_mem_cons,
          List.forall_mem_singleton] at answered
        simp [call, callOne, answered, answer_eq, found, h, m.one_entered found h]

/-- Calls inside of one another do not go deeper than the rank of the first one. -/
theorem within_of_rank_lt {limit : Nat} {c : Call} (enough : c.rank d < limit) :
    m.within d limit c = some (m.answer d c) := by
  induction limit generalizing c with
  | zero => exact absurd enough (Nat.not_lt_zero _)
  | succ limit ih =>
    rw [within]
    refine m.call_of_answered fun c' asked => ih ?_
    have smaller := (m.leads_of_mem_furtherCalls asked).rank_lt
    omega

end Measure

/-! ## Calls inside of one another -/

/-- The fragments that calls enter, in their order. -/
def enteredBy (calls : List Call) : List String := calls.filterMap (·.entering)

/-- Calls inside of one another enter different fragments, all of them defined, and none that the
first call is inside of. So they enter no more than it has left. -/
theorem enteredBy_of_chain {c : Call} {calls : List Call}
    (chain : (c :: calls).IsChain (Call.Leads d)) :
    (enteredBy calls).Nodup ∧
      (∀ name ∈ enteredBy calls, name ∉ c.active ∧ (d.body? name).isSome) ∧
      (enteredBy calls).length ≤ pending d c.active := by
  induction calls generalizing c with
  | nil => exact ⟨List.nodup_nil, nofun, Nat.zero_le _⟩
  | cons c' calls ih =>
    obtain ⟨leads, chain⟩ := List.isChain_cons_cons.mp chain
    obtain ⟨different, outside, few⟩ := ih chain
    cases leads with
    | on _ => exact ⟨different, outside, few⟩
    | @into name body found new _ =>
      have once : name ∉ enteredBy calls := fun again => (outside name again).1 List.mem_cons_self
      refine ⟨List.nodup_cons.mpr ⟨once, different⟩, fun other h => ?_, ?_⟩
      · rcases List.mem_cons.mp h with rfl | later
        · exact ⟨new, by rw [found]; rfl⟩
        · obtain ⟨notThere, defined⟩ := outside other later
          exact ⟨fun there => notThere (List.mem_cons_of_mem _ there), defined⟩
      · have few : (enteredBy calls).length ≤ pending d (name :: c.active) := few
        exact Nat.lt_of_le_of_lt few (pending_enter_lt found new)

/-- A walk comes to an end, from whatever call on, and in whatever fragments that one begins. -/
structure Measure.Ends (m : Measure α) (d : Document) : Prop where
  /-- The walk is what comes out where it answers its own further calls, without any limit. -/
  itself : ∀ c, m.call d (M := Id) (m.answer d) c = m.answer d c
  /-- Each further call has fewer definitions left to enter, or as many and less of the text. -/
  decreasing : ∀ c, ∀ c' ∈ m.furtherCalls d c,
    Prod.Lex (· < ·) (· < ·) (c'.left d) (c.left d)
  /-- No calls go on inside of one another for ever. -/
  wellFounded : WellFounded fun c' c => c' ∈ m.furtherCalls d c
  /-- Calls inside of one another enter each definition once at most, and none that they begin in. -/
  chains : ∀ c calls, (c :: calls).IsChain (fun c c' => c' ∈ m.furtherCalls d c) →
    (enteredBy calls).Nodup ∧
    (∀ name ∈ enteredBy calls, name ∉ c.active ∧ (d.body? name).isSome) ∧
    (enteredBy calls).length ≤ d.fragments.length
  /-- A limit above the rank of a call is never reached. -/
  unlimited : ∀ c limit, c.rank d < limit → m.within d limit c = some (m.answer d c)

theorem Measure.ends (m : Measure α) (d : Document) : m.Ends d where
  itself := fun c => m.call_of_answered (M := Id) fun _ _ => rfl
  decreasing := fun c c' asked => (m.leads_of_mem_furtherCalls asked).left_lt
  wellFounded := by
    have lex : WellFounded (Prod.Lex (· < ·) (· < ·) : Nat × Nat → Nat × Nat → Prop) :=
      WellFounded.prod_lex Nat.lt_wfRel.wf Nat.lt_wfRel.wf
    exact Subrelation.wf (fun asked => (m.leads_of_mem_furtherCalls asked).left_lt)
      (InvImage.wf (Call.left d) lex)
  chains := fun c calls chain => by
    obtain ⟨different, outside, few⟩ :=
      enteredBy_of_chain (chain.imp fun _ _ asked => m.leads_of_mem_furtherCalls asked)
    exact ⟨different, outside, Nat.le_trans few List.countP_le_length⟩
  unlimited := fun c limit => m.within_of_rank_lt

/-- The walks for depth and for cost come to an end in every document, whatever circles its fragments
go in, and wherever the walk begins. -/
theorem walks_for_depth_and_cost_end (d : Document) (w : CostModel) :
    depthMeasure.Ends d ∧ w.costMeasure.Ends d :=
  ⟨depthMeasure.ends d, w.costMeasure.ends d⟩

end QueryGate.Analysis
