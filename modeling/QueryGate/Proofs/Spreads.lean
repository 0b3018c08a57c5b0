-- What a walk comes to. Spreads lead it from fragment to fragment, and the
-- names that it keeps are a chain of spreads that ends where it is. So the
-- guard against circles only ever stops a walk that is in one.
import Mathlib.Logic.Relation
import QueryGate.Proofs.Walking

namespace QueryGate.Analysis

open GraphQL

variable {d : Document}

/-! ## Chains of spreads -/

mutual

/-- The names of the fragments that are spread in a selection, however far below. -/
def spreadsIn : Selection → List String
  | .field _ below => spreadsInAll below
  | .spread name _ => [name]
  | .inline _ below => spreadsInAll below

def spreadsInAll : List Selection → List String
  | [] => []
  | s :: rest => spreadsIn s ++ spreadsInAll rest

end

theorem exists_fragment_of_body?_eq_some {name : String} {body : List Selection}
    (found : d.body? name = some body) : ∃ f, (name, f) ∈ d.fragments ∧ f.selections = body := by
  obtain ⟨f, hf, rfl⟩ := Option.map_eq_some_iff.mp found
  obtain ⟨before, after, hd, -⟩ := List.lookup_eq_some_iff.mp hf
  refine ⟨f, ?_, rfl⟩
  rw [hd]
  exact List.mem_append_right _ List.mem_cons_self

/-- The fragment `a` is defined, and spreads `b`. -/
def Spreads (d : Document) (a b : String) : Prop :=
  ∃ body, d.body? a = some body ∧ b ∈ spreadsInAll body

/-- A chain of spreads, one at least, leads from one fragment to another. -/
def Reaches (d : Document) : String → String → Prop := Relation.TransGen (Spreads d)

/-- No chain of spreads comes back to where it started. -/
def Acyclic (d : Document) : Prop := ∀ name, ¬ Reaches d name name

theorem mem_spreadsInAll_head {name : String} {s : Selection} (rest : List Selection)
    (h : name ∈ spreadsIn s) : name ∈ spreadsInAll (s :: rest) := by
  rw [spreadsInAll]
  exact List.mem_append_left _ h

theorem mem_spreadsInAll_tail {name : String} (s : Selection) {rest : List Selection}
    (h : name ∈ spreadsInAll rest) : name ∈ spreadsInAll (s :: rest) := by
  rw [spreadsInAll]
  exact List.mem_append_right _ h

theorem mem_spreadsInAll_spread (name : String) (ds : List Directive) (rest : List Selection) :
    name ∈ spreadsInAll (.spread name ds :: rest) := by
  apply mem_spreadsInAll_head
  simp [spreadsIn]

theorem mem_spreadsInAll_field {name : String} {f : Field} {below : List Selection}
    (rest : List Selection) (h : name ∈ spreadsInAll below) :
    name ∈ spreadsInAll (.field f below :: rest) := by
  apply mem_spreadsInAll_head
  rw [spreadsIn]
  exact h

theorem mem_spreadsInAll_inline {name : String} {x : InlineFragment} {below : List Selection}
    (rest : List Selection) (h : name ∈ spreadsInAll below) :
    name ∈ spreadsInAll (.inline x below :: rest) := by
  apply mem_spreadsInAll_head
  rw [spreadsIn]
  exact h

theorem spreadsInAll_append (ss ss' : List Selection) :
    spreadsInAll (ss ++ ss') = spreadsInAll ss ++ spreadsInAll ss' := by
  induction ss with
  | nil => simp [spreadsInAll]
  | cons s rest ih => simp [spreadsInAll, ih]

/-! ## What stands in the place of a selection -/

/-- What is walked in the place of a selection that is no field, and inside of which fragments. A
spread that is not followed has nothing in its place. -/
inductive Opens (d : Document) (active : Active) : Selection → Active → List Selection → Prop where
  | inline {x : InlineFragment} {below : List Selection} :
    Opens d active (.inline x below) active below
  | undefined {name : String} {ds : List Directive} :
    d.body? name = none → Opens d active (.spread name ds) active []
  | inside {name : String} {ds : List Directive} :
    name ∈ active → Opens d active (.spread name ds) active []
  | entered {name : String} {ds : List Directive} {body : List Selection} :
    d.body? name = some body → name ∉ active →
    Opens d active (.spread name ds) (name :: active) body

section

variable {α : Type} {active inner : Active} {s : Selection} {body : List Selection}

theorem Opens.one (h : Opens d active s inner body) (m : Measure α) :
    m.one d active s = m.all d inner body := by
  cases h with
  | inline => exact m.one_inline _ _
  | undefined found => rw [m.one_undefined found, m.all_nil]
  | inside inside => rw [m.one_inside inside, m.all_nil]
  | entered found outside => exact m.one_entered found outside

theorem nil_lt (s : Selection) (rest : List Selection) :
    sizeOf ([] : List Selection) < sizeOf (s :: rest) := by
  have shortest : sizeOf ([] : List Selection) ≤ sizeOf rest := by
    cases rest with
    | nil => exact Nat.le_refl _
    | cons s rest => simp only [List.nil.sizeOf_spec, List.cons.sizeOf_spec]; omega
  exact Nat.lt_of_le_of_lt shortest (tail_lt s rest)

/-- A walk that has got to the first place has less left than one that has got to the second: no
more fragments that it could still enter, and fewer of them or less of the text. -/
def LessLeft (d : Document) (active : Active) (ss : List Selection) (active' : Active)
    (ss' : List Selection) : Prop :=
  Prod.Lex (· < ·) (· < ·) (pending d active, sizeOf ss) (pending d active', sizeOf ss')

theorem lessLeft_rest (d : Document) (active : Active) (s : Selection) (rest : List Selection) :
    LessLeft d active rest active (s :: rest) :=
  goes_on (Nat.le_refl _) (tail_lt s rest)

theorem lessLeft_field (d : Document) (active : Active) (f : Field) (below rest : List Selection) :
    LessLeft d active below active (.field f below :: rest) :=
  goes_on (Nat.le_refl _) (Nat.lt_trans (below_field_lt f below) (head_lt _ rest))

theorem Opens.lessLeft (h : Opens d active s inner body) (rest : List Selection) :
    LessLeft d inner body active (s :: rest) := by
  cases h with
  | inline => exact goes_on (Nat.le_refl _) (Nat.lt_trans (below_inline_lt _ _) (head_lt _ _))
  | undefined found => exact goes_on (Nat.le_refl _) (nil_lt _ _)
  | inside inside => exact goes_on (Nat.le_refl _) (nil_lt _ _)
  | entered found outside => exact enters found outside _ _

/-- What holds of a place if it holds of all places that a walk has less left from. -/
theorem lessLeft_induction (d : Document) {motive : Active → List Selection → Prop}
    (step : ∀ active ss,
      (∀ active' ss', LessLeft d active' ss' active ss → motive active' ss') → motive active ss)
    (active : Active) (ss : List Selection) : motive active ss :=
  step active ss fun active' ss' _less => lessLeft_induction d step active' ss'
termination_by (pending d active, sizeOf ss)
decreasing_by exact _less

end

/-- Every selection that is no field has something in its place. -/
theorem exists_opens_spread (d : Document) (active : Active) (name : String)
    (ds : List Directive) : ∃ inner body, Opens d active (.spread name ds) inner body := by
  rcases found : d.body? name with _ | body
  · exact ⟨active, [], .undefined found⟩
  · by_cases h : name ∈ active
    · exact ⟨active, [], .inside h⟩
    · exact ⟨name :: active, body, .entered found h⟩

/-! ## What a walk visits -/

/-- The selections that a walk through a document comes to, and the fragments that it is inside of
there. -/
inductive Visits (d : Document) : Active → List Selection → Prop where
  | operation {o : Option String × Operation} :
    o ∈ d.operationList → Visits d [] o.2.selections
  | rest {active : Active} {s : Selection} {rest : List Selection} :
    Visits d active (s :: rest) → Visits d active rest
  | field {active : Active} {f : Field} {below rest : List Selection} :
    Visits d active (.field f below :: rest) → Visits d active below
  | opened {active inner : Active} {s : Selection} {body rest : List Selection} :
    Visits d active (s :: rest) → Opens d active s inner body → Visits d inner body

theorem Visits.nil {active : Active} {ss : List Selection} (h : Visits d active ss) :
    Visits d active [] := by
  induction ss with
  | nil => exact h
  | cons s rest ih => exact ih h.rest

/-- From each fragment that a walk is inside of, a chain of spreads leads to every fragment that is
spread where it is. -/
theorem Visits.reaches {active : Active} {ss : List Selection} (h : Visits d active ss)
    {a b : String} (ha : a ∈ active) (hb : b ∈ spreadsInAll ss) : Reaches d a b := by
  induction h generalizing a b with
  | operation _ => cases ha
  | rest _ ih => exact ih ha (mem_spreadsInAll_tail _ hb)
  | field _ ih => exact ih ha (mem_spreadsInAll_field _ hb)
  | opened _ opens ih =>
    cases opens with
    | inline => exact ih ha (mem_spreadsInAll_inline _ hb)
    | undefined _ => cases hb
    | inside _ => cases hb
    | @entered name ds _ found outside =>
      have last : Spreads d name b := ⟨_, found, hb⟩
      rcases List.mem_cons.mp ha with rfl | ha
      · exact .single last
      · exact .tail (ih ha (mem_spreadsInAll_spread _ _ _)) last

/-- A walk comes to a spread of a fragment that it is inside of only where a chain of spreads comes
back to that fragment. -/
theorem Visits.reaches_self {active : Active} {name : String} {ds : List Directive}
    {rest : List Selection} (h : Visits d active (.spread name ds :: rest)) (inside : name ∈ active) :
    Reaches d name name :=
  h.reaches inside (mem_spreadsInAll_spread _ _ _)

end QueryGate.Analysis
