-- What a walk gives, one law for each kind of selection. A walk leaves the
-- fragments that it entered, so what stands side by side is measured inside
-- of the same fragments, and the list that all share can be forgotten.
import QueryGate.Analysis.Walk

namespace QueryGate.Analysis

open GraphQL

variable {α β : Type} {d : Document}

/-! ## Induction along a walk -/

/-- What holds of selections if it holds of what a walk measures on its way through them. The
fragment definitions left to enter come first in the order, since the body of a fragment can be
larger than all that spreads it. -/
theorem walk_induction (d : Document) {motive : Active → List Selection → Prop}
    (nil : ∀ active, motive active [])
    (field : ∀ active f below rest, motive active below → motive active rest →
      motive active (.field f below :: rest))
    (inline : ∀ active x below rest, motive active below → motive active rest →
      motive active (.inline x below :: rest))
    (undefined : ∀ active name ds rest, d.body? name = none → motive active rest →
      motive active (.spread name ds :: rest))
    (inside : ∀ active name ds rest, name ∈ active → motive active rest →
      motive active (.spread name ds :: rest))
    (entered : ∀ active name ds rest body, d.body? name = some body → name ∉ active →
      motive (name :: active) body → motive active rest →
      motive active (.spread name ds :: rest))
    (active : Active) (ss : List Selection) : motive active ss :=
  match ss with
  | [] => nil active
  | .field f below :: rest =>
    field active f below rest
      (walk_induction d nil field inline undefined inside entered active below)
      (walk_induction d nil field inline undefined inside entered active rest)
  | .inline x below :: rest =>
    inline active x below rest
      (walk_induction d nil field inline undefined inside entered active below)
      (walk_induction d nil field inline undefined inside entered active rest)
  | .spread name ds :: rest => by
    have later := walk_induction d nil field inline undefined inside entered active rest
    rcases found : d.body? name with _ | body
    · exact undefined active name ds rest found later
    · by_cases h : name ∈ active
      · exact inside active name ds rest h later
      · exact entered active name ds rest body found h
          (walk_induction d nil field inline undefined inside entered (name :: active) body) later
termination_by (pending d active, sizeOf ss)
decreasing_by
  · exact goes_on (Nat.le_refl _) (Nat.lt_trans (below_field_lt _ _) (head_lt _ _))
  · exact goes_on (Nat.le_refl _) (tail_lt _ _)
  · exact goes_on (Nat.le_refl _) (Nat.lt_trans (below_inline_lt _ _) (head_lt _ _))
  · exact goes_on (Nat.le_refl _) (tail_lt _ _)
  · exact goes_on (Nat.le_refl _) (tail_lt _ _)
  · exact enters found h _ _

/-! ## The fragments that a walk is inside of -/

theorem walk_undefined (m : Measure α) {active : Active} {name : String} {ds : List Directive}
    (h : d.body? name = none) :
    walk m d active (.spread name ds) = ⟨m.nothing, active, Nat.le_refl _⟩ := by
  rw [walk]
  split
  · rfl
  · simp_all

theorem walk_inside (m : Measure α) {active : Active} {name : String} {ds : List Directive}
    (h : name ∈ active) :
    walk m d active (.spread name ds) = ⟨m.nothing, active, Nat.le_refl _⟩ := by
  rw [walk]
  split
  · rfl
  · simp [h]

theorem walk_entered (m : Measure α) {active : Active} {name : String} {ds : List Directive}
    {body : List Selection} (found : d.body? name = some body) (h : name ∉ active) :
    (walk m d active (.spread name ds)).value = (walkAll m d (name :: active) body).value ∧
    (walk m d active (.spread name ds)).active =
      (walkAll m d (name :: active) body).active.erase name := by
  rw [walk]
  split
  · simp_all
  · rename_i body' found'
    obtain rfl : body = body' := by simpa [found] using found'
    simp [h]

theorem walkAll_cons_active (m : Measure α) (d : Document) (active : Active) (s : Selection)
    (rest : List Selection) :
    (walkAll m d active (s :: rest)).active =
      (walkAll m d (walk m d active s).active rest).active := by
  rw [walkAll]

theorem walkAll_cons_value (m : Measure α) (d : Document) (active : Active) (s : Selection)
    (rest : List Selection) :
    (walkAll m d active (s :: rest)).value =
      m.beside (walk m d active s).value (walkAll m d (walk m d active s).active rest).value := by
  rw [walkAll]

/-- A walk is inside of the same fragments when it ends as when it began. A spread that is not
followed takes out no name that one further up has put in. -/
theorem walkAll_active (m : Measure α) (d : Document) (active : Active) (ss : List Selection) :
    (walkAll m d active ss).active = active := by
  induction active, ss using walk_induction d with
  | nil active => rw [walkAll]
  | field active f below rest ihb ihr =>
    have : (walk m d active (.field f below)).active = active := by rw [walk]; exact ihb
    rw [walkAll_cons_active, this, ihr]
  | inline active x below rest ihb ihr =>
    have : (walk m d active (.inline x below)).active = active := by rw [walk]; exact ihb
    rw [walkAll_cons_active, this, ihr]
  | undefined active name ds rest h ihr => rw [walkAll_cons_active, walk_undefined m h, ihr]
  | inside active name ds rest h ihr => rw [walkAll_cons_active, walk_inside m h, ihr]
  | entered active name ds rest body found h ihb ihr =>
    rw [walkAll_cons_active, (walk_entered m found h).2, ihb, List.erase_cons_head, ihr]

theorem walk_active (m : Measure α) (d : Document) (active : Active) (s : Selection) :
    (walk m d active s).active = active := by
  have h := walkAll_cons_active m d active s []
  rw [walkAll_active, walkAll_active] at h
  exact h.symm

/-! ## What a walk gives -/

/-- What a measure gives for one selection that stands inside of the fragments in `active`. -/
def Measure.one (m : Measure α) (d : Document) (active : Active) (s : Selection) : α :=
  (walk m d active s).value

/-- What a measure gives for selections that stand inside of the fragments in `active`. -/
def Measure.all (m : Measure α) (d : Document) (active : Active) (ss : List Selection) : α :=
  (walkAll m d active ss).value

namespace Measure

variable (m : Measure α) {active : Active}

@[simp] theorem all_nil : m.all d active [] = m.nothing := by rw [Measure.all, walkAll]

@[simp] theorem all_cons (s : Selection) (rest : List Selection) :
    m.all d active (s :: rest) = m.beside (m.one d active s) (m.all d active rest) := by
  rw [Measure.all, walkAll_cons_value, walk_active]
  rfl

@[simp] theorem one_field (f : Field) (below : List Selection) :
    m.one d active (.field f below) = m.field f (m.all d active below) := by
  simp only [Measure.all, Measure.one]
  rw [walk]

@[simp] theorem one_inline (x : InlineFragment) (below : List Selection) :
    m.one d active (.inline x below) = m.all d active below := by
  simp only [Measure.all, Measure.one]
  rw [walk]

theorem one_undefined {name : String} {ds : List Directive} (h : d.body? name = none) :
    m.one d active (.spread name ds) = m.nothing := by
  rw [Measure.one, walk_undefined m h]

theorem one_inside {name : String} {ds : List Directive} (h : name ∈ active) :
    m.one d active (.spread name ds) = m.nothing := by
  rw [Measure.one, walk_inside m h]

theorem one_entered {name : String} {ds : List Directive} {body : List Selection}
    (found : d.body? name = some body) (h : name ∉ active) :
    m.one d active (.spread name ds) = m.all d (name :: active) body :=
  (walk_entered m found h).1

theorem walkOperations_value (operations : List (Option String × Operation)) :
    (walkOperations m d active operations).1 =
      (operations.map fun o => m.all d active o.2.selections).foldr m.beside m.nothing := by
  induction operations with
  | nil => rfl
  | cons o rest ih =>
    simp only [walkOperations, walkAll_active, List.map_cons, List.foldr_cons, ih]
    rfl

/-- Each operation is measured as if it were alone. -/
theorem document_eq :
    m.document d =
      (d.operationList.map fun o => m.all d [] o.2.selections).foldr m.beside m.nothing :=
  walkOperations_value m d.operationList

end Measure

/-! ## From one measure to another -/

/-- A map that takes what one measure gives to what another gives, whatever is put together. -/
structure Measure.Carries (h : α → β) (m : Measure α) (n : Measure β) : Prop where
  nothing : h m.nothing = n.nothing
  field : ∀ f below, h (m.field f below) = n.field f (h below)
  beside : ∀ a b, h (m.beside a b) = n.beside (h a) (h b)

namespace Measure.Carries

variable {h : α → β} {m : Measure α} {n : Measure β}

theorem all (c : Carries h m n) (active : Active) (ss : List Selection) :
    h (m.all d active ss) = n.all d active ss := by
  induction active, ss using walk_induction d with
  | nil active => rw [all_nil, all_nil, c.nothing]
  | field active f below rest ihb ihr =>
    rw [all_cons, all_cons, c.beside, one_field, one_field, c.field, ihb, ihr]
  | inline active x below rest ihb ihr =>
    rw [all_cons, all_cons, c.beside, one_inline, one_inline, ihb, ihr]
  | undefined active name ds rest hu ihr =>
    rw [all_cons, all_cons, c.beside, one_undefined m hu, one_undefined n hu, c.nothing, ihr]
  | inside active name ds rest hi ihr =>
    rw [all_cons, all_cons, c.beside, one_inside m hi, one_inside n hi, c.nothing, ihr]
  | entered active name ds rest body found ho ihb ihr =>
    rw [all_cons, all_cons, c.beside, one_entered m found ho, one_entered n found ho, ihb, ihr]

theorem document (c : Carries h m n) (d : Document) : h (m.document d) = n.document d := by
  rw [document_eq, document_eq]
  induction d.operationList with
  | nil => exact c.nothing
  | cons o rest ih => rw [List.map_cons, List.foldr_cons, c.beside, c.all, ih]; rfl

end Measure.Carries

end QueryGate.Analysis
