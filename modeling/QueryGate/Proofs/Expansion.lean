-- A document with its fragments written out: the body of its fragment
-- stands in the place of every spread. A spread of a fragment that it is
-- already inside of, or of none, is dropped, so this comes to an end also
-- where fragments go in circles.
import Mathlib.Algebra.GroupWithZero.Nat
import QueryGate.Analysis.Written
import QueryGate.Proofs.Walking

namespace QueryGate.Analysis

open GraphQL

variable {d : Document}

/-- Selections that stand inside of the fragments in `active`, written out. -/
def expanded (d : Document) (active : Active) (ss : List Selection) : List Selection :=
  match ss with
  | [] => []
  | .field f below :: rest => .field f (expanded d active below) :: expanded d active rest
  | .inline x below :: rest => .inline x (expanded d active below) :: expanded d active rest
  | .spread name _ :: rest =>
    match _found : d.body? name with
    | none => expanded d active rest
    | some body =>
      if _inside : name ∈ active then expanded d active rest
      else expanded d (name :: active) body ++ expanded d active rest
termination_by (pending d active, sizeOf ss)
decreasing_by
  · exact goes_on (Nat.le_refl _) (Nat.lt_trans (below_field_lt _ _) (head_lt _ _))
  · exact goes_on (Nat.le_refl _) (tail_lt _ _)
  · exact goes_on (Nat.le_refl _) (Nat.lt_trans (below_inline_lt _ _) (head_lt _ _))
  · exact goes_on (Nat.le_refl _) (tail_lt _ _)
  · exact goes_on (Nat.le_refl _) (tail_lt _ _)
  · exact goes_on (Nat.le_refl _) (tail_lt _ _)
  · exact enters _found _inside _ _
  · exact goes_on (Nat.le_refl _) (tail_lt _ _)

/-- The fields that are met in a document when it is written out, each as often as it is met. -/
def occurrences (d : Document) : List Field :=
  d.operationList.flatMap fun o => fieldsInAll (expanded d [] o.2.selections)

/-! ## One law for each kind of selection -/

@[simp] theorem expanded_nil (active : Active) : expanded d active [] = [] := by rw [expanded]

@[simp] theorem expanded_field (active : Active) (f : Field) (below rest : List Selection) :
    expanded d active (.field f below :: rest) =
      .field f (expanded d active below) :: expanded d active rest := by
  rw [expanded]

@[simp] theorem expanded_inline (active : Active) (x : InlineFragment)
    (below rest : List Selection) :
    expanded d active (.inline x below :: rest) =
      .inline x (expanded d active below) :: expanded d active rest := by
  rw [expanded]

theorem expanded_undefined {active : Active} {name : String} {ds : List Directive}
    {rest : List Selection} (h : d.body? name = none) :
    expanded d active (.spread name ds :: rest) = expanded d active rest := by
  rw [expanded]
  split
  · rfl
  · simp_all

theorem expanded_inside {active : Active} {name : String} {ds : List Directive}
    {rest : List Selection} (h : name ∈ active) :
    expanded d active (.spread name ds :: rest) = expanded d active rest := by
  rw [expanded]
  split
  · rfl
  · simp [h]

theorem expanded_entered {active : Active} {name : String} {ds : List Directive}
    {rest body : List Selection} (found : d.body? name = some body) (h : name ∉ active) :
    expanded d active (.spread name ds :: rest) =
      expanded d (name :: active) body ++ expanded d active rest := by
  rw [expanded]
  split
  · simp_all
  · rename_i body' found'
    obtain rfl : body = body' := by simpa [found] using found'
    simp [h]

theorem fieldsInAll_append (ss ss' : List Selection) :
    fieldsInAll (ss ++ ss') = fieldsInAll ss ++ fieldsInAll ss' := by
  induction ss with
  | nil => rfl
  | cons s rest ih => simp [fieldsInAll, ih]

/-! ## Sums over a document -/

/-- The sum of a weight of fields, in numbers without an end. -/
def weighing (w : Field → Nat) : Measure Nat where
  nothing := 0
  field := fun f below => w f + below
  beside := (· + ·)

/-- A walk that adds weights meets exactly the fields of the selections written out. -/
theorem weighing_all (w : Field → Nat) (active : Active) (ss : List Selection) :
    (weighing w).all d active ss = ((fieldsInAll (expanded d active ss)).map w).sum := by
  induction active, ss using walk_induction d with
  | nil active => simp [weighing, fieldsInAll]
  | field active f below rest ihb ihr =>
    rw [Measure.all_cons, Measure.one_field, ihb, ihr]
    simp [weighing, fieldsInAll, fieldsIn, Nat.add_assoc]
  | inline active x below rest ihb ihr =>
    rw [Measure.all_cons, Measure.one_inline, ihb, ihr]
    simp [weighing, fieldsInAll, fieldsIn]
  | undefined active name ds rest h ihr =>
    rw [Measure.all_cons, Measure.one_undefined _ h, expanded_undefined h, ihr]
    simp [weighing]
  | inside active name ds rest h ihr =>
    rw [Measure.all_cons, Measure.one_inside _ h, expanded_inside h, ihr]
    simp [weighing]
  | entered active name ds rest body found h ihb ihr =>
    rw [Measure.all_cons, Measure.one_entered _ found h, expanded_entered found h, ihb, ihr,
      fieldsInAll_append]
    simp [weighing]

theorem weighing_document (w : Field → Nat) (d : Document) :
    (weighing w).document d = ((occurrences d).map w).sum := by
  rw [Measure.document_eq, occurrences]
  induction d.operationList with
  | nil => rfl
  | cons o rest ih =>
    rw [List.map_cons, List.foldr_cons, ih, weighing_all, List.flatMap_cons, List.map_append,
      List.sum_append]
    rfl

end QueryGate.Analysis
