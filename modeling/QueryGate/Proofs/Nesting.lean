-- How deep a document can be, seen from what is written. Along one path
-- every fragment is entered once at most, however often it is spread, so
-- it adds the nesting of its own text once.
import Mathlib.Algebra.GroupWithZero.Nat
import Mathlib.Algebra.Order.BigOperators.Group.List
import Mathlib.Algebra.Order.Group.Nat
import QueryGate.Analysis.Depth
import QueryGate.Proofs.Walking

namespace QueryGate.Analysis

open GraphQL

variable {d : Document} {active : Active}

/-! ## Nesting as it is written -/

mutual

/-- How deep fields are nested in a selection. A spread counts for nothing. -/
def nesting : Selection → Nat
  | .field _ below => 1 + nestingAll below
  | .spread _ _ => 0
  | .inline _ below => nestingAll below

def nestingAll : List Selection → Nat
  | [] => 0
  | s :: rest => max (nesting s) (nestingAll rest)

end

theorem foldr_max_le_sum (ns : List Nat) : ns.foldr max 0 ≤ ns.sum := by
  induction ns with
  | nil => exact Nat.le_refl 0
  | cons n rest ih =>
    rw [List.foldr_cons, List.sum_cons]
    omega

theorem nestingAll_eq (ss : List Selection) : nestingAll ss = (ss.map nesting).foldr max 0 := by
  induction ss with
  | nil => rfl
  | cons s rest ih => rw [nestingAll, ih, List.map_cons, List.foldr_cons]

/-- The nesting of all fragments that a walk is not inside of, one after the other. -/
def nestingLeft (d : Document) (active : Active) : Nat :=
  ((d.fragments.filter fun f => f.1 ∉ active).map fun f => nestingAll f.2.selections).sum

/-- Inside of one more fragment no more is left. -/
theorem sum_left_le (fs : List (String × Fragment)) (name : String) (active : Active) :
    ((fs.filter fun f => f.1 ∉ name :: active).map fun f => nestingAll f.2.selections).sum ≤
      ((fs.filter fun f => f.1 ∉ active).map fun f => nestingAll f.2.selections).sum := by
  have fewer : (fs.filter fun f => f.1 ∉ name :: active).Sublist (fs.filter fun f => f.1 ∉ active) :=
    List.monotone_filter_right fs fun f => by simp
  exact (fewer.map _).sum_le_sum fun _ _ => Nat.zero_le _

/-- A fragment that is entered is left no more. -/
theorem nestingLeft_enter {name : String} {body : List Selection} (found : d.body? name = some body)
    (outside : name ∉ active) :
    nestingAll body + nestingLeft d (name :: active) ≤ nestingLeft d active := by
  obtain ⟨f, isFragment, rfl⟩ := Option.map_eq_some_iff.mp found
  obtain ⟨before, after, split, -⟩ := List.lookup_eq_some_iff.mp isFragment
  have earlier := sum_left_le before name active
  have later := sum_left_le after name active
  simp only [nestingLeft, split, List.filter_append, List.map_append, List.sum_append]
  rw [List.filter_cons_of_neg (by simp), List.filter_cons_of_pos (by simp [outside]),
    List.map_cons, List.sum_cons]
  dsimp only
  omega

/-! ## Depth -/

/-- What is below a path is as deep as its own text and all that can still be entered. -/
theorem depthMeasure_all_le (d : Document) (active : Active) (ss : List Selection) :
    depthMeasure.all d active ss ≤ nestingAll ss + nestingLeft d active := by
  induction active, ss using walk_induction d with
  | nil active => rw [Measure.all_nil]; exact Nat.zero_le _
  | field active f below rest ihb ihr =>
    rw [Measure.all_cons, Measure.one_field, nestingAll, nesting]
    simp only [depthMeasure] at *
    omega
  | inline active x below rest ihb ihr =>
    rw [Measure.all_cons, Measure.one_inline, nestingAll, nesting]
    simp only [depthMeasure] at *
    omega
  | undefined active name ds rest h ihr =>
    rw [Measure.all_cons, Measure.one_undefined _ h, nestingAll, nesting]
    simp only [depthMeasure] at *
    omega
  | inside active name ds rest h ihr =>
    rw [Measure.all_cons, Measure.one_inside _ h, nestingAll, nesting]
    simp only [depthMeasure] at *
    omega
  | entered active name ds rest body found h ihb ihr =>
    have entering := nestingLeft_enter found h
    rw [Measure.all_cons, Measure.one_entered _ found h, nestingAll, nesting]
    simp only [depthMeasure] at *
    omega

/-- A document is no deeper than its deepest operation is written, with all its fragments. -/
theorem depth_le_nesting (d : Document) :
    depth d ≤ (d.operationList.map fun o => nestingAll o.2.selections).foldr max 0 +
      (d.fragments.map fun f => nestingAll f.2.selections).sum := by
  have all : nestingLeft d [] = (d.fragments.map fun f => nestingAll f.2.selections).sum := by
    rw [nestingLeft, List.filter_eq_self.mpr (by simp)]
  rw [depth, Measure.document_eq, ← all]
  induction d.operationList with
  | nil => exact Nat.zero_le _
  | cons o rest ih =>
    have first := depthMeasure_all_le d [] o.2.selections
    simp only [List.map_cons, List.foldr_cons]
    simp only [depthMeasure] at *
    omega

end QueryGate.Analysis
