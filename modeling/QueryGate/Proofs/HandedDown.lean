-- The guard that all parts of a walk share is given back as it was, so it
-- could as well be a set that nobody changes: each path hands it down with
-- the fragments that it has entered, and what stands beside the path sees
-- none of them. Each operation is measured as if it were alone.
import Mathlib.Data.Finset.Dedup
import Mathlib.Data.Finset.Insert
import QueryGate.Proofs.Replacing

namespace QueryGate.Analysis

open GraphQL

variable {α : Type} {d : Document}

/-! ## A set that is handed down -/

/-- How many definitions are left to enter depends on the names alone. -/
theorem pending_congr {active active' : Active} (same : ∀ name, name ∈ active ↔ name ∈ active') :
    pending d active = pending d active' := by
  unfold pending
  refine List.countP_congr fun f _ => ?_
  simp only [same]

theorem enters_insert {inside : Finset String} {name : String} {body : List Selection}
    (found : d.body? name = some body) (outside : name ∉ inside) (m n : Nat) :
    Prod.Lex (· < ·) (· < ·) (pending d (insert name inside).toList, m)
      (pending d inside.toList, n) := by
  have same : pending d (insert name inside).toList = pending d (name :: inside.toList) :=
    pending_congr fun other => by simp
  rw [same]
  exact enters found (by simpa using outside) m n

/-- What a measure gives for selections on a path that has entered the fragments in `inside`. -/
def Measure.handedDown (m : Measure α) (d : Document) (inside : Finset String)
    (ss : List Selection) : α :=
  match ss with
  | [] => m.nothing
  | .field f below :: rest =>
    m.beside (m.field f (handedDown m d inside below)) (handedDown m d inside rest)
  | .inline _ below :: rest =>
    m.beside (handedDown m d inside below) (handedDown m d inside rest)
  | .spread name _ :: rest =>
    match _found : d.body? name with
    | none => m.beside m.nothing (handedDown m d inside rest)
    | some body =>
      if _entered : name ∈ inside then m.beside m.nothing (handedDown m d inside rest)
      else m.beside (handedDown m d (insert name inside) body) (handedDown m d inside rest)
termination_by (pending d inside.toList, sizeOf ss)
decreasing_by
  · exact goes_on (Nat.le_refl _) (Nat.lt_trans (below_field_lt _ _) (head_lt _ _))
  · exact goes_on (Nat.le_refl _) (tail_lt _ _)
  · exact goes_on (Nat.le_refl _) (Nat.lt_trans (below_inline_lt _ _) (head_lt _ _))
  · exact goes_on (Nat.le_refl _) (tail_lt _ _)
  · exact goes_on (Nat.le_refl _) (tail_lt _ _)
  · exact goes_on (Nat.le_refl _) (tail_lt _ _)
  · exact enters_insert _found _entered _ _
  · exact goes_on (Nat.le_refl _) (tail_lt _ _)

namespace Measure

variable (m : Measure α) {inside : Finset String} {name : String} {ds : List Directive}
  {rest : List Selection}

theorem handedDown_undefined (h : d.body? name = none) :
    m.handedDown d inside (.spread name ds :: rest) =
      m.beside m.nothing (m.handedDown d inside rest) := by
  rw [handedDown]
  split
  · rfl
  · simp_all

theorem handedDown_inside (h : name ∈ inside) :
    m.handedDown d inside (.spread name ds :: rest) =
      m.beside m.nothing (m.handedDown d inside rest) := by
  rw [handedDown]
  split
  · rfl
  · rw [dif_pos h]

theorem handedDown_entered {body : List Selection} (found : d.body? name = some body)
    (h : name ∉ inside) :
    m.handedDown d inside (.spread name ds :: rest) =
      m.beside (m.handedDown d (insert name inside) body) (m.handedDown d inside rest) := by
  rw [handedDown]
  split
  · simp_all
  · rename_i body' found'
    obtain rfl : body = body' := by simpa [found] using found'
    rw [dif_neg h]

/-- With a guard that is put into and taken out of, a walk gives what it gives with a set that is
handed down. -/
theorem all_eq_handedDown (active : Active) (ss : List Selection) :
    m.all d active ss = m.handedDown d active.toFinset ss := by
  induction active, ss using walk_induction d with
  | nil active => rw [all_nil, handedDown]
  | field active f below rest ihb ihr => rw [all_cons, one_field, handedDown, ihb, ihr]
  | inline active x below rest ihb ihr => rw [all_cons, one_inline, handedDown, ihb, ihr]
  | undefined active name ds rest h ihr =>
    rw [all_cons, m.one_undefined h, m.handedDown_undefined h, ihr]
  | inside active name ds rest h ihr =>
    rw [all_cons, m.one_inside h, m.handedDown_inside (List.mem_toFinset.mpr h), ihr]
  | entered active name ds rest body found h ihb ihr =>
    have outside : name ∉ active.toFinset := mt List.mem_toFinset.mp h
    rw [all_cons, m.one_entered found h, m.handedDown_entered found outside, ihb, ihr,
      List.toFinset_cons]

/-- The guard that one operation gives back is the guard of the next one. -/
theorem walkOperations_active (active : Active) (os : List (Option String × Operation)) :
    (walkOperations m d active os).2 = active := by
  induction os with
  | nil => rfl
  | cons o os ih =>
    rw [walkOperations, walkAll_active]
    exact ih

end Measure

/-! ## One operation at a time -/

/-- The document with one of its operations and all of its fragments. -/
def keepingOnly (d : Document) : Option String × Operation → Document
  | (none, o) => { d with operations := .single o }
  | (some name, o) => { d with operations := .named [(name, o)] }

theorem operationList_keepingOnly (d : Document) (o : Option String × Operation) :
    (keepingOnly d o).operationList = [o] := by
  rcases o with ⟨_ | name, o⟩ <;> rfl

theorem body?_keepingOnly (d : Document) (o : Option String × Operation) (name : String) :
    (keepingOnly d o).body? name = d.body? name := by
  rcases o with ⟨_ | name, o⟩ <;> rfl

/-- What is measured of a document is put together from its operations, each in a document without the
others. -/
theorem Measure.document_eq_keepingOnly (m : Measure α) (alone : ∀ a, m.beside a m.nothing = a)
    (d : Document) :
    m.document d =
      (d.operationList.map fun o => m.document (keepingOnly d o)).foldr m.beside m.nothing := by
  have one (o : Option String × Operation) :
      m.document (keepingOnly d o) = m.all d [] o.2.selections := by
    rw [m.document_eq, operationList_keepingOnly, List.map_singleton, List.foldr_cons,
      List.foldr_nil, alone]
    exact m.all_congr (body?_keepingOnly d o) [] o.2.selections
  simp only [one]
  exact m.document_eq

/-! ## The whole of it -/

/-- A walk gives its guard back as it was handed to it, whatever it did not follow on its way. So what
it measures with one guard for everything, depth and cost as well as anything else, is what is
measured with a set of names that each path hands down and nobody changes. The depth of a document
is therefore the greatest that one of its operations has without the others, and its cost is the
sum of what they cost without the others, cut off at the greatest number. -/
theorem the_guard_is_given_back (d : Document) (w : CostModel) :
    (∀ (α : Type) (m : Measure α) (active : Active),
      (∀ ss, (walkAll m d active ss).active = active ∧
        (walkAll m d active ss).value = m.handedDown d active.toFinset ss) ∧
      ∀ os, walkOperations m d active os =
        ((os.map fun o => m.handedDown d active.toFinset o.2.selections).foldr m.beside m.nothing,
          active)) ∧
    depth d = (d.operationList.map fun o => depth (keepingOnly d o)).foldr max 0 ∧
    w.estimate d =
      Saturating.clamp (d.operationList.map fun o => (w.estimate (keepingOnly d o)).toNat).sum := by
  refine ⟨fun α m active => ⟨fun ss => ⟨walkAll_active m d active ss, ?_⟩, fun os => ?_⟩, ?_, ?_⟩
  · exact m.all_eq_handedDown active ss
  · refine Prod.ext ?_ (m.walkOperations_active active os)
    rw [m.walkOperations_value]
    simp only [m.all_eq_handedDown]
  · exact depthMeasure.document_eq_keepingOnly Nat.max_zero d
  · have apart := w.costMeasure.document_eq_keepingOnly clamp_toNat d
    have sum := foldr_add_eq_clamp (d.operationList.map fun o => w.estimate (keepingOnly d o))
    rw [List.map_map] at sum
    exact apart.trans sum

end QueryGate.Analysis
