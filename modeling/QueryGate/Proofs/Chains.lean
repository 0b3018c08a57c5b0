-- Depth without a walk. A path goes from an operation down through fields,
-- inline fragments and spreads, and enters no fragment twice; depth is the
-- greatest number of fields on such a path.
import Mathlib.Algebra.GroupWithZero.Nat
import QueryGate.Analysis.Depth
import QueryGate.Proofs.Walking

namespace QueryGate.Analysis

open GraphQL

variable {d : Document}

/-! ## Paths -/

/-- A step of a path: into a field, into an inline fragment, or through a spread into the fragment
of that name. -/
inductive Step where
  | field (f : Field)
  | inline (x : InlineFragment)
  | spread (name : String)

/-- A step leads from selections to those that stand below what it enters. -/
inductive Enters (d : Document) : List Selection → Step → List Selection → Prop where
  | field {ss : List Selection} {f : Field} {below : List Selection} :
    .field f below ∈ ss → Enters d ss (.field f) below
  | inline {ss : List Selection} {x : InlineFragment} {below : List Selection} :
    .inline x below ∈ ss → Enters d ss (.inline x) below
  | spread {ss : List Selection} {name : String} {ds : List Directive} {body : List Selection} :
    .spread name ds ∈ ss → d.body? name = some body → Enters d ss (.spread name) body

/-- Steps that lead from selections downwards, one after the other. -/
inductive Leads (d : Document) : List Selection → List Step → Prop where
  | stay {ss : List Selection} : Leads d ss []
  | go {ss below : List Selection} {step : Step} {path : List Step} :
    Enters d ss step below → Leads d below path → Leads d ss (step :: path)

def Step.fragment? : Step → Option String
  | .spread name => some name
  | _ => none

/-- The fragments that a path enters. -/
def entered (path : List Step) : List String := path.filterMap Step.fragment?

def Step.fields : Step → Nat
  | .field _ => 1
  | _ => 0

/-- How many fields a path enters. -/
def fieldSteps (path : List Step) : Nat := (path.map Step.fields).sum

/-- A path of a document: it starts in one of the operations, and enters no fragment twice. -/
structure IsPath (d : Document) (path : List Step) : Prop where
  starts : ∃ o ∈ d.operationList, Leads d o.2.selections path
  once : (entered path).Nodup

/-! ## The deepest of selections side by side -/

theorem depth_one_le (d : Document) (active : Active) {ss : List Selection} {s : Selection}
    (h : s ∈ ss) : depthMeasure.one d active s ≤ depthMeasure.all d active ss := by
  induction ss with
  | nil => cases h
  | cons s' rest ih =>
    rw [Measure.all_cons]
    rcases List.mem_cons.mp h with rfl | h
    · exact Nat.le_max_left _ _
    · exact Nat.le_trans (ih h) (Nat.le_max_right _ _)

theorem depth_operation_le {o : Option String × Operation} (h : o ∈ d.operationList) :
    depthMeasure.all d [] o.2.selections ≤ depth d := by
  rw [depth, Measure.document_eq]
  generalize d.operationList = os at h
  induction os with
  | nil => cases h
  | cons o' rest ih =>
    rw [List.map_cons, List.foldr_cons]
    rcases List.mem_cons.mp h with rfl | h
    · exact Nat.le_max_left _ _
    · exact Nat.le_trans (ih h) (Nat.le_max_right _ _)

/-- Some operation is as deep as the document, if there is one at all. -/
theorem exists_deepest_operation (d : Document) :
    (∃ o ∈ d.operationList, depthMeasure.all d [] o.2.selections = depth d) ∨
      d.operationList = [] ∧ depth d = 0 := by
  rw [depth, Measure.document_eq]
  induction d.operationList with
  | nil => exact .inr ⟨rfl, rfl⟩
  | cons o rest ih =>
    left
    rw [List.map_cons, List.foldr_cons]
    generalize (rest.map fun o => depthMeasure.all d [] o.2.selections).foldr
      depthMeasure.beside depthMeasure.nothing = deepest at ih ⊢
    show ∃ o' ∈ o :: rest, depthMeasure.all d [] o'.2.selections =
      max (depthMeasure.all d [] o.2.selections) deepest
    rcases ih with ⟨o', ho', rfl⟩ | ⟨-, rfl⟩
    · rcases Nat.le_total (depthMeasure.all d [] o'.2.selections)
        (depthMeasure.all d [] o.2.selections) with h | h
      · exact ⟨o, List.mem_cons_self, (Nat.max_eq_left h).symm⟩
      · exact ⟨o', List.mem_cons_of_mem _ ho', (Nat.max_eq_right h).symm⟩
    · exact ⟨o, List.mem_cons_self, (Nat.max_eq_left (Nat.zero_le _)).symm⟩

/-! ## No path is deeper -/

/-- From selections inside of some fragments, no path that enters each other fragment at most once
meets more fields than the walk counts. -/
theorem fieldSteps_le {ss : List Selection} {path : List Step} (leads : Leads d ss path)
    {active : Active} (outside : ∀ name ∈ entered path, name ∉ active)
    (once : (entered path).Nodup) : fieldSteps path ≤ depthMeasure.all d active ss := by
  induction leads generalizing active with
  | stay => exact Nat.zero_le _
  | @go ss below step path enters _ ih =>
    cases enters with
    | @field f _ hmem =>
      have deeper := ih outside once
      have member := depth_one_le d active hmem
      rw [Measure.one_field] at member
      calc fieldSteps (.field f :: path) = 1 + fieldSteps path := rfl
        _ ≤ 1 + depthMeasure.all d active below := Nat.add_le_add_left deeper 1
        _ ≤ depthMeasure.all d active ss := member
    | @inline x _ hmem =>
      have deeper := ih outside once
      have member := depth_one_le d active hmem
      rw [Measure.one_inline] at member
      calc fieldSteps (.inline x :: path) = fieldSteps path := Nat.zero_add _
        _ ≤ depthMeasure.all d active below := deeper
        _ ≤ depthMeasure.all d active ss := member
    | @spread name ds _ hmem found =>
      have here : name ∉ active := outside name List.mem_cons_self
      obtain ⟨notLater, onceLater⟩ := List.nodup_cons.mp once
      have outsideBody : ∀ n ∈ entered path, n ∉ name :: active := by
        intro n hn
        rw [List.mem_cons, not_or]
        exact ⟨fun h => notLater (h ▸ hn), outside n (List.mem_cons_of_mem _ hn)⟩
      have deeper := ih outsideBody onceLater
      have member := depth_one_le d active hmem
      rw [Measure.one_entered _ found here] at member
      calc fieldSteps (.spread name :: path) = fieldSteps path := Nat.zero_add _
        _ ≤ depthMeasure.all d (name :: active) below := deeper
        _ ≤ depthMeasure.all d active ss := member

/-! ## Some path is as deep -/

theorem Leads.weaken {s : Selection} {ss : List Selection} {path : List Step}
    (h : Leads d ss path) : Leads d (s :: ss) path := by
  cases h with
  | stay => exact .stay
  | go enters rest =>
    refine .go ?_ rest
    cases enters with
    | field h => exact .field (List.mem_cons_of_mem _ h)
    | inline h => exact .inline (List.mem_cons_of_mem _ h)
    | spread h found => exact .spread (List.mem_cons_of_mem _ h) found

/-- A path from selections inside of some fragments that enters none of these, and none twice. -/
structure Attains (d : Document) (active : Active) (ss : List Selection) (depth : Nat)
    (path : List Step) : Prop where
  leads : Leads d ss path
  outside : ∀ name ∈ entered path, name ∉ active
  once : (entered path).Nodup
  fields : fieldSteps path = depth

/-- The deeper of a first selection and the rest is attained where both are. -/
theorem exists_attains_cons {active : Active} {s : Selection} {rest : List Selection}
    (hs : ∃ path, Attains d active (s :: rest) (depthMeasure.one d active s) path)
    (hr : ∃ path, Attains d active rest (depthMeasure.all d active rest) path) :
    ∃ path, Attains d active (s :: rest) (depthMeasure.all d active (s :: rest)) path := by
  rw [Measure.all_cons]
  show ∃ path, Attains d active (s :: rest)
    (max (depthMeasure.one d active s) (depthMeasure.all d active rest)) path
  rcases Nat.le_total (depthMeasure.all d active rest) (depthMeasure.one d active s) with h | h
  · rw [Nat.max_eq_left h]
    exact hs
  · rw [Nat.max_eq_right h]
    obtain ⟨path, hp⟩ := hr
    exact ⟨path, { hp with leads := hp.leads.weaken }⟩

theorem exists_attains (d : Document) (active : Active) (ss : List Selection) :
    ∃ path, Attains d active ss (depthMeasure.all d active ss) path := by
  have nowhere (active : Active) (ss : List Selection) : Attains d active ss 0 [] :=
    ⟨.stay, by simp [entered], List.nodup_nil, rfl⟩
  induction active, ss using walk_induction d with
  | nil active =>
    rw [Measure.all_nil]
    exact ⟨[], nowhere active []⟩
  | field active f below rest ihb ihr =>
    obtain ⟨path, hp⟩ := ihb
    refine exists_attains_cons ⟨.field f :: path, ?_⟩ ihr
    rw [Measure.one_field]
    refine ⟨.go (.field List.mem_cons_self) hp.leads, hp.outside, hp.once, ?_⟩
    rw [← hp.fields]
    rfl
  | inline active x below rest ihb ihr =>
    obtain ⟨path, hp⟩ := ihb
    refine exists_attains_cons ⟨.inline x :: path, ?_⟩ ihr
    rw [Measure.one_inline]
    refine ⟨.go (.inline List.mem_cons_self) hp.leads, hp.outside, hp.once, ?_⟩
    rw [← hp.fields]
    exact Nat.zero_add _
  | undefined active name ds rest h ihr =>
    refine exists_attains_cons ⟨[], ?_⟩ ihr
    rw [Measure.one_undefined _ h]
    exact nowhere active _
  | inside active name ds rest h ihr =>
    refine exists_attains_cons ⟨[], ?_⟩ ihr
    rw [Measure.one_inside _ h]
    exact nowhere active _
  | entered active name ds rest body found h ihb ihr =>
    obtain ⟨path, hp⟩ := ihb
    refine exists_attains_cons ⟨.spread name :: path, ?_⟩ ihr
    rw [Measure.one_entered _ found h]
    have notLater : name ∉ entered path := fun hn => hp.outside name hn List.mem_cons_self
    refine ⟨.go (.spread List.mem_cons_self found) hp.leads, ?_, ?_, ?_⟩
    · intro n hn
      rcases List.mem_cons.mp hn with rfl | hn
      · exact h
      · exact fun hna => hp.outside n hn (List.mem_cons_of_mem _ hna)
    · exact List.nodup_cons.mpr ⟨notLater, hp.once⟩
    · rw [← hp.fields]
      exact Nat.zero_add _

/-! ## Depth -/

/-- The depth of a document is the greatest number of fields on one of its paths, and 0 if it has no
path, whatever its fragments are. -/
theorem depth_is_that_of_the_deepest_path (d : Document) :
    (∀ path, IsPath d path → fieldSteps path ≤ depth d) ∧
      ((∃ path, IsPath d path ∧ fieldSteps path = depth d) ∨
        (∀ path, ¬ IsPath d path) ∧ depth d = 0) := by
  constructor
  · intro path hp
    obtain ⟨o, ho, leads⟩ := hp.starts
    calc fieldSteps path ≤ depthMeasure.all d [] o.2.selections :=
          fieldSteps_le leads (fun _ _ => List.not_mem_nil) hp.once
      _ ≤ depth d := depth_operation_le ho
  · rcases exists_deepest_operation d with ⟨o, ho, deepest⟩ | ⟨none, zero⟩
    · left
      obtain ⟨path, hp⟩ := exists_attains d [] o.2.selections
      exact ⟨path, ⟨⟨o, ho, hp.leads⟩, hp.once⟩, hp.fields.trans deepest⟩
    · right
      refine ⟨fun path hp => ?_, zero⟩
      obtain ⟨o, ho, -⟩ := hp.starts
      rw [none] at ho
      cases ho

end QueryGate.Analysis
