-- Adding to a document. More selections, more operations and definitions
-- that were missing make no document less deep and none cheaper, whatever
-- circles come about by it: the guard stops a walk where it stopped before,
-- and what it comes to newly only adds.
import Mathlib.Algebra.Order.BigOperators.Group.List
import Mathlib.Algebra.Order.Group.Nat
import QueryGate.Proofs.Decision
import QueryGate.Proofs.Factoring
import QueryGate.Proofs.Replacing

namespace QueryGate.Analysis

open GraphQL

variable {d e : Document}

/-! ## What is added -/

/-- One addition to a document: selections anywhere in an operation or a fragment, also below a field
that had none; one more operation with a name; or the definition of a fragment that had none. -/
inductive Adds : Document → Document → Prop where
  | selections (gap : DocumentGap) (part : List Selection) : Adds (gap.fill []) (gap.fill part)
  | operation (before after : List (String × Operation)) (name : String) (o : Operation)
    (fragments : List (String × Fragment)) :
    Adds ⟨.named (before ++ after), fragments⟩ ⟨.named (before ++ (name, o) :: after), fragments⟩
  | fragment {name : String} {f : Fragment} {d e : Document} :
    d.body? name = none → Extends name f d e → Adds d e

/-- One document comes from another one by any number of additions. -/
def Grown : Document → Document → Prop := Relation.ReflTransGen Adds

/-- The weights of one model are no higher than those of another, and the same arguments give a page
size in both. -/
structure CostModel.AtMost (m m' : CostModel) : Prop where
  baseCost : m.connectionBaseCost ≤ m'.connectionBaseCost
  multiplier : m.unboundedListMultiplier ≤ m'.unboundedListMultiplier
  arguments : m.paginationArguments = m'.paginationArguments

/-! ## What is left out -/

section

variable (keep : Selection → Bool)

mutual

/-- A selection without those below it that are not kept. -/
def kept : Selection → Selection
  | .field f below => .field f (keptAll below)
  | .spread name directives => .spread name directives
  | .inline x below => .inline x (keptAll below)

/-- The selections that are kept, and in them again those that are kept. -/
def keptAll : List Selection → List Selection
  | [] => []
  | s :: rest => if keep s then kept s :: keptAll rest else keptAll rest

end

/-- A document without the selections that are not kept, wherever they stand. -/
def keeping (d : Document) : Document where
  operations := mapSelections (keptAll keep) d.operations
  fragments := d.fragments.map fun (name, f) =>
    (name, { f with selections := keptAll keep f.selections })

end

/-! ## Measures that more selections do not lower -/

/-- A measure that grows with its parts, and gives the least for no part. -/
structure Measure.Growing (m : Measure Nat) : Prop where
  mono : Measure.Related (· ≤ ·) m m
  lawful : m.Lawful
  zero : m.nothing = 0

namespace Measure.Growing

variable {m : Measure Nat} (growing : m.Growing)

include growing

theorem keeps : m.Keeps (· ≤ ·) where
  toRelated := growing.mono
  refl := Nat.le_refl
  trans := fun _ _ _ => Nat.le_trans

theorem nothing_le (a : Nat) : m.nothing ≤ a := by
  rw [growing.zero]
  exact Nat.zero_le a

theorem le_beside (a b : Nat) : b ≤ m.beside a b :=
  calc b = m.beside m.nothing b := (growing.lawful.nothing_beside b).symm
    _ ≤ m.beside a b := growing.mono.beside _ _ _ _ (growing.nothing_le a) (Nat.le_refl b)

theorem foldr_le_of_sublist {as bs : List Nat} (h : as.Sublist bs) :
    as.foldr m.beside m.nothing ≤ bs.foldr m.beside m.nothing := by
  induction h with
  | slnil => exact Nat.le_refl _
  | cons b _ ih => exact Nat.le_trans ih (growing.le_beside b _)
  | cons_cons a _ ih => exact growing.mono.beside _ _ _ _ (Nat.le_refl a) ih

/-- A document with some of the operations and the same fragments measures no more. -/
theorem document_le_of_sublist (h : d.operationList.Sublist e.operationList)
    (same : d.fragments = e.fragments) : m.document d ≤ m.document e := by
  have all (active : Active) (ss : List Selection) : m.all d active ss = m.all e active ss := by
    refine m.all_congr (fun name => ?_) active ss
    unfold Document.body?
    rw [same]
  simp only [m.document_eq, all]
  exact growing.foldr_le_of_sublist (h.map _)

/-- The definition of a fragment that had none does not lower what is measured: where it was spread,
nothing was measured. -/
theorem document_le_of_defined {name : String} {f : Fragment} (undefined : d.body? name = none)
    (extended : Extends name f d e) : m.document d ≤ m.document e := by
  have all (active : Active) (ss : List Selection) : m.all d active ss ≤ m.all e active ss := by
    refine growing.keeps.all_of_bodies (fun name' body found => ?_) (fun name' missing => ?_) active
      ss
    · have ne : name' ≠ name := fun same => by simp [same, undefined] at found
      exact ⟨body, (extended.body?_of_ne ne).trans found, growing.keeps.replaceable_refl body⟩
    · by_cases same : name' = name
      · exact .inr growing.nothing_le
      · exact .inl ((extended.body?_of_ne same).trans missing)
  rw [m.document_eq, m.document_eq, extended.operationList_eq]
  exact growing.keeps.operations (List.forall₂_same.mpr fun o _ => all [] o.2.selections)

/-- No addition lowers what is measured. -/
theorem document_le_of_adds (adds : Adds d e) : m.document d ≤ m.document e := by
  cases adds with
  | selections gap part =>
    refine growing.keeps.document_fill growing.lawful gap fun active => ?_
    rw [m.all_nil]
    exact growing.nothing_le _
  | operation before after name o fragments =>
    refine growing.document_le_of_sublist ?_ rfl
    exact ((List.sublist_cons_self (name, o) after).append_left before).map _
  | fragment undefined extended => exact growing.document_le_of_defined undefined extended

theorem document_le_of_grown (grown : Grown d e) : m.document d ≤ m.document e := by
  induction grown with
  | refl => exact Nat.le_refl _
  | tail _ adds ih => exact Nat.le_trans ih (growing.document_le_of_adds adds)

mutual

theorem one_kept_le (keep : Selection → Bool) (active : Active) :
    (s : Selection) → m.one d active (kept keep s) ≤ m.one d active s
  | .field f below => by
    rw [kept, m.one_field, m.one_field]
    exact growing.mono.field f _ _ (all_keptAll_le keep active below)
  | .spread name ds => Nat.le_of_eq (by rw [kept])
  | .inline x below => by
    rw [kept, m.one_inline, m.one_inline]
    exact all_keptAll_le keep active below

theorem all_keptAll_le (keep : Selection → Bool) (active : Active) :
    (ss : List Selection) → m.all d active (keptAll keep ss) ≤ m.all d active ss
  | [] => Nat.le_of_eq (by rw [keptAll])
  | s :: rest => by
    have later := all_keptAll_le keep active rest
    rw [keptAll, m.all_cons]
    split
    · rw [m.all_cons]
      exact growing.mono.beside _ _ _ _ (one_kept_le keep active s) later
    · exact Nat.le_trans later (growing.le_beside _ _)

end

/-- Leaving out selections does not raise what is measured. -/
theorem document_keeping_le (keep : Selection → Bool) (d : Document) :
    m.document (keeping keep d) ≤ m.document d := by
  apply growing.keeps.document_of_counterparts
  apply counterparts_of_forall₂
  · unfold Document.operationList keeping
    rw [mapSelections_toList, List.forall₂_map_left_iff, List.forall₂_same]
    exact fun o _ active => growing.all_keptAll_le keep active o.2.selections
  · unfold keeping
    rw [List.forall₂_map_left_iff, List.forall₂_same]
    exact fun f _ => ⟨rfl, fun active => growing.all_keptAll_le keep active f.2.selections⟩

end Measure.Growing

/-- A document that no growing measure measures higher than another one is no deeper, and costs no
more. -/
theorem measured_le_of_growing (h : ∀ m : Measure Nat, m.Growing → m.document d ≤ m.document e) :
    depth d ≤ depth e ∧ ∀ m : CostModel, m.estimate d ≤ m.estimate e :=
  measured_le_of_document_le fun m mono lawful zero => h m ⟨mono, lawful, zero⟩

/-! ## Higher weights -/

namespace CostModel

variable {m m' : CostModel}

theorem AtMost.weight_le (h : m.AtMost m') (f : Field) : m.weight f ≤ m'.weight f := by
  have same : m.pageSize? f = m'.pageSize? f := by
    unfold pageSize?
    rw [h.arguments]
  have pageSize_le : m.pageSize f ≤ m'.pageSize f := by
    unfold pageSize
    rw [same]
    rcases m'.pageSize? f with _ | n
    · exact UInt64.le_iff_toNat_le.mp h.multiplier
    · exact Nat.le_refl _
  unfold weight
  split
  · exact Nat.mul_le_mul (UInt64.le_iff_toNat_le.mp h.baseCost) pageSize_le
  · exact Nat.le_refl 1

theorem AtMost.estimate_le (h : m.AtMost m') (d : Document) : m.estimate d ≤ m'.estimate d := by
  rw [m.estimate_eq_clamp, m'.estimate_eq_clamp]
  exact clamp_mono (List.sum_le_sum fun f _ => h.weight_le f)

end CostModel

/-! ## The whole of it -/

theorem valid_of_le {m : CostModel} {limits : Limits} (deeper : depth d ≤ depth e)
    (dearer : m.estimate d ≤ m.estimate e) (valid : (m.validate e limits).valid = true) :
    (m.validate d limits).valid = true := by
  obtain ⟨hd, hc⟩ := (valid_iff _ _ limits).mp valid
  exact (valid_iff _ _ limits).mpr ⟨Nat.le_trans deeper hd, UInt64.le_trans dearer hc⟩

/-- Nothing that is added to a document makes it less deep, or cheaper, and higher weights do not make
it cheaper either. So a document that keeps to its limits keeps to them without what was added, with
one of its operations alone, and without any of its selections. -/
theorem adding_lowers_no_measurement :
    (∀ d e, Grown d e →
      depth d ≤ depth e ∧ ∀ m m' : CostModel, m.AtMost m' → m.estimate d ≤ m'.estimate e) ∧
    (∀ (e : Document) (m : CostModel) (limits : Limits), (m.validate e limits).valid = true →
      (∀ d, Grown d e → (m.validate d limits).valid = true) ∧
      (∀ o ∈ e.operationList, ∀ d : Document, d.operationList = [o] → d.fragments = e.fragments →
        (m.validate d limits).valid = true) ∧
      (∀ keep, (m.validate (keeping keep e) limits).valid = true)) := by
  refine ⟨fun d e grown => ?_, fun e m limits valid => ⟨fun d grown => ?_, ?_, fun keep => ?_⟩⟩
  · have le := measured_le_of_growing fun m growing => growing.document_le_of_grown grown
    exact ⟨le.1, fun m m' h => UInt64.le_trans (le.2 m) (h.estimate_le e)⟩
  · have le := measured_le_of_growing fun m growing => growing.document_le_of_grown grown
    exact valid_of_le le.1 (le.2 m) valid
  · intro o ho d alone same
    have sublist : d.operationList.Sublist e.operationList := by
      rw [alone]
      exact List.singleton_sublist.mpr ho
    have le := measured_le_of_growing fun m growing => growing.document_le_of_sublist sublist same
    exact valid_of_le le.1 (le.2 m) valid
  · have le := measured_le_of_growing fun m growing => growing.document_keeping_le keep e
    exact valid_of_le le.1 (le.2 m) valid

/-- A fragment that spreads one that has no definition, and then the definition, which leads back to it:
the document becomes deeper and dearer, the circle it is in now takes nothing away, and what it
keeps to was kept to before. -/
theorem deeper_by_a_circle :
    let f : Field := { name := "f" }
    let users : Field := { name := "users" }
    let o : Operation := { type := .query, selections := [.spread "A" []] }
    let b : Fragment := { selections := [.field users [.spread "A" []]] }
    let gap : DocumentGap := .fragment (.single o) [] "A" { selections := [] } (.field f (.here []) []) []
    let d := gap.fill []
    let e : Document := ⟨.single o, [("A", { selections := [.field f [.spread "B" []]] }), ("B", b)]⟩
    let low : CostModel := {}
    let high : CostModel := { connectionBaseCost := 20 }
    let limits : Limits := { maxDepth := 2 }
    Grown d e ∧ low.AtMost high ∧
    (depth d = 1 ∧ depth e = 2 ∧ depth d ≤ depth e ∧ low.estimate d ≤ high.estimate e) ∧
    (low.validate e limits).valid = true ∧ (low.validate d limits).valid = true ∧
      (low.validate (keeping (fun _ => false) e) limits).valid = true := by
  intro f users o b gap d e low high limits
  obtain ⟨lowered, kept_to⟩ := adding_lowers_no_measurement
  have grown : Grown d e := by
    have spread : Adds d (gap.fill [.spread "B" []]) := .selections gap _
    have defined : Adds (gap.fill [.spread "B" []]) e :=
      .fragment rfl ⟨rfl, [("A", { selections := [.field f [.spread "B" []]] })], [], rfl, rfl⟩
    exact .tail (.single spread) defined
  have atMost : low.AtMost high := ⟨by decide, by decide, rfl⟩
  have operation : d.operationList = [(none, o)] := rfl
  have operation' : e.operationList = [(none, o)] := rfl
  have found : d.body? "A" = some [.field f []] := rfl
  have foundA : e.body? "A" = some [.field f [.spread "B" []]] := rfl
  have foundB : e.body? "B" = some [.field users [.spread "A" []]] := rfl
  have depth_d : depth d = 1 := by
    simp [depth, Measure.document_eq, operation, o, Measure.one_entered _ found, depthMeasure]
  have depth_e : depth e = 2 := by
    simp [depth, Measure.document_eq, operation', o, Measure.one_entered _ foundA,
      Measure.one_entered _ foundB, Measure.one_inside, depthMeasure]
  have cost_e : low.estimate e = 101 := by
    simp [CostModel.estimate, Measure.document_eq, operation', o, Measure.one_entered _ foundA,
      Measure.one_entered _ foundB, Measure.one_inside, CostModel.costMeasure]
    decide
  have valid : (low.validate e limits).valid = true := by
    unfold CostModel.validate
    rw [depth_e, cost_e]
    decide
  obtain ⟨before, -, fewer⟩ := kept_to e low limits valid
  refine ⟨grown, atMost, ⟨depth_d, depth_e, (lowered d e grown).1, ?_⟩, valid, before d grown, fewer _⟩
  exact (lowered d e grown).2 low high atMost

end QueryGate.Analysis
