-- What a limit on cost says about depth. The fields of a path are met one
-- below the other when the document is written out, so all of them are
-- charged; where no field is free, a document cannot be deeper than dear.
import QueryGate.Proofs.Decision
import QueryGate.Proofs.DepthBounds

namespace QueryGate.Analysis

open GraphQL

variable {d : Document} {active : Active} {ss : List Selection}

/-! ## The fields of a path -/

def Step.field? : Step → Option Field
  | .field f => some f
  | _ => none

/-- The fields that a path enters, from the first to the deepest. -/
def fieldsOn (path : List Step) : List Field := path.filterMap Step.field?

theorem length_fieldsOn (path : List Step) : (fieldsOn path).length = fieldSteps path := by
  induction path with
  | nil => rfl
  | cons step rest ih =>
    cases step with
    | field f =>
      show (fieldsOn rest).length + 1 = 1 + fieldSteps rest
      rw [ih, Nat.add_comm]
    | inline x => exact ih.trans (Nat.zero_add _).symm
    | spread name => exact ih.trans (Nat.zero_add _).symm

/-! ## The fields that are met -/

theorem expanded_cons (s : Selection) (rest : List Selection) :
    expanded d active (s :: rest) = expanded d active [s] ++ expanded d active rest := by
  cases s with
  | field f below => simp
  | inline x below => simp
  | spread name ds =>
    rcases found : d.body? name with _ | body
    · simp [expanded_undefined found]
    · by_cases inside : name ∈ active
      · simp [expanded_inside inside]
      · simp [expanded_entered found inside]

/-- What a selection is written out as stands among what all are written out as. -/
theorem fieldsInAll_expanded_sublist (d : Document) (active : Active) {s : Selection} (h : s ∈ ss) :
    (fieldsInAll (expanded d active [s])).Sublist (fieldsInAll (expanded d active ss)) := by
  induction ss with
  | nil => cases h
  | cons s' rest ih =>
    rw [expanded_cons s' rest, fieldsInAll_append]
    rcases List.mem_cons.mp h with rfl | h
    · exact List.sublist_append_left _ _
    · exact (ih h).trans (List.sublist_append_right _ _)

/-- The fields of a path that enters each other fragment at most once are all met, in their order. -/
theorem fieldsOn_sublist {path : List Step} (leads : Leads d ss path)
    (outside : ∀ name ∈ entered path, name ∉ active) (once : (entered path).Nodup) :
    (fieldsOn path).Sublist (fieldsInAll (expanded d active ss)) := by
  induction leads generalizing active with
  | stay => exact List.nil_sublist _
  | @go ss below step path enters _ ih =>
    cases enters with
    | @field f _ hmem =>
      have deeper := ih outside once
      have member := fieldsInAll_expanded_sublist d active hmem
      rw [expanded_field, expanded_nil, fieldsInAll, fieldsIn, fieldsInAll, List.append_nil] at member
      exact (deeper.cons_cons f).trans member
    | @inline x _ hmem =>
      have deeper := ih outside once
      have member := fieldsInAll_expanded_sublist d active hmem
      rw [expanded_inline, expanded_nil, fieldsInAll, fieldsIn, fieldsInAll, List.append_nil] at member
      exact deeper.trans member
    | @spread name ds _ hmem found =>
      have here : name ∉ active := outside name List.mem_cons_self
      obtain ⟨notLater, onceLater⟩ := List.nodup_cons.mp once
      have outsideBody : ∀ n ∈ entered path, n ∉ name :: active := by
        intro n hn
        rw [List.mem_cons, not_or]
        exact ⟨fun h => notLater (h ▸ hn), outside n (List.mem_cons_of_mem _ hn)⟩
      have deeper := ih outsideBody onceLater
      have member := fieldsInAll_expanded_sublist d active hmem
      rw [expanded_entered found here, expanded_nil, List.append_nil] at member
      exact deeper.trans member

theorem IsPath.fieldsOn_sublist {path : List Step} (h : IsPath d path) :
    (fieldsOn path).Sublist (occurrences d) := by
  obtain ⟨o, ho, leads⟩ := h.starts
  have met := Analysis.fieldsOn_sublist leads (fun _ _ => List.not_mem_nil) h.once
  exact met.trans (List.sublist_flatten_of_mem (List.mem_map_of_mem ho))

/-- Some field that is met for every level of the depth. -/
theorem depth_le_length_occurrences (d : Document) : depth d ≤ (occurrences d).length := by
  rcases exists_deepest_operation d with ⟨o, ho, deepest⟩ | ⟨-, zero⟩
  · obtain ⟨path, hp⟩ := exists_attains d [] o.2.selections
    have isPath : IsPath d path := ⟨⟨o, ho, hp.leads⟩, hp.once⟩
    rw [← deepest, ← hp.fields, ← length_fieldsOn]
    exact isPath.fieldsOn_sublist.length_le
  · rw [zero]
    exact Nat.zero_le _

/-! ## The fields that are written -/

/-- The fields of a fragment are written in the document. -/
theorem mem_writtenFields_of_body? {name : String} {body : List Selection}
    (found : d.body? name = some body) {f : Field} (h : f ∈ fieldsInAll body) :
    f ∈ writtenFields d := by
  obtain ⟨g, hg, rfl⟩ := exists_fragment_of_body?_eq_some found
  refine List.mem_flatMap.mpr ⟨g.selections, (bodiesByName_perm d).mem_iff.mpr ?_, h⟩
  exact List.mem_append_right _ (List.mem_map_of_mem (f := (·.2.selections)) hg)

/-- What is met is written, where it is met or in a fragment. -/
theorem mem_of_mem_expanded (d : Document) (active : Active) (ss : List Selection) :
    ∀ f ∈ fieldsInAll (expanded d active ss), f ∈ fieldsInAll ss ∨ f ∈ writtenFields d := by
  induction active, ss using walk_induction d with
  | nil active => simp [fieldsInAll]
  | field active f below rest ihb ihr =>
    simp only [expanded_field, fieldsInAll, fieldsIn, List.cons_append, List.mem_cons,
      List.mem_append]
    grind
  | inline active x below rest ihb ihr =>
    simp only [expanded_inline, fieldsInAll, fieldsIn, List.mem_append]
    grind
  | undefined active name ds rest h ihr =>
    rw [expanded_undefined h]
    exact ihr
  | inside active name ds rest h ihr =>
    rw [expanded_inside h]
    exact ihr
  | entered active name ds rest body found h ihb ihr =>
    rw [expanded_entered found h, fieldsInAll_append]
    intro f hf
    rcases List.mem_append.mp hf with hf | hf
    · right
      rcases ihb f hf with here | written
      · exact mem_writtenFields_of_body? found here
      · exact written
    · exact ihr f hf

theorem mem_writtenFields_of_mem_occurrences {f : Field} (h : f ∈ occurrences d) :
    f ∈ writtenFields d := by
  obtain ⟨o, ho, hf⟩ := List.mem_flatMap.mp h
  rcases mem_of_mem_expanded d [] o.2.selections f hf with here | written
  · refine List.mem_flatMap.mpr ⟨o.2.selections, (bodiesByName_perm d).mem_iff.mpr ?_, here⟩
    exact List.mem_append_left _ (List.mem_map_of_mem (f := (·.2.selections)) ho)
  · exact written

/-! ## What they cost -/

namespace CostModel

variable (m : CostModel)

theorem one_le_weight {f : Field} (h : 1 ≤ m.fieldCost f) : 1 ≤ m.weight f := by
  rw [← m.clamp_weight f, UInt64.le_iff_toNat_le, Saturating.toNat_clamp] at h
  exact h.trans (Nat.min_le_left _ _)

/-- Where no written field is free, the exact cost is at least the number of fields that are met. -/
theorem length_occurrences_le (charged : ∀ f ∈ writtenFields d, 1 ≤ m.fieldCost f) :
    (occurrences d).length ≤ m.exactCost d := by
  have each : ∀ f ∈ occurrences d, 1 ≤ m.weight f := fun f hf =>
    m.one_le_weight (charged f (mem_writtenFields_of_mem_occurrences hf))
  have sum := List.card_nsmul_le_sum ((occurrences d).map m.weight) 1 (List.forall_mem_map.mpr each)
  simpa [exactCost] using sum

/-- The fields of every path are charged, each as often as the path enters it. So where no field that
is written is free, the cost of a document is at least its depth, as far as 64 bits go, and a limit on
cost below the greatest is a limit on depth as well. -/
theorem a_limit_on_cost_limits_depth (charged : ∀ f ∈ writtenFields d, 1 ≤ m.fieldCost f) :
    (∀ path, IsPath d path → (fieldsOn path).Sublist (occurrences d)) ∧
    (m.estimate d).toNat = min ((occurrences d).map m.weight).sum (2 ^ 64 - 1) ∧
    min (depth d) (2 ^ 64 - 1) ≤ (m.estimate d).toNat ∧
    ∀ limits : Limits, limits.maxCost.toNat < 2 ^ 64 - 1 →
      (m.validate d limits).valid = true → depth d ≤ limits.maxCost.toNat := by
  have estimated : (m.estimate d).toNat = min (m.exactCost d) (2 ^ 64 - 1) := by
    rw [m.estimate_eq_clamp, Saturating.toNat_clamp, greatest_eq]
  have dearer : depth d ≤ m.exactCost d :=
    (depth_le_length_occurrences d).trans (m.length_occurrences_le charged)
  have least : min (depth d) (2 ^ 64 - 1) ≤ (m.estimate d).toNat := by
    rw [estimated]
    exact min_le_min_right _ dearer
  refine ⟨fun path h => h.fieldsOn_sublist, estimated, least, fun limits below valid => ?_⟩
  have within : (m.estimate d).toNat ≤ limits.maxCost.toNat :=
    UInt64.le_iff_toNat_le.mp ((valid_iff _ _ _).mp valid).2
  omega

/-- A list without a stated page, and below it a fragment in a circle. As cheap as fields can be, the
document costs as much as it is deep. -/
theorem as_dear_as_deep :
    let m : CostModel := { connectionBaseCost := 1, unboundedListMultiplier := 1 }
    let users : Field := { name := "users" }
    let o : Operation := { type := .query, selections := [.field users [.spread "A" []]] }
    let a : Fragment :=
      { selections := [.field { name := "a" } [.spread "A" [], .spread "Z" []]] }
    let d : Document := ⟨.single o, [("A", a)]⟩
    let limits : Limits := { maxCost := 2 }
    (∀ f ∈ writtenFields d, 1 ≤ m.fieldCost f) ∧ (m.estimate d).toNat = 2 ∧ depth d = 2 ∧
      (m.validate d limits).valid = true ∧ depth d ≤ limits.maxCost.toNat := by
  intro m users o a d limits
  have operation : d.operationList = [(none, o)] := rfl
  have found : d.body? "A" = some a.selections := rfl
  have missing : d.body? "Z" = none := rfl
  have charged : ∀ f ∈ writtenFields d, 1 ≤ m.fieldCost f := by
    have written : writtenFields d = [users, { name := "a" }] := by
      simp [writtenFields, bodiesByName, operation, d, o, a, fieldsInAll, fieldsIn]
    rw [written]
    decide
  have depth_d : depth d = 2 := by
    simp [depth, Measure.document_eq, operation, o, a, Measure.one_entered _ found,
      Measure.one_undefined _ missing, Measure.one_inside, depthMeasure]
  have met : occurrences d = [users, { name := "a" }] := by
    simp [occurrences, operation, o, a, expanded_entered found, expanded_inside,
      expanded_undefined missing, fieldsInAll, fieldsIn]
  obtain ⟨-, estimated, -, admitted⟩ := m.a_limit_on_cost_limits_depth charged
  have cost : (m.estimate d).toNat = 2 := by
    rw [estimated, met]
    decide
  have valid : (m.validate d limits).valid = true := by
    refine (valid_iff _ _ _).mpr ⟨?_, ?_⟩
    · rw [depth_d]
      decide
    · rw [UInt64.le_iff_toNat_le, cost]
      decide
  exact ⟨charged, cost, depth_d, valid, admitted limits (by decide) valid⟩

end CostModel

end QueryGate.Analysis
