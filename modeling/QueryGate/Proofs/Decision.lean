-- The verdict in exact numbers. The depth of a document is the length of
-- its longest path, its cost is cut off at the greatest number of 64 bits,
-- and no cost that is over a limit below that gets by because of it.
import QueryGate.Answer.Failure
import QueryGate.Proofs.Chains
import QueryGate.Proofs.ExactCost

namespace QueryGate.Analysis

open Answer GraphQL

/-! ## The longest path -/

/-- The number of fields on the longest path of a document, and 0 for one without paths: it is the
least number that no path exceeds. -/
def IsLongest (d : Document) (n : Nat) : Prop :=
  ∀ k, n ≤ k ↔ ∀ path, IsPath d path → fieldSteps path ≤ k

theorem isLongest_depth (d : Document) : IsLongest d (depth d) := by
  intro k
  constructor
  · intro h path hp
    obtain ⟨o, ho, leads⟩ := hp.starts
    calc fieldSteps path ≤ depthMeasure.all d [] o.2.selections :=
          fieldSteps_le leads (fun _ _ => List.not_mem_nil) hp.once
      _ ≤ depth d := depth_operation_le ho
      _ ≤ k := h
  · intro h
    rcases exists_deepest_operation d with ⟨o, ho, deepest⟩ | ⟨-, zero⟩
    · obtain ⟨path, hp⟩ := exists_attains d [] o.2.selections
      rw [← deepest, ← hp.fields]
      exact h path ⟨⟨o, ho, hp.leads⟩, hp.once⟩
    · rw [zero]
      exact Nat.zero_le k

/-! ## What the verdict says -/

theorem greatest_eq : Saturating.greatest = 2 ^ 64 - 1 := rfl

/-- A cost that is cut off keeps to a limit where the exact one does, and where the limit is the
greatest number there is. -/
theorem clamp_le_iff (n : Nat) (limit : UInt64) :
    Saturating.clamp n ≤ limit ↔ n ≤ limit.toNat ∨ limit.toNat = 2 ^ 64 - 1 := by
  have := limit.toNat_lt
  rw [UInt64.le_iff_toNat_le, Saturating.toNat_clamp, greatest_eq]
  omega

theorem depthErrors_eq_nil_iff (n : Nat) (limits : Limits) :
    depthErrors n limits = [] ↔ n ≤ limits.maxDepth.toNat := by
  unfold depthErrors
  by_cases h : limits.maxDepth.toNat < n
  · simp [h]
  · simp only [h, if_false, true_iff]
    omega

theorem costErrors_eq_nil_iff (c : UInt64) (limits : Limits) :
    costErrors c limits = [] ↔ c ≤ limits.maxCost := by
  unfold costErrors
  by_cases h : limits.maxCost < c
  · simp [h]
  · simp only [h, if_false, true_iff]
    exact UInt64.not_lt.mp h

theorem valid_iff (n : Nat) (c : UInt64) (limits : Limits) :
    (Verdict.ofMeasured n c limits).valid = true ↔
      n ≤ limits.maxDepth.toNat ∧ c ≤ limits.maxCost := by
  rw [← depthErrors_eq_nil_iff, ← costErrors_eq_nil_iff]
  simp [Verdict.ofMeasured]

/-- A message is put together from two fixed texts and the two numbers. -/
theorem exceeds_eq {quantity front middle : String} (measured allowed : Nat)
    (isFront : "Query " ++ quantity ++ " of " = front)
    (isMiddle : " exceeds maximum allowed " ++ quantity ++ " of " = middle) :
    exceeds quantity measured allowed = front ++ toString measured ++ middle ++ toString allowed := by
  rw [exceeds, isFront, ← isMiddle]
  simp only [String.append_assoc]

theorem exceeds_depth (measured allowed : Nat) :
    exceeds "depth" measured allowed =
      "Query depth of " ++ toString measured ++ " exceeds maximum allowed depth of " ++
        toString allowed :=
  exceeds_eq measured allowed (by decide) (by decide)

theorem exceeds_cost (measured allowed : Nat) :
    exceeds "cost" measured allowed =
      "Query cost of " ++ toString measured ++ " exceeds maximum allowed cost of " ++
        toString allowed :=
  exceeds_eq measured allowed (by decide) (by decide)

/-- No quantity over its limit is told in the words of a rejection that nothing explains. -/
theorem exceeds_ne_unexplained (a b : Nat) :
    exceeds "depth" a b ≠ unexplained ∧ exceeds "cost" a b ≠ unexplained := by
  constructor
  · intro h
    have := congrArg String.toList h
    simp [exceeds, unexplained] at this
  · intro h
    have := congrArg String.toList h
    simp [exceeds, unexplained] at this

/-- A rejection tells of the depth where that is over its limit, and else of the cost. -/
theorem rejection_message_of_invalid {n : Nat} {c : UInt64} {limits : Limits}
    (invalid : (Verdict.ofMeasured n c limits).valid = false) :
    (Rejection.ofVerdict (.ofMeasured n c limits)).message =
      if limits.maxDepth.toNat < n then exceeds "depth" n limits.maxDepth.toNat
      else exceeds "cost" c.toNat limits.maxCost.toNat := by
  unfold Rejection.ofVerdict Verdict.ofMeasured depthErrors
  by_cases hd : limits.maxDepth.toNat < n
  · simp [hd]
  · have hc : limits.maxCost < c := by
      apply UInt64.not_le.mp
      intro hc
      have valid := (valid_iff n c limits).mpr ⟨Nat.not_lt.mp hd, hc⟩
      rw [invalid] at valid
      cases valid
    simp [hd, costErrors, hc]

theorem valid_mono {n : Nat} {c : UInt64} {limits limits' : Limits}
    (depth_le : limits.maxDepth ≤ limits'.maxDepth) (cost_le : limits.maxCost ≤ limits'.maxCost)
    (valid : (Verdict.ofMeasured n c limits).valid = true) :
    (Verdict.ofMeasured n c limits').valid = true := by
  obtain ⟨hd, hc⟩ := (valid_iff n c limits).mp valid
  apply (valid_iff n c limits').mpr
  exact ⟨Nat.le_trans hd (UInt64.le_iff_toNat_le.mp depth_le), UInt64.le_trans hc cost_le⟩

/-! ## The whole of it -/

/-- A document is measured by its longest path and by the exact cost of its fields, whatever it is held
to, and decided on by these numbers: it is valid if both keep to their limits, and each one that does
not has its message, the depth first. Cutting off the cost lets nothing through but under the
greatest limit, which everything keeps to; greater limits turn nothing away that lower ones let
through; and every rejection is explained. -/
theorem the_verdict_is_the_exact_decision (m : CostModel) (d : Document) :
    ∃ longest cost : Nat,
      IsLongest d longest ∧
      (∀ f n, HasWeight m f n ↔ n = m.weight f) ∧
      cost = ((occurrences d).map m.weight).sum ∧
      ∀ limits : Limits,
        let v := m.validate d limits
        let depthMessage := "Query depth of " ++ toString longest ++
          " exceeds maximum allowed depth of " ++ toString limits.maxDepth.toNat
        let costMessage := "Query cost of " ++ toString (min cost (2 ^ 64 - 1)) ++
          " exceeds maximum allowed cost of " ++ toString limits.maxCost.toNat
        v.depth = longest ∧
        v.cost.toNat = min cost (2 ^ 64 - 1) ∧
        (v.valid = true ↔
          longest ≤ limits.maxDepth.toNat ∧
            (cost ≤ limits.maxCost.toNat ∨ limits.maxCost.toNat = 2 ^ 64 - 1)) ∧
        v.errors =
          (if limits.maxDepth.toNat < longest then [depthMessage] else []) ++
            (if limits.maxCost.toNat < min cost (2 ^ 64 - 1) then [costMessage] else []) ∧
        (∀ limits' : Limits, limits.maxDepth ≤ limits'.maxDepth →
          limits.maxCost ≤ limits'.maxCost → v.valid = true →
          (m.validate d limits').valid = true) ∧
        (v.valid = false →
          let message := (Rejection.ofVerdict v).message
          message = (if limits.maxDepth.toNat < longest then depthMessage else costMessage) ∧
            message ≠ "Query complexity exceeds the configured limits") := by
  have estimated : (m.estimate d).toNat = min (m.exactCost d) (2 ^ 64 - 1) := by
    rw [m.estimate_eq_clamp, Saturating.toNat_clamp, greatest_eq]
  refine ⟨depth d, m.exactCost d, isLongest_depth d, m.hasWeight_iff, rfl, ?_⟩
  intro limits v depthMessage costMessage
  refine ⟨rfl, estimated, ?_, ?_, fun limits' => valid_mono, ?_⟩
  · have decided := valid_iff (depth d) (m.estimate d) limits
    rw [m.estimate_eq_clamp, clamp_le_iff, ← m.estimate_eq_clamp] at decided
    exact decided
  · show depthErrors (depth d) limits ++ costErrors (m.estimate d) limits = _
    unfold depthErrors costErrors
    simp only [depthMessage, costMessage, ← exceeds_depth, ← exceeds_cost, ← estimated,
      UInt64.lt_iff_toNat_lt]
  · intro invalid message
    have told : message = _ := rejection_message_of_invalid invalid
    rw [estimated] at told
    refine ⟨by rw [told, exceeds_depth, exceeds_cost], ?_⟩
    rw [told]
    split
    · exact (exceeds_ne_unexplained _ _).1
    · exact (exceeds_ne_unexplained _ _).2

/-- Both limits are exceeded, the one of the cost by a list whose weight is far beyond the numbers of 64
bits: it is told of as the greatest of them, which is one more than the limit. -/
theorem too_deep_and_too_dear :
    let m : CostModel :=
      { connectionBaseCost := 18446744073709551615, unboundedListMultiplier := 18446744073709551615 }
    let users : Field := { name := "users" }
    let o : Operation := { type := .query, selections := [.field users [.field { name := "a" } []]] }
    let d : Document := ⟨.single o, []⟩
    let v := m.validate d { maxDepth := 1, maxCost := 18446744073709551614 }
    ((occurrences d).map m.weight).sum = 18446744073709551615 ^ 2 + 1 ∧
    v.depth = 2 ∧ v.cost = 18446744073709551615 ∧ v.valid = false ∧
    v.errors =
      ["Query depth of 2 exceeds maximum allowed depth of 1",
        "Query cost of 18446744073709551615 exceeds maximum allowed cost of 18446744073709551614"] ∧
    (Rejection.ofVerdict v).message = "Query depth of 2 exceeds maximum allowed depth of 1" ∧
    (m.validate d { maxDepth := 2, maxCost := 18446744073709551615 }).valid = true := by
  intro m users o d v
  have operation : d.operationList = [(none, o)] := rfl
  have depth_d : depth d = 2 := by
    simp [depth, Measure.document_eq, operation, o, depthMeasure]
  have met : occurrences d = [users, { name := "a" }] := by
    simp [occurrences, operation, o, fieldsInAll, fieldsIn]
  have exact_d : ((occurrences d).map m.weight).sum = 18446744073709551615 ^ 2 + 1 := by
    rw [met]
    decide
  obtain ⟨longest, cost, -, -, isCost, decided⟩ := the_verdict_is_the_exact_decision m d
  rw [exact_d] at isCost
  subst isCost
  obtain ⟨isLongest, isEstimate, valid_iff, errors, -, rejected⟩ :=
    decided { maxDepth := 1, maxCost := 18446744073709551614 }
  obtain rfl : 2 = longest := depth_d.symm.trans isLongest
  have invalid : v.valid = false := by
    rw [Bool.eq_false_iff]
    exact fun valid => absurd (valid_iff.mp valid).1 (by decide)
  have allowed := (decided { maxDepth := 2, maxCost := 18446744073709551615 }).2.2.1
  refine ⟨exact_d, isLongest, UInt64.toNat_inj.mp isEstimate, invalid, errors, ?_, ?_⟩
  · exact (rejected invalid).1
  · exact allowed.mpr (by decide)

end QueryGate.Analysis
