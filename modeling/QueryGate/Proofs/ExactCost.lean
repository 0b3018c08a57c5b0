-- The estimate in exact numbers. Sums and products that stop at the
-- greatest number of 64 bits, however they are nested, give the exact sum
-- of the weights of all fields that are met, cut off once at the end.
import QueryGate.Analysis.Cost
import QueryGate.Proofs.Expansion

namespace QueryGate.Analysis

open GraphQL

/-! ## What a field weighs -/

/-- The name ends in `s` or in `Connection`. -/
def SoundsLikeList (name : String) : Prop :=
  ∃ stem, name = stem ++ "s" ∨ name = stem ++ "Connection"

/-- The first argument of that name is a literal that is a whole number of 64 bits, namely `n`. -/
def States (f : Field) (argument : String) (n : Nat) : Prop :=
  ∃ before after, f.arguments = before ++ (argument, .number (.int n)) :: after ∧
    (∀ a ∈ before, a.1 ≠ argument) ∧ n < 2 ^ 64

/-- The page size of a field: what the first of the configured arguments that states one states, and
the multiplier of unbounded lists where none does. -/
inductive HasPageSize (m : CostModel) (f : Field) : Nat → Prop where
  | stated {higher lower : List String} {argument : String} {n : Nat} :
    m.paginationArguments = higher ++ argument :: lower →
    (∀ a ∈ higher, ∀ k, ¬ States f a k) → States f argument n → HasPageSize m f n
  | unbounded : (∀ a ∈ m.paginationArguments, ∀ k, ¬ States f a k) →
    HasPageSize m f m.unboundedListMultiplier.toNat

/-- What a field weighs alone. -/
inductive HasWeight (m : CostModel) (f : Field) : Nat → Prop where
  | plain : ¬ SoundsLikeList f.name → HasWeight m f 1
  | list {n : Nat} : SoundsLikeList f.name → HasPageSize m f n →
    HasWeight m f (m.connectionBaseCost.toNat * n)

/-! ## The weight as a function -/

theorem ends_in_iff (name tail : String) :
    tail.toList.isSuffixOf name.toList = true ↔ ∃ stem, name = stem ++ tail := by
  rw [List.isSuffixOf_iff_suffix]
  constructor
  · rintro ⟨stem, h⟩
    refine ⟨String.ofList stem, String.toList_inj.mp ?_⟩
    rw [String.toList_append, String.toList_ofList, h]
  · rintro ⟨stem, rfl⟩
    exact ⟨stem.toList, by rw [String.toList_append]⟩

theorem isListLike_iff (name : String) : isListLike name = true ↔ SoundsLikeList name := by
  have hs := ends_in_iff name "s"
  have hc := ends_in_iff name "Connection"
  simp only [isListLike, Bool.or_eq_true, SoundsLikeList, exists_or]
  rw [← hs, ← hc]
  rfl

theorem statedSize?_eq_some_iff (v : Value) (n : UInt64) :
    CostModel.statedSize? v = some n ↔ v = .number (.int n.toNat) := by
  have hn := n.toNat_lt
  cases v with
  | number k =>
    cases k with
    | int i =>
      simp only [CostModel.statedSize?, Number.unsigned?, Value.number.injEq, Number.int.injEq,
        Option.ite_none_right_eq_some, Option.some.injEq, UInt64.size]
      constructor
      · rintro ⟨h, rfl⟩
        rw [UInt64.toNat_ofNat']
        omega
      · rintro rfl
        refine ⟨by omega, UInt64.toNat_inj.mp ?_⟩
        rw [UInt64.toNat_ofNat']
        omega
    | double x => simp [CostModel.statedSize?, Number.unsigned?]
  | _ => simp [CostModel.statedSize?]

/-- What an argument states, with and without looking for its first occurrence. -/
theorem states_iff (f : Field) (argument : String) (n : Nat) :
    States f argument n ↔
      ∃ k : UInt64, k.toNat = n ∧
        (f.argument? argument).bind CostModel.statedSize? = some k := by
  simp only [States, Field.argument?, Option.bind_eq_some_iff, statedSize?_eq_some_iff,
    exists_eq_right, List.lookup_eq_some_iff, bne_iff_ne]
  constructor
  · rintro ⟨before, after, h, hb, hn⟩
    have hk : (UInt64.ofNat n).toNat = n := by rw [UInt64.toNat_ofNat']; omega
    exact ⟨UInt64.ofNat n, hk, before, after, by rw [hk]; exact h, fun a ha => (hb a ha).symm⟩
  · rintro ⟨k, rfl, before, after, h, hb⟩
    exact ⟨before, after, h, fun a ha => (hb a ha).symm, k.toNat_lt⟩

theorem states_none_iff (f : Field) (argument : String) :
    (∀ n, ¬ States f argument n) ↔
      (f.argument? argument).bind CostModel.statedSize? = none := by
  rw [Option.eq_none_iff_forall_ne_some]
  constructor
  · intro h k hk
    exact h k.toNat ((states_iff f argument _).mpr ⟨k, rfl, hk⟩)
  · intro h n hn
    obtain ⟨k, -, hk⟩ := (states_iff f argument n).mp hn
    exact h k hk

namespace CostModel

variable (m : CostModel)

/-- The page size that a field is charged for. -/
def pageSize (f : Field) : Nat := ((m.pageSize? f).getD m.unboundedListMultiplier).toNat

/-- What a field weighs alone, in numbers without an end. -/
def weight (f : Field) : Nat :=
  if isListLike f.name then m.connectionBaseCost.toNat * m.pageSize f else 1

theorem hasPageSize_iff (f : Field) (n : Nat) : HasPageSize m f n ↔ n = m.pageSize f := by
  have eq_of_size (k : Option UInt64) (h : m.pageSize? f = k) :
      m.pageSize f = (k.getD m.unboundedListMultiplier).toNat := by rw [pageSize, h]
  constructor
  · intro h
    cases h with
    | @stated higher lower a _ hm hh ha =>
      obtain ⟨k, rfl, hk⟩ := (states_iff f a n).mp ha
      have found : m.pageSize? f = some k :=
        List.findSome?_eq_some_iff.mpr
          ⟨higher, a, lower, hm, hk, fun b hb => (states_none_iff f b).mp (hh b hb)⟩
      rw [eq_of_size _ found, Option.getD_some]
    | unbounded h =>
      have none_stated : m.pageSize? f = none :=
        List.findSome?_eq_none_iff.mpr fun a ha => (states_none_iff f a).mp (h a ha)
      rw [eq_of_size _ none_stated, Option.getD_none]
  · rintro rfl
    rcases h : m.pageSize? f with _ | k
    · rw [eq_of_size _ h, Option.getD_none]
      rw [pageSize?, List.findSome?_eq_none_iff] at h
      exact .unbounded fun a ha => (states_none_iff f a).mpr (h a ha)
    · rw [eq_of_size _ h, Option.getD_some]
      rw [pageSize?, List.findSome?_eq_some_iff] at h
      obtain ⟨higher, a, lower, hm, ha, hh⟩ := h
      have above : ∀ b ∈ higher, ∀ n, ¬ States f b n :=
        fun b hb => (states_none_iff f b).mpr (hh b hb)
      exact .stated hm above ((states_iff f a _).mpr ⟨k, rfl, ha⟩)

theorem hasWeight_iff (f : Field) (n : Nat) : HasWeight m f n ↔ n = m.weight f := by
  rw [weight]
  by_cases hl : isListLike f.name = true
  · have sounds := (isListLike_iff f.name).mp hl
    rw [if_pos hl]
    constructor
    · intro h
      cases h with
      | plain hp => exact absurd sounds hp
      | list _ hn => rw [(m.hasPageSize_iff f _).mp hn]
    · rintro rfl
      exact .list sounds ((m.hasPageSize_iff f _).mpr rfl)
  · have sounds := mt (isListLike_iff f.name).mpr hl
    rw [if_neg hl]
    constructor
    · intro h
      cases h with
      | plain _ => rfl
      | list hs _ => exact absurd hs sounds
    · rintro rfl
      exact .plain sounds

end CostModel

/-! ## Cutting off once -/

theorem clamp_add (a b : Nat) :
    Saturating.clamp (a + b) = Saturating.add (Saturating.clamp a) (Saturating.clamp b) := by
  apply UInt64.toNat_inj.mp
  rw [Saturating.toNat_add, Saturating.toNat_clamp, Saturating.toNat_clamp,
    Saturating.toNat_clamp]
  omega

theorem clamp_toNat (a : UInt64) : Saturating.clamp a.toNat = a := by
  have small : a.toNat ≤ Saturating.greatest := Nat.le_pred_of_lt a.toNat_lt
  apply UInt64.toNat_inj.mp
  rw [Saturating.toNat_clamp, Nat.min_eq_left small]

/-- Cutting off at each step gives what cutting off once gives. -/
theorem foldr_add_eq_clamp (as : List UInt64) :
    as.foldr Saturating.add 0 = Saturating.clamp (as.map UInt64.toNat).sum := by
  induction as with
  | nil => decide
  | cons a as ih => rw [List.foldr_cons, List.map_cons, List.sum_cons, clamp_add, clamp_toNat, ih]

theorem clamp_mono {a b : Nat} (h : a ≤ b) : Saturating.clamp a ≤ Saturating.clamp b := by
  rw [UInt64.le_iff_toNat_le, Saturating.toNat_clamp, Saturating.toNat_clamp]
  omega

namespace CostModel

variable (m : CostModel)

theorem clamp_weight (f : Field) : Saturating.clamp (m.weight f) = m.fieldCost f := by
  rw [weight, fieldCost]
  split
  · rfl
  · decide

/-- Cutting off goes through sums that are cut off themselves, so it can wait until the end. -/
theorem clamp_carries : Measure.Carries Saturating.clamp (weighing m.weight) m.costMeasure where
  nothing := show Saturating.clamp 0 = 0 by decide
  field := fun f below => by
    show Saturating.clamp (m.weight f + below) =
      Saturating.add (m.fieldCost f) (Saturating.clamp below)
    rw [← m.clamp_weight f, clamp_add]
  beside := clamp_add

/-- The cost of a document in numbers without an end: the weights of all fields that are met when
its fragments are written out. -/
def exactCost (d : Document) : Nat := ((occurrences d).map m.weight).sum

theorem estimate_eq_clamp (d : Document) : m.estimate d = Saturating.clamp (m.exactCost d) := by
  rw [exactCost, ← weighing_document, m.clamp_carries.document d]
  rfl

/-- The estimate of a document, whatever its fragments and its weights, is the exact sum of what the
fields weigh that are met when its fragments are written out, or the greatest number of 64 bits
where the sum is more than that. -/
theorem the_estimate_is_the_exact_cost_cut_off_once (d : Document) :
    (∀ f n, HasWeight m f n ↔ n = m.weight f) ∧
      (m.estimate d).toNat = min ((occurrences d).map m.weight).sum (2 ^ 64 - 1) := by
  refine ⟨m.hasWeight_iff, ?_⟩
  rw [estimate_eq_clamp, Saturating.toNat_clamp]
  rfl

end CostModel

end QueryGate.Analysis
