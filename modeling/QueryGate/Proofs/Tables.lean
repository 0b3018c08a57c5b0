-- Tables: lists of names with what each stands for. Where no name stands
-- twice, a look-up does not see the order.
import Mathlib.Data.List.Perm.Basic

namespace QueryGate

variable {κ : Type} [BEq κ] [LawfulBEq κ] {β γ : Type}

theorem lookup_eq_none_of_notMem {l : List (κ × β)} {k : κ} (absent : k ∉ l.map (·.1)) :
    l.lookup k = none := by
  refine List.lookup_eq_none_iff.mpr fun p hp => bne_iff_ne.mpr ?_
  rintro rfl
  exact absent (List.mem_map_of_mem hp)

/-- What is added under a new name is found there. -/
theorem lookup_append_of_notMem {l : List (κ × β)} {k : κ} (absent : k ∉ l.map (·.1)) (b : β) :
    (l ++ [(k, b)]).lookup k = some b := by
  rw [List.lookup_append, lookup_eq_none_of_notMem absent, Option.none_or]
  simp

/-- Where no name stands twice, what is found under a name is what stands there. -/
theorem lookup_eq_some_iff_mem {l : List (κ × β)} (nodup : (l.map (·.1)).Nodup) {k : κ} {b : β} :
    l.lookup k = some b ↔ (k, b) ∈ l := by
  rw [List.lookup_eq_some_iff]
  constructor
  · rintro ⟨before, after, rfl, -⟩
    exact List.mem_append_right _ List.mem_cons_self
  · intro h
    obtain ⟨before, after, rfl⟩ := List.append_of_mem h
    refine ⟨before, after, rfl, fun p hp => bne_iff_ne.mpr fun same => ?_⟩
    rw [List.map_append, List.map_cons, List.nodup_append] at nodup
    exact nodup.2.2 _ (List.mem_map_of_mem hp) _ List.mem_cons_self same.symm

theorem lookup_eq_of_perm {l l' : List (κ × β)} (h : l.Perm l') (nodup : (l.map (·.1)).Nodup)
    (k : κ) : l.lookup k = l'.lookup k := by
  have nodup' : (l'.map (·.1)).Nodup := (h.map _).nodup_iff.mp nodup
  ext b
  rw [lookup_eq_some_iff_mem nodup, lookup_eq_some_iff_mem nodup', h.mem_iff]

/-- A table whose names are replaced is found under the new names what it was under the old ones, with
whatever is done to that, if no other name is replaced by the same one. -/
theorem lookup_map {l : List (κ × β)} (ρ : κ → κ) (g : β → γ) {k : κ}
    (injective : ∀ p ∈ l, ρ p.1 = ρ k → p.1 = k) :
    (l.map fun p => (ρ p.1, g p.2)).lookup (ρ k) = (l.lookup k).map g := by
  induction l with
  | nil => rfl
  | cons p rest ih =>
    have later := ih fun q hq => injective q (List.mem_cons_of_mem _ hq)
    rw [List.map_cons, List.lookup_cons, List.lookup_cons, later]
    by_cases same : k = p.1
    · simp [same]
    · have other : ρ k ≠ ρ p.1 := fun h => same (injective p List.mem_cons_self h.symm).symm
      rw [beq_false_of_ne same, beq_false_of_ne other]

/-! ## Without one name -/

theorem lookup_filter_self (name : String) (l : List (String × β)) :
    (l.filter fun p => p.1 ≠ name).lookup name = none := by
  refine List.lookup_eq_none_iff.mpr fun p hp => bne_iff_ne.mpr ?_
  simpa using (of_decide_eq_true (List.mem_filter.mp hp).2).symm

theorem lookup_filter_of_ne {name name' : String} (other : name ≠ name') (l : List (String × β)) :
    (l.filter fun p => p.1 ≠ name').lookup name = l.lookup name := by
  induction l with
  | nil => rfl
  | cons p rest ih =>
    obtain ⟨key, b⟩ := p
    by_cases same : key = name'
    · have passed : (name == key) = false := beq_eq_false_iff_ne.mpr (same ▸ other)
      rw [List.filter_cons_of_neg (by simp [same]), List.lookup_cons, passed, ih]
    · rw [List.filter_cons_of_pos (by simp [same]), List.lookup_cons, List.lookup_cons, ih]

end QueryGate
