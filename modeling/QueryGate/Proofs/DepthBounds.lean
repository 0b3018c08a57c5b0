-- Depth as it is bounded by what is written. Spreads can go round in
-- circles and come back ever so often, but no depth is more than all the
-- fields there are to write, so counting it in a word never wraps around.
import QueryGate.Analysis.Written
import QueryGate.GraphQL.Equality
import QueryGate.Proofs.Chains
import QueryGate.Proofs.Spreads
import QueryGate.Proofs.Taking

namespace QueryGate

namespace Analysis

open GraphQL

variable {d : Document} {active : Active} {ss : List Selection}

/-! ## Fields that are written -/

/-- The fields that are written in a document, in its operations and its fragments. -/
def writtenFields (d : Document) : List Field := (bodiesByName d).flatMap fieldsInAll

theorem bodiesByName_perm (d : Document) :
    (bodiesByName d).Perm
      (d.operationList.map (·.2.selections) ++ d.fragments.map (·.2.selections)) :=
  ((List.mergeSort_perm _ _).map _).append ((List.mergeSort_perm _ _).map _)

theorem length_writtenFields (d : Document) :
    (writtenFields d).length =
      (d.operationList.map fun o => (fieldsInAll o.2.selections).length).sum +
        (d.fragments.map fun f => (fieldsInAll f.2.selections).length).sum := by
  have bodies := (bodiesByName_perm d).map fun ss => (fieldsInAll ss).length
  rw [writtenFields, List.length_flatMap, bodies.sum_eq, List.map_append, List.sum_append,
    List.map_map, List.map_map]
  rfl

mutual

/-- Every level of nesting is a field that is written. -/
theorem nesting_le_length : ∀ s : Selection, nesting s ≤ (fieldsIn s).length
  | .field _ below => by
    have := nestingAll_le_length below
    rw [nesting, fieldsIn, List.length_cons]
    omega
  | .spread _ _ => Nat.zero_le _
  | .inline _ below => by
    rw [nesting, fieldsIn]
    exact nestingAll_le_length below

theorem nestingAll_le_length : ∀ ss : List Selection, nestingAll ss ≤ (fieldsInAll ss).length
  | [] => Nat.zero_le _
  | s :: rest => by
    have first := nesting_le_length s
    have others := nestingAll_le_length rest
    rw [nestingAll, fieldsInAll, List.length_append]
    omega

end

/-- The deepest operation and all fragments, one below the other, are no deeper than all fields. -/
theorem nesting_le_writtenFields (d : Document) :
    (d.operationList.map fun o => nestingAll o.2.selections).foldr max 0 +
      (d.fragments.map fun f => nestingAll f.2.selections).sum ≤ (writtenFields d).length := by
  rw [length_writtenFields]
  refine Nat.add_le_add ((foldr_max_le_sum _).trans ?_) ?_
  · exact List.sum_le_sum fun o _ => nestingAll_le_length o.2.selections
  · exact List.sum_le_sum fun f _ => nestingAll_le_length f.2.selections

/-! ## The sums on the way -/

/-- Whatever a walk comes to, it is no deeper than the document. -/
theorem Visits.depth_le (h : Visits d active ss) : depthMeasure.all d active ss ≤ depth d := by
  induction h with
  | operation ho => exact depth_operation_le ho
  | @rest active s rest _ ih =>
    rw [Measure.all_cons] at ih
    exact (Nat.le_max_right _ _).trans ih
  | @field active f below rest _ ih =>
    rw [Measure.all_cons, Measure.one_field] at ih
    have around : 1 + depthMeasure.all d active below ≤ depth d := (Nat.le_max_left _ _).trans ih
    omega
  | @opened active inner s body rest _ opens ih =>
    rw [Measure.all_cons, opens.one] at ih
    exact (Nat.le_max_left _ _).trans ih

/-- The sum that is made at a field is one of the depths that a walk comes to. -/
theorem Visits.sum_le {f : Field} {below rest : List Selection}
    (h : Visits d active (.field f below :: rest)) :
    1 + depthMeasure.all d active below ≤ depth d := by
  have here := h.depth_le
  rw [Measure.all_cons, Measure.one_field] at here
  exact (Nat.le_max_left _ _).trans here

/-! ## Counting in a word -/

/-- Depth as a word of 64 bits counts it: a sum that is too large for one wraps around. -/
def wordDepthMeasure : Measure UInt64 where
  nothing := 0
  field := fun _ below => 1 + below
  beside := max

def wordDepth (d : Document) : UInt64 := wordDepthMeasure.document d

theorem toNat_max (a b : UInt64) : (max a b).toNat = max a.toNat b.toNat := by
  show (if a ≤ b then b else a).toNat = _
  rw [Nat.max_def]
  simp only [UInt64.le_iff_toNat_le]
  split <;> rfl

theorem toNat_one_add {a : UInt64} {n : Nat} (same : a.toNat = n) (fits : 1 + n < 2 ^ 64) :
    (1 + a).toNat = 1 + n := by
  rw [UInt64.toNat_add, same, UInt64.toNat_one, Nat.mod_eq_of_lt fits]

/-- Where the depth fits a word, counting in words gives it. All that is counted on the way is less. -/
theorem toNat_wordDepthMeasure_all (d : Document) (active : Active) (ss : List Selection)
    (fits : depthMeasure.all d active ss < 2 ^ 64) :
    (wordDepthMeasure.all d active ss).toNat = depthMeasure.all d active ss := by
  induction active, ss using walk_induction d with
  | nil active => rw [Measure.all_nil, Measure.all_nil]; rfl
  | field active f below rest ihb ihr =>
    rw [Measure.all_cons, Measure.one_field] at fits ⊢
    obtain ⟨first, others⟩ := max_lt_iff.mp fits
    have sum : 1 + depthMeasure.all d active below < 2 ^ 64 := first
    rw [Measure.all_cons, Measure.one_field]
    exact (toNat_max _ _).trans
      (congrArg₂ max (toNat_one_add (ihb (by omega)) sum) (ihr others))
  | inline active x below rest ihb ihr =>
    rw [Measure.all_cons, Measure.one_inline] at fits ⊢
    obtain ⟨first, others⟩ := max_lt_iff.mp fits
    rw [Measure.all_cons, Measure.one_inline]
    exact (toNat_max _ _).trans (congrArg₂ max (ihb first) (ihr others))
  | undefined active name ds rest h ihr =>
    rw [Measure.all_cons, Measure.one_undefined _ h] at fits ⊢
    rw [Measure.all_cons, Measure.one_undefined _ h]
    exact (toNat_max _ _).trans (congrArg₂ max rfl (ihr (max_lt_iff.mp fits).2))
  | inside active name ds rest h ihr =>
    rw [Measure.all_cons, Measure.one_inside _ h] at fits ⊢
    rw [Measure.all_cons, Measure.one_inside _ h]
    exact (toNat_max _ _).trans (congrArg₂ max rfl (ihr (max_lt_iff.mp fits).2))
  | entered active name ds rest body found h ihb ihr =>
    rw [Measure.all_cons, Measure.one_entered _ found h] at fits ⊢
    obtain ⟨first, others⟩ := max_lt_iff.mp fits
    rw [Measure.all_cons, Measure.one_entered _ found h]
    exact (toNat_max _ _).trans (congrArg₂ max (ihb first) (ihr others))

theorem toNat_wordDepth (fits : depth d < 2 ^ 64) : (wordDepth d).toNat = depth d := by
  rw [depth, Measure.document_eq] at fits
  rw [wordDepth, depth, Measure.document_eq, Measure.document_eq]
  generalize d.operationList = os at fits ⊢
  induction os with
  | nil => rfl
  | cons o rest ih =>
    obtain ⟨first, others⟩ := max_lt_iff.mp fits
    exact (toNat_max _ _).trans
      (congrArg₂ max (toNat_wordDepthMeasure_all d [] o.2.selections first) (ih others))

end Analysis

namespace GraphQL

open Analysis

/-! ## Levels of a text -/

mutual

theorem nesting_le_of_checkSelection {levels : Nat} :
    ∀ {s : Selection}, checkSelection levels s = .ok () → nesting s ≤ levels + 1
  | .field f below, h => by
    rw [checkSelection] at h
    obtain ⟨_, -, h⟩ := bind_eq_ok_iff.mp h
    have := nestingAll_le_of_checkBelow h
    rw [nesting]
    omega
  | .spread _ _, _ => Nat.zero_le _
  | .inline x below, h => by
    rw [checkSelection] at h
    obtain ⟨_, -, h⟩ := bind_eq_ok_iff.mp h
    have := nestingAll_le_of_checkBelow h
    rw [nesting]
    omega

theorem nestingAll_le_of_checkBelow {levels : Nat} :
    ∀ {ss : List Selection}, checkBelow levels ss = .ok () → nestingAll ss ≤ levels
  | [], _ => Nat.zero_le _
  | s :: rest, h => by
    cases levels with
    | zero => cases h
    | succ levels =>
      rw [checkBelow] at h
      obtain ⟨_, first, others⟩ := bind_eq_ok_iff.mp h
      exact Nat.max_le.mpr
        ⟨nesting_le_of_checkSelection first, nestingAll_le_of_checkSelections others⟩

theorem nestingAll_le_of_checkSelections {levels : Nat} :
    ∀ {ss : List Selection}, checkSelections levels ss = .ok () → nestingAll ss ≤ levels + 1
  | [], _ => Nat.zero_le _
  | s :: rest, h => by
    rw [checkSelections] at h
    obtain ⟨_, first, others⟩ := bind_eq_ok_iff.mp h
    exact Nat.max_le.mpr
      ⟨nesting_le_of_checkSelection first, nestingAll_le_of_checkSelections others⟩

end

theorem nestingAll_le_of_check {x : Definition} (h : x.check = .ok ()) :
    nestingAll x.selections ≤ maxNesting + 1 := by
  cases x with
  | operation _ o =>
    obtain ⟨_, -, h⟩ := bind_eq_ok_iff.mp h
    exact nestingAll_le_of_checkSelections h
  | fragment _ _ f =>
    obtain ⟨_, -, h⟩ := bind_eq_ok_iff.mp h
    exact nestingAll_le_of_checkSelections h

theorem forall_check_of_forM {xs : List Definition} (h : xs.forM Definition.check = .ok ()) :
    ∀ x ∈ xs, x.check = .ok () := by
  induction xs with
  | nil => simp
  | cons x rest ih =>
    obtain ⟨_, first, others⟩ := bind_eq_ok_iff.mp h
    exact List.forall_mem_cons.mpr ⟨first, ih others⟩

theorem bodies_of_finish {a : Assembly} {d : Document} (h : a.finish = .ok d) :
    a.bodies = d.operationList.map (·.2.selections) ++ d.fragments.map (·.2.selections) := by
  unfold Assembly.finish at h
  split at h
  · cases h
  · rename_i operations some
    obtain rfl := Except.ok.inj h
    simp [Assembly.bodies, some, Document.operationList]

/-- Every operation and fragment of a text's document is nested no deeper than a text may be. -/
theorem nestingAll_le_of_parse {text : String} {d : Document} (h : parse text = .ok d) :
    (∀ o ∈ d.operationList, nestingAll o.2.selections ≤ 65) ∧
      ∀ f ∈ d.fragments, nestingAll f.2.selections ≤ 65 := by
  obtain ⟨all, a, -, checked, together, finished⟩ := exists_definitions_of_parse h
  have within : ∀ ss ∈ a.bodies, nestingAll ss ≤ 65 := by
    intro ss hss
    have among := (Assembly.bodies_foldlM together).mem_iff.mp hss
    rw [show Assembly.bodies {} = [] from rfl, List.append_nil] at among
    obtain ⟨x, hx, rfl⟩ := List.mem_map.mp among
    exact nestingAll_le_of_check (forall_check_of_forM checked x hx)
  rw [bodies_of_finish finished] at within
  exact ⟨fun o ho => within _ (List.mem_append_left _ (List.mem_map_of_mem ho)),
    fun f hf => within _ (List.mem_append_right _ (List.mem_map_of_mem hf))⟩

/-- Along a path each fragment can add all levels that it may have, and the operation its own. -/
theorem depth_le_of_parse {text : String} {d : Document} (h : parse text = .ok d) :
    depth d ≤ 65 * (d.fragments.length + 1) := by
  obtain ⟨operations, fragments⟩ := nestingAll_le_of_parse h
  have deepest : (d.operationList.map fun o => nestingAll o.2.selections).foldr max 0 ≤ 65 := by
    generalize d.operationList = os at operations
    induction os with
    | nil => exact Nat.zero_le _
    | cons o rest ih =>
      obtain ⟨first, others⟩ := List.forall_mem_cons.mp operations
      exact Nat.max_le.mpr ⟨first, ih others⟩
  have all : (d.fragments.map fun f => nestingAll f.2.selections).sum ≤ d.fragments.length * 65 := by
    have each := List.sum_le_card_nsmul (d.fragments.map fun f => nestingAll f.2.selections) 65
      (List.forall_mem_map.mpr fragments)
    simpa using each
  have bound := depth_le_nesting d
  omega

end GraphQL

namespace Analysis

open GraphQL

/-! ## The whole of it -/

/-- However its fragments are spread, a document is no deeper than its deepest operation is written,
with all its fragments below, and so no deeper than the fields written in it are many. That many bound
every sum that is made on the way as well, and where the memory holds no more fields than a word
counts, counting in words is exact. A text's document is no deeper than the levels that a text may
have, for each fragment and once more. -/
theorem depth_is_bounded_by_what_is_written (d : Document) :
    let operations := d.operationList.map fun o => nestingAll o.2.selections
    let fragments := d.fragments.map fun f => nestingAll f.2.selections
    depth d ≤ operations.foldr max 0 + fragments.sum ∧
    operations.foldr max 0 + fragments.sum ≤ (writtenFields d).length ∧
    (∀ active f below rest, Visits d active (.field f below :: rest) →
      1 + depthMeasure.all d active below ≤ (writtenFields d).length) ∧
    ((writtenFields d).length < 2 ^ 64 → (wordDepth d).toNat = depth d) ∧
    ∀ text, parse text = .ok d → depth d ≤ 65 * (d.fragments.length + 1) := by
  intro operations fragments
  have written : operations.foldr max 0 + fragments.sum ≤ (writtenFields d).length :=
    nesting_le_writtenFields d
  have bound : depth d ≤ (writtenFields d).length := (depth_le_nesting d).trans written
  refine ⟨depth_le_nesting d, written, fun active f below rest visits => ?_, fun fits => ?_,
    fun text parsed => depth_le_of_parse parsed⟩
  · exact visits.sum_le.trans bound
  · exact toNat_wordDepth (Nat.lt_of_le_of_lt bound fits)

/-- Two fragments in a circle. The deepest path goes through all that is written, so the bound is
reached, and at the field of the first fragment the sum is that of the whole document. -/
theorem as_deep_as_written_in_a_circle :
    let text := "\x7b...A\x7dfragment A on T\x7ba\x7b...B\x7d\x7dfragment B on T\x7bb\x7bc ...A\x7d\x7d"
    let c : Field := { position := ⟨1, 49⟩, name := "c" }
    let b : Field := { position := ⟨1, 47⟩, opening := ⟨1, 48⟩, name := "b" }
    let a : Field := { position := ⟨1, 23⟩, opening := ⟨1, 24⟩, name := "a" }
    let o : Operation := { type := .query, selections := [.spread "A" []] }
    let f : Fragment :=
      { opening := ⟨1, 22⟩, condition := "T", selections := [.field a [.spread "B" []]] }
    let g : Fragment :=
      { opening := ⟨1, 46⟩, condition := "T"
        selections := [.field b [.field c [], .spread "A" []]] }
    let d : Document := ⟨.single o, [("A", f), ("B", g)]⟩
    parse text = .ok d ∧ (writtenFields d).length = 3 ∧ depth d = 3 ∧ wordDepth d = 3 ∧
      depth d ≤ 65 * 3 ∧ Visits d ["A"] f.selections ∧
      1 + depthMeasure.all d ["A"] [.spread "B" []] ≤ 3 := by
  intro text c b a o f g d
  have parsed : parse text = .ok d := by decide +kernel
  have operation : d.operationList = [(none, o)] := rfl
  have first : d.body? "A" = some f.selections := rfl
  have second : d.body? "B" = some g.selections := rfl
  have three : (writtenFields d).length = 3 := by
    simp [length_writtenFields, operation, o, d, f, g, fieldsInAll, fieldsIn]
  have depth_d : depth d = 3 := by
    simp [depth, Measure.document_eq, operation, o, f, g, Measure.one_entered _ first,
      Measure.one_entered _ second, Measure.one_inside, depthMeasure]
  have entered : Visits d ["A"] f.selections :=
    .opened (.operation (o := (none, o)) List.mem_cons_self) (.entered first List.not_mem_nil)
  obtain ⟨-, -, sums, exact, levels⟩ := depth_is_bounded_by_what_is_written d
  rw [three] at sums exact
  have word : wordDepth d = 3 := UInt64.toNat_inj.mp ((exact (by decide)).trans depth_d)
  exact ⟨parsed, three, depth_d, word, levels text parsed, entered, sums _ _ _ _ entered⟩

end Analysis

end QueryGate
