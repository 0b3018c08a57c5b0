-- Page sizes that are written out. As far as 64 bits hold them, a larger
-- page costs no less. A literal beyond that is a double, and a double states
-- no page size: the field is charged as if the argument were not there.
import QueryGate.GraphQL.Equality
import QueryGate.Proofs.Additions
import QueryGate.Proofs.Literals
import QueryGate.Proofs.Tables

namespace QueryGate

namespace GraphQL

/-! ## Documents without places -/

def Field.unplaced (f : Field) : Field := { f with position := ⟨1, 1⟩, opening := ⟨1, 1⟩ }

mutual

/-- A selection that is not told where it stands in a text. -/
def unplaced : Selection → Selection
  | .field f below => .field f.unplaced (unplacedAll below)
  | .spread name directives => .spread name directives
  | .inline x below => .inline { x with opening := ⟨1, 1⟩ } (unplacedAll below)

def unplacedAll : List Selection → List Selection
  | [] => []
  | s :: rest => unplaced s :: unplacedAll rest

end

def Operation.unplaced (o : Operation) : Operation :=
  { o with position := ⟨1, 1⟩, opening := ⟨1, 1⟩, selections := unplacedAll o.selections }

def Fragment.unplaced (f : Fragment) : Fragment :=
  { f with opening := ⟨1, 1⟩, selections := unplacedAll f.selections }

def Operations.unplaced : Operations → Operations
  | .single o => .single o.unplaced
  | .named os => .named (os.map fun (name, o) => (name, o.unplaced))

/-- The document that its parts make up, wherever they stand in the text. -/
def Document.unplaced (d : Document) : Document where
  operations := d.operations.unplaced
  fragments := d.fragments.map fun (name, f) => (name, f.unplaced)

theorem operationList_unplaced (d : Document) :
    d.unplaced.operationList = d.operationList.map fun (name, o) => (name, o.unplaced) := by
  obtain ⟨operations, fragments⟩ := d
  cases operations with
  | single o => rfl
  | named os =>
    simp [Document.operationList, Document.unplaced, Operations.unplaced, Operations.toList]

end GraphQL

namespace Analysis

open GraphQL

variable {d e : Document}

/-- A measure that does not see where a field stands in the text. -/
def Measure.Blind {α : Type} (m : Measure α) : Prop := ∀ f, m.field f.unplaced = m.field f

namespace Measure.Blind

variable {α : Type} {m : Measure α}

mutual

theorem one_eq (blind : m.Blind) (d : Document) (active : Active) :
    (s : Selection) → m.one d active (unplaced s) = m.one d active s
  | .field f below => by
    rw [unplaced, m.one_field, m.one_field, blind f, blind.all_eq d active below]
  | .spread name ds => by rw [unplaced]
  | .inline x below => by
    rw [unplaced, m.one_inline, m.one_inline, blind.all_eq d active below]

theorem all_eq (blind : m.Blind) (d : Document) (active : Active) :
    (ss : List Selection) → m.all d active (unplacedAll ss) = m.all d active ss
  | [] => by rw [unplacedAll]
  | s :: rest => by
    rw [unplacedAll, m.all_cons, m.all_cons, blind.one_eq d active s, blind.all_eq d active rest]

end

theorem document_eq (blind : m.Blind) (d : Document) : m.document d.unplaced = m.document d := by
  refine (m.keeps_eq.document_of_counterparts (counterparts_of_forall₂ ?_ ?_)).symm
  · rw [operationList_unplaced, List.forall₂_map_right_iff, List.forall₂_same]
    exact fun o _ active => (blind.all_eq _ active o.2.selections).symm
  · unfold Document.unplaced
    rw [List.forall₂_map_right_iff, List.forall₂_same]
    exact fun f _ => ⟨rfl, fun active => (blind.all_eq _ active f.2.selections).symm⟩

end Measure.Blind

/-- Documents are measured alike that differ in nothing but where their parts stand. -/
theorem measuredAlike_of_unplaced_eq (same : d.unplaced = e.unplaced) : MeasuredAlike d e := by
  have document_eq {m : Measure Nat} (blind : m.Blind) : m.document e = m.document d := by
    rw [← blind.document_eq, ← same, blind.document_eq]
  exact measuredAlike_of_sums (document_eq fun _ => rfl) fun m => document_eq fun _ => rfl

/-! ## Arguments without their values -/

/-- An argument in a document that has no value yet: the field that it is one of, the selections below
this field, and the other arguments, none of which goes before it by the same name. -/
structure ArgumentGap where
  gap : DocumentGap
  field : Field
  below : List Selection
  argument : String
  before : Arguments
  after : Arguments
  first : ∀ a ∈ before, a.1 ≠ argument

namespace ArgumentGap

/-- The field with the argument. -/
def fieldWith (g : ArgumentGap) (v : Value) : Field :=
  { g.field with arguments := g.before ++ (g.argument, v) :: g.after }

/-- The field without the argument, and without any other by the same name. -/
def fieldWithout (g : ArgumentGap) : Field :=
  { g.field with arguments := g.before ++ g.after.filter fun a => a.1 ≠ g.argument }

/-- The document with the argument. -/
def fill (g : ArgumentGap) (v : Value) : Document := g.gap.fill [.field (g.fieldWith v) g.below]

/-- The document without the argument, and without any other of this field by the same name. -/
def drop (g : ArgumentGap) : Document := g.gap.fill [.field g.fieldWithout g.below]

variable (g : ArgumentGap) {v v' : Value}

theorem name_fieldWith : (g.fieldWith v).name = g.field.name := rfl

theorem lookup_before : g.before.lookup g.argument = none :=
  List.lookup_eq_none_iff.mpr fun a ha => bne_iff_ne.mpr (g.first a ha).symm

theorem argument?_fieldWith : (g.fieldWith v).argument? g.argument = some v := by
  unfold fieldWith Field.argument?
  rw [List.lookup_append, g.lookup_before, Option.none_or, List.lookup_cons, beq_self_eq_true]

theorem argument?_fieldWithout : g.fieldWithout.argument? g.argument = none := by
  unfold fieldWithout Field.argument?
  rw [List.lookup_append, g.lookup_before, Option.none_or, List.lookup_eq_none_iff]
  intro a ha
  have other : a.1 ≠ g.argument := of_decide_eq_true (List.mem_filter.mp ha).2
  exact bne_iff_ne.mpr other.symm

theorem argument?_of_ne {name : String} (other : name ≠ g.argument) :
    (g.fieldWith v).argument? name = g.fieldWithout.argument? name := by
  have passed : (name == g.argument) = false := beq_eq_false_iff_ne.mpr other
  unfold fieldWith fieldWithout Field.argument?
  rw [List.lookup_append, List.lookup_append, lookup_filter_of_ne other, List.lookup_cons, passed]

end ArgumentGap

namespace CostModel

theorem statedSize?_of_fits {n : Nat} (fits : n < 2 ^ 64) :
    statedSize? (literal n) = some (UInt64.ofNat n) := by
  rw [literal_of_fits fits, statedSize?_eq_some_iff, UInt64.toNat_ofNat', Nat.mod_eq_of_lt fits]

theorem statedSize?_of_beyond {n : Nat} (beyond : 2 ^ 64 ≤ n) : statedSize? (literal n) = none := by
  obtain ⟨x, double⟩ := literal_of_beyond beyond
  rw [double]
  rfl

variable (m : CostModel) (g : ArgumentGap) {v v' : Value} {size size' : UInt64}

/-- The other arguments state what they state without this one. -/
theorem stated_of_ne {name : String} (other : name ≠ g.argument) :
    ((g.fieldWith v).argument? name).bind statedSize? =
      (g.fieldWithout.argument? name).bind statedSize? := by
  rw [g.argument?_of_ne other]

/-- A value that states no page size leaves the field as it is without the argument. -/
theorem pageSize?_of_unstated (unstated : statedSize? v = none) :
    m.pageSize? (g.fieldWith v) = m.pageSize? g.fieldWithout := by
  unfold pageSize?
  congr 1
  funext name
  by_cases same : name = g.argument
  · rw [same, g.argument?_fieldWith, g.argument?_fieldWithout, Option.bind_some, unstated,
      Option.bind_none]
  · exact stated_of_ne g same

/-- Either the argument decides what the page size is, or its value does not matter. -/
theorem pageSize?_fieldWith :
    (∀ v, m.pageSize? (g.fieldWith v) = m.pageSize? g.fieldWithout) ∨
      ∀ v size, statedSize? v = some size → m.pageSize? (g.fieldWith v) = some size := by
  unfold pageSize?
  induction m.paginationArguments with
  | nil => exact .inl fun v => rfl
  | cons name rest ih =>
    simp only [List.findSome?_cons]
    by_cases same : name = g.argument
    · right
      intro v size stated
      rw [same, g.argument?_fieldWith, Option.bind_some, stated]
    · simp only [stated_of_ne g same]
      cases (g.fieldWithout.argument? name).bind statedSize? with
      | none => exact ih
      | some size => exact .inl fun v => rfl

/-- A larger page size that is stated makes no smaller one of the field. -/
theorem pageSize_fieldWith_le (stated : statedSize? v = some size)
    (stated' : statedSize? v' = some size') (le : size ≤ size') :
    m.pageSize (g.fieldWith v) ≤ m.pageSize (g.fieldWith v') := by
  unfold pageSize
  rcases m.pageSize?_fieldWith g with ignored | decides
  · rw [ignored, ignored]
  · rw [decides v size stated, decides v' size' stated']
    exact UInt64.le_iff_toNat_le.mp le

theorem weight_le_of_pageSize_le {f f' : Field} (name : f.name = f'.name)
    (le : m.pageSize f ≤ m.pageSize f') : m.weight f ≤ m.weight f' := by
  unfold weight
  rw [name]
  split
  · exact Nat.mul_le_mul_left _ le
  · exact Nat.le_refl 1

/-- A field with a larger page makes no document cheaper. -/
theorem estimate_fill_le (gap : DocumentGap) {f f' : Field} (below : List Selection)
    (name : f.name = f'.name) (le : m.pageSize f ≤ m.pageSize f') :
    m.estimate (gap.fill [.field f below]) ≤ m.estimate (gap.fill [.field f' below]) := by
  have heavier : m.weight f ≤ m.weight f' := m.weight_le_of_pageSize_le name le
  have growing : (weighing m.weight).Growing := ⟨weighing_mono _, weighing_lawful _, rfl⟩
  rw [estimate_eq_clamp_weighing, estimate_eq_clamp_weighing]
  refine clamp_mono (growing.keeps.document_fill growing.lawful gap fun active => ?_)
  simp only [Measure.all_cons, Measure.one_field]
  exact growing.mono.beside _ _ _ _ (Nat.add_le_add_right heavier _) (Nat.le_refl _)

/-- A literal that 64 bits do not hold is charged as if the argument were not there. -/
theorem estimate_of_beyond {n : Nat} (beyond : 2 ^ 64 ≤ n) :
    m.estimate (g.fill (literal n)) = m.estimate g.drop := by
  have same : m.pageSize (g.fieldWith (literal n)) = m.pageSize g.fieldWithout := by
    unfold pageSize
    rw [m.pageSize?_of_unstated g (statedSize?_of_beyond beyond)]
  apply UInt64.le_antisymm
  · exact m.estimate_fill_le g.gap g.below rfl (Nat.le_of_eq same)
  · exact m.estimate_fill_le g.gap g.below rfl (Nat.le_of_eq same.symm)

/-- Of two literals that 64 bits hold, the larger one costs no less. -/
theorem estimate_le_of_fits {n n' : Nat} (le : n ≤ n') (fits : n' < 2 ^ 64) :
    m.estimate (g.fill (literal n)) ≤ m.estimate (g.fill (literal n')) := by
  have fits_old : n < 2 ^ 64 := Nat.lt_of_le_of_lt le fits
  have ordered : UInt64.ofNat n ≤ UInt64.ofNat n' := by
    rw [UInt64.le_iff_toNat_le, UInt64.toNat_ofNat', UInt64.toNat_ofNat', Nat.mod_eq_of_lt fits_old,
      Nat.mod_eq_of_lt fits]
    exact le
  have smaller := m.pageSize_fieldWith_le g (statedSize?_of_fits fits_old) (statedSize?_of_fits fits)
    ordered
  have name : (g.fieldWith (literal n)).name = (g.fieldWith (literal n')).name :=
    g.name_fieldWith.trans g.name_fieldWith.symm
  exact m.estimate_fill_le g.gap g.below name smaller

/-- What a literal makes of the page size lies on the same side of what the field has without the
argument as the literal itself, or it is the same. -/
theorem pageSize_fieldWith_between {n : Nat} (fits : n < 2 ^ 64) :
    (n ≤ m.pageSize g.fieldWithout →
      m.pageSize (g.fieldWith (literal n)) ≤ m.pageSize g.fieldWithout) ∧
    (m.pageSize g.fieldWithout ≤ n →
      m.pageSize g.fieldWithout ≤ m.pageSize (g.fieldWith (literal n))) := by
  rcases m.pageSize?_fieldWith g with ignored | decides
  · have same : m.pageSize (g.fieldWith (literal n)) = m.pageSize g.fieldWithout := by
      unfold pageSize
      rw [ignored]
    exact ⟨fun _ => Nat.le_of_eq same, fun _ => Nat.le_of_eq same.symm⟩
  · have size : m.pageSize (g.fieldWith (literal n)) = n := by
      unfold pageSize
      rw [decides _ _ (statedSize?_of_fits fits), Option.getD_some, UInt64.toNat_ofNat',
        Nat.mod_eq_of_lt fits]
    rw [size]
    exact ⟨id, id⟩

/-! ## A query for one page -/

theorem estimate_queryWith (v : Value) :
    m.estimate ⟨.single (queryWith v), []⟩ = m.fieldCost (usersWith v) := by
  have alone : occurrences ⟨.single (queryWith v), []⟩ = [usersWith v] := by
    simp [occurrences, Document.operationList, Operations.toList, queryWith, fieldsInAll, fieldsIn]
  rw [estimate_eq_clamp, exactCost, alone, List.map_singleton, List.sum_singleton, clamp_weight]

theorem estimateCost_queryWith (v : Value) :
    estimateCost ⟨.single (queryWith v), []⟩ = Saturating.mul 10 ((statedSize? v).getD 10) := by
  have size : pageSize? {} (usersWith v) = statedSize? v := by
    have first : (usersWith v).argument? "first" = some v := rfl
    have last : (usersWith v).argument? "last" = none := rfl
    simp only [pageSize?, List.findSome?_cons, List.findSome?_nil, first, last, Option.bind_some,
      Option.bind_none]
    cases statedSize? v <;> rfl
  have list : isListLike (usersWith v).name = true := show isListLike "users" = true by decide
  rw [estimateCost, estimate_queryWith, fieldCost, if_pos list, size]

/-! ## The whole of it -/

/-- Asking for a larger page costs no less, whatever the weights are and whatever argument of whatever
field asks for it, as long as 64 bits hold the page size; literals that they do not hold all cost
the same. A literal grows out of 64 bits to cost what the field costs without the argument: no less
than before if the page size that the field then has is no smaller than the old one, and no more
if it is no larger.

The digits of a literal are read as the literal wherever they stand, and the texts may differ in
where everything else stands. -/
theorem a_larger_page_costs_no_less_within_64_bits (m : CostModel) (g : ArgumentGap) {n n' : Nat}
    {d e : Document} (larger : n < n') (old : d.unplaced = (g.fill (literal n)).unplaced)
    (new : e.unplaced = (g.fill (literal n')).unplaced) :
    (∀ k rest, LiteralEnds rest → value false (Nat.toDigits 10 k ++ rest) = some (literal k, rest)) ∧
    (n' < 2 ^ 64 → m.estimate d ≤ m.estimate e) ∧
    (2 ^ 64 ≤ n → m.estimate e = m.estimate d) ∧
    (n < 2 ^ 64 → 2 ^ 64 ≤ n' →
      m.estimate e = m.estimate g.drop ∧
      (n ≤ m.pageSize g.fieldWithout → m.estimate d ≤ m.estimate e) ∧
      (m.pageSize g.fieldWithout ≤ n → m.estimate e ≤ m.estimate d)) := by
  have costs_old := (measuredAlike_of_unplaced_eq old).estimate_eq m
  have costs_new := (measuredAlike_of_unplaced_eq new).estimate_eq m
  rw [← costs_old, ← costs_new]
  refine ⟨fun k rest => value_toDigits k, ?_, fun beyond => ?_, fun fits beyond => ?_⟩
  · exact m.estimate_le_of_fits g (Nat.le_of_lt larger)
  · have beyond' : 2 ^ 64 ≤ n' := Nat.le_trans beyond (Nat.le_of_lt larger)
    rw [m.estimate_of_beyond g beyond, m.estimate_of_beyond g beyond']
  · rw [m.estimate_of_beyond g beyond]
    obtain ⟨below, above⟩ := m.pageSize_fieldWith_between g fits
    refine ⟨rfl, fun le => ?_, fun le => ?_⟩
    · exact m.estimate_fill_le g.gap g.below rfl (below le)
    · exact m.estimate_fill_le g.gap g.below rfl (above le)

/-- A page of nine and one of ten: what is below the field stands one character farther on. -/
theorem ten_cost_no_less_than_nine :
    let id (column : Nat) : Selection := .field { position := ⟨1, column⟩, name := "id" } []
    let users (opening size : Nat) : Field :=
      { position := ⟨1, 2⟩, opening := ⟨1, opening⟩, name := "users"
        arguments := [("first", .number (.int size))] }
    let d : Document :=
      ⟨.single { type := .query, selections := [.field (users 17 9) [id 18]] }, []⟩
    let e : Document :=
      ⟨.single { type := .query, selections := [.field (users 18 10) [id 19]] }, []⟩
    parse "\x7busers(first: 9)\x7bid\x7d\x7d" = .ok d ∧
      parse "\x7busers(first: 10)\x7bid\x7d\x7d" = .ok e ∧ estimateCost d ≤ estimateCost e := by
  intro id users d e
  let g : ArgumentGap :=
    { gap := .single { type := .query, selections := [] } (.here []) []
      field := { name := "users" }
      below := [id 1], argument := "first", before := [], after := [], first := by simp }
  have old : d.unplaced = (g.fill (literal 9)).unplaced := by
    rw [literal_of_fits (by decide)]
    rfl
  have new : e.unplaced = (g.fill (literal 10)).unplaced := by
    rw [literal_of_fits (by decide)]
    rfl
  obtain ⟨-, no_less, -⟩ :=
    a_larger_page_costs_no_less_within_64_bits {} g (by decide : 9 < 10) old new
  exact ⟨by decide +kernel, by decide +kernel, no_less (by decide)⟩

/-- One more than what 64 bits hold is charged like a page of ten, and not like all that can be asked
for. -/
theorem a_page_past_64_bits_costs_less :
    let d : Document := ⟨.single (queryWith (literal 18446744073709551615)), []⟩
    let e : Document := ⟨.single (queryWith (literal 18446744073709551616)), []⟩
    parse "\x7busers(first: 18446744073709551615)\x7d" = .ok d ∧
      parse "\x7busers(first: 18446744073709551616)\x7d" = .ok e ∧
      estimateCost d = 18446744073709551615 ∧ estimateCost e = 100 := by
  intro d e
  have ends : LiteralEnds [')', '\x7d'] := literalEnds_cons (by decide) (by decide)
  have parsed (n : Nat) (finite : (literal n).isFinite = true) :
      parse (String.ofList (fromBrace (Nat.toDigits 10 n ++ ")\x7d".toList))) =
        .ok ⟨.single (queryWith (literal n)), []⟩ :=
    parse_fromBrace (skip_toDigits n _) (value_toDigits n ends) finite
  refine ⟨?_, ?_, ?_, ?_⟩
  · exact parsed 18446744073709551615 (by decide +kernel)
  · exact parsed 18446744073709551616 (by decide +kernel)
  · rw [estimateCost_queryWith, statedSize?_of_fits (by decide)]
    decide
  · rw [estimateCost_queryWith, statedSize?_of_beyond (by decide)]
    decide

end CostModel

end Analysis

end QueryGate
