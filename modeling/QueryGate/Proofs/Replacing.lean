-- Putting one thing in the place of another. If the two are measured in a
-- certain relation wherever they stand, then so are the documents around
-- them: the walk through the rest is the same, and keeps the relation.
import QueryGate.Proofs.Gaps

namespace QueryGate.Analysis

open GraphQL

variable {α : Type} {rel : α → α → Prop} {m : Measure α} {d e : Document}

/-! ## Measures that keep a relation -/

/-- A measure that keeps a relation, which everything is in with itself and which goes on from one to
the next. -/
structure Measure.Keeps (rel : α → α → Prop) (m : Measure α) : Prop extends
    Measure.Related rel m m where
  refl : ∀ a, rel a a
  trans : ∀ a b c, rel a b → rel b c → rel a c

theorem Measure.keeps_eq (m : Measure α) : m.Keeps (· = ·) where
  toRelated := .refl m
  refl := fun _ => rfl
  trans := fun _ _ _ => Eq.trans

/-! ## At one place -/

/-- Two parts are measured in a relation, whatever fragments of the document they stand inside of. -/
def Measure.Replaceable (m : Measure α) (rel : α → α → Prop) (d : Document)
    (part part' : List Selection) : Prop :=
  ∀ active, rel (m.all d active part) (m.all d active part')

theorem Measure.Keeps.replaceable_refl (keeps : m.Keeps rel) (ss : List Selection) :
    m.Replaceable rel d ss ss := fun _ => keeps.refl _

theorem Measure.Keeps.replaceable_fill (keeps : m.Keeps rel) (lawful : m.Lawful)
    {part part' : List Selection} (h : m.Replaceable rel d part part') (gap : Gap) :
    m.Replaceable rel d (gap.fill part) (gap.fill part') := by
  intro active
  induction gap with
  | here after =>
    rw [Gap.fill, Gap.fill, lawful.all_append, lawful.all_append]
    exact keeps.beside _ _ _ _ (h active) (keeps.refl _)
  | later s gap ih =>
    rw [Gap.fill, Gap.fill, m.all_cons, m.all_cons]
    exact keeps.beside _ _ _ _ (keeps.refl _) ih
  | field f gap after ih =>
    rw [Gap.fill, Gap.fill, m.all_cons, m.all_cons, m.one_field, m.one_field]
    exact keeps.beside _ _ _ _ (keeps.field f _ _ ih) (keeps.refl _)
  | inline x gap after ih =>
    rw [Gap.fill, Gap.fill, m.all_cons, m.all_cons, m.one_inline, m.one_inline]
    exact keeps.beside _ _ _ _ ih (keeps.refl _)

/-! ## In a whole document -/

/-- The same selections are measured in a relation in two documents, if the bodies of the fragments
are; a fragment may be there in the second one only, if nothing at all is in the relation with
everything. -/
theorem Measure.Keeps.all_of_bodies (keeps : m.Keeps rel)
    (found : ∀ name body, d.body? name = some body →
      ∃ body', e.body? name = some body' ∧ m.Replaceable rel e body body')
    (undefined : ∀ name, d.body? name = none → e.body? name = none ∨ ∀ a, rel m.nothing a)
    (active : Active) (ss : List Selection) : rel (m.all d active ss) (m.all e active ss) := by
  induction active, ss using walk_induction d with
  | nil active =>
    rw [m.all_nil, m.all_nil]
    exact keeps.nothing
  | field active f below rest ihb ihr =>
    rw [m.all_cons, m.all_cons, m.one_field, m.one_field]
    exact keeps.beside _ _ _ _ (keeps.field f _ _ ihb) ihr
  | inline active x below rest ihb ihr =>
    rw [m.all_cons, m.all_cons, m.one_inline, m.one_inline]
    exact keeps.beside _ _ _ _ ihb ihr
  | undefined active name ds rest missing ihr =>
    rw [m.all_cons, m.all_cons, m.one_undefined missing]
    refine keeps.beside _ _ _ _ ?_ ihr
    rcases undefined name missing with missing' | least
    · rw [m.one_undefined missing']
      exact keeps.nothing
    · exact least _
  | inside active name ds rest inside ihr =>
    rw [m.all_cons, m.all_cons, m.one_inside inside, m.one_inside inside]
    exact keeps.beside _ _ _ _ keeps.nothing ihr
  | entered active name ds rest body here outside ihb ihr =>
    obtain ⟨body', here', replaceable⟩ := found name body here
    rw [m.all_cons, m.all_cons, m.one_entered here outside, m.one_entered here' outside]
    -- First the same body in the other document, and then the other body there.
    exact keeps.beside _ _ _ _ (keeps.trans _ _ _ ihb (replaceable _)) ihr

/-- Of a document, selections are measured by nothing but its fragments. -/
theorem Measure.all_congr (m : Measure α) (same : ∀ name, d.body? name = e.body? name)
    (active : Active) (ss : List Selection) : m.all d active ss = m.all e active ss := by
  refine m.keeps_eq.all_of_bodies (fun name body found => ?_) (fun name missing => ?_) active ss
  · exact ⟨body, (same name).symm.trans found, m.keeps_eq.replaceable_refl body⟩
  · exact .inl ((same name).symm.trans missing)

theorem Measure.Keeps.operations (keeps : m.Keeps rel)
    {os os' : List (Option String × Operation)}
    (h : List.Forall₂ (fun o o' => rel (m.all d [] o.2.selections) (m.all e [] o'.2.selections))
      os os') :
    rel ((os.map fun o => m.all d [] o.2.selections).foldr m.beside m.nothing)
      ((os'.map fun o => m.all e [] o.2.selections).foldr m.beside m.nothing) := by
  induction h with
  | nil => exact keeps.nothing
  | cons first _ ih => exact keeps.beside _ _ _ _ first ih

theorem Measure.Keeps.document_of_counterparts (keeps : m.Keeps rel)
    (c : Counterparts (m.Replaceable rel e) d e) : rel (m.document d) (m.document e) := by
  have all := keeps.all_of_bodies (fun _ _ => c.found) (fun _ missing => .inl (c.undefined missing))
  rw [m.document_eq, m.document_eq]
  refine keeps.operations (c.operations.imp fun o o' h => ?_)
  exact keeps.trans _ _ _ (all [] o.2.selections) (h [])

/-- What holds of two parts that are measured in a relation holds of the documents that have them in
the same gap. -/
theorem Measure.Keeps.document_fill (keeps : m.Keeps rel) (lawful : m.Lawful) (gap : DocumentGap)
    {part part' : List Selection} (h : m.Replaceable rel (gap.fill part') part part') :
    rel (m.document (gap.fill part)) (m.document (gap.fill part')) :=
  keeps.document_of_counterparts
    (gap.counterparts_fill keeps.replaceable_refl (keeps.replaceable_fill lawful h))

end QueryGate.Analysis
