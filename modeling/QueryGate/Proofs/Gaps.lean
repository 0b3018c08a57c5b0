-- Documents with a gap: one place, in an operation or a fragment and at
-- any depth, where some selections are left out. Whatever happens to a
-- part of a document is filling its gap with one thing or with another.
import QueryGate.Proofs.SideBySide

namespace QueryGate.Analysis

open GraphQL

/-! ## Gaps -/

/-- Selections with a gap: in front, somewhere behind the first one, or below the first one. -/
inductive Gap where
  | here (after : List Selection)
  | later (s : Selection) (gap : Gap)
  | field (f : Field) (gap : Gap) (after : List Selection)
  | inline (x : InlineFragment) (gap : Gap) (after : List Selection)

/-- The selections with the gap filled. -/
def Gap.fill : Gap → List Selection → List Selection
  | .here after, part => part ++ after
  | .later s gap, part => s :: gap.fill part
  | .field f gap after, part => .field f (gap.fill part) :: after
  | .inline x gap after, part => .inline x (gap.fill part) :: after

/-- A document with a gap in its only operation, in one of its named ones, or in a fragment. -/
inductive DocumentGap where
  | single (o : Operation) (gap : Gap) (fragments : List (String × Fragment))
  | named (before : List (String × Operation)) (name : String) (o : Operation) (gap : Gap)
    (after : List (String × Operation)) (fragments : List (String × Fragment))
  | fragment (operations : Operations) (before : List (String × Fragment)) (name : String)
    (f : Fragment) (gap : Gap) (after : List (String × Fragment))

/-- The document with its gap filled. -/
def DocumentGap.fill : DocumentGap → List Selection → Document
  | .single o gap fragments, part =>
    { operations := .single { o with selections := gap.fill part }, fragments }
  | .named before name o gap after fragments, part =>
    { operations := .named (before ++ (name, { o with selections := gap.fill part }) :: after)
      fragments }
  | .fragment operations before name f gap after, part =>
    { operations
      fragments := before ++ (name, { f with selections := gap.fill part }) :: after }

/-- The fragment that the gap is in. -/
def DocumentGap.host? : DocumentGap → Option String
  | .fragment _ _ name _ _ _ => some name
  | _ => none

/-! ## Documents that differ in places -/

/-- Two documents have operations and fragments that correspond, with related selections. -/
structure Counterparts (R : List Selection → List Selection → Prop) (d e : Document) : Prop where
  operations : List.Forall₂ (fun o o' => R o.2.selections o'.2.selections) d.operationList
    e.operationList
  found : ∀ {name body}, d.body? name = some body → ∃ body', e.body? name = some body' ∧ R body body'
  undefined : ∀ {name}, d.body? name = none → e.body? name = none

theorem Counterparts.undefined_iff {R : List Selection → List Selection → Prop}
    {d e : Document} (c : Counterparts R d e) {name : String} :
    d.body? name = none ↔ e.body? name = none := by
  refine ⟨c.undefined, fun missing => ?_⟩
  rcases hd : d.body? name with _ | body
  · rfl
  · obtain ⟨body', found, -⟩ := c.found hd
    rw [missing] at found
    cases found

/-- Fragments that correspond one by one are found under the same names. -/
theorem lookup_of_forall₂ {R : List Selection → List Selection → Prop}
    {fs fs' : List (String × Fragment)}
    (h : List.Forall₂ (fun f f' => f'.1 = f.1 ∧ R f.2.selections f'.2.selections) fs fs')
    (name : String) :
    (fs.lookup name = none ∧ fs'.lookup name = none) ∨
      ∃ f f', fs.lookup name = some f ∧ fs'.lookup name = some f' ∧
        R f.selections f'.selections := by
  induction h with
  | nil => exact .inl ⟨rfl, rfl⟩
  | @cons f f' fs fs' hf _ ih =>
    obtain ⟨key, f⟩ := f
    obtain ⟨key', f'⟩ := f'
    obtain ⟨rfl, hR⟩ : key' = key ∧ R f.selections f'.selections := hf
    rw [List.lookup_cons, List.lookup_cons]
    by_cases hn : name = key'
    · right
      simp [hn, hR]
    · have : (name == key') = false := by simpa using hn
      simpa [this] using ih

theorem counterparts_of_forall₂ {R : List Selection → List Selection → Prop} {d e : Document}
    (operations : List.Forall₂ (fun o o' => R o.2.selections o'.2.selections) d.operationList
      e.operationList)
    (fragments : List.Forall₂ (fun f f' => f'.1 = f.1 ∧ R f.2.selections f'.2.selections)
      d.fragments e.fragments) : Counterparts R d e := by
  refine ⟨operations, ?_, ?_⟩
  · intro name body found
    unfold Document.body? at found ⊢
    rcases lookup_of_forall₂ fragments name with ⟨none_d, -⟩ | ⟨f, f', some_d, some_e, hR⟩
    · rw [none_d] at found
      cases found
    · rw [some_d] at found
      cases found
      exact ⟨f'.selections, by rw [some_e]; rfl, hR⟩
  · intro name missing
    unfold Document.body? at missing ⊢
    rcases lookup_of_forall₂ fragments name with ⟨-, none_e⟩ | ⟨f, f', some_d, -, -⟩
    · rw [none_e]
      rfl
    · rw [some_d] at missing
      cases missing

/-- A gap that is filled with two things makes counterparts, if the selections around it are related
to each other, and as filled with the one thing to as filled with the other. -/
theorem DocumentGap.counterparts_fill {R : List Selection → List Selection → Prop}
    {part part' : List Selection} (gap : DocumentGap) (refl : ∀ ss, R ss ss)
    (fill : ∀ gap : Gap, R (gap.fill part) (gap.fill part')) :
    Counterparts R (gap.fill part) (gap.fill part') := by
  have same_operations (os : List (Option String × Operation)) :
      List.Forall₂ (fun o o' => R o.2.selections o'.2.selections) os os :=
    List.forall₂_same.mpr fun o _ => refl _
  have same_fragments (fs : List (String × Fragment)) :
      List.Forall₂ (fun f f' => f'.1 = f.1 ∧ R f.2.selections f'.2.selections) fs fs :=
    List.forall₂_same.mpr fun f _ => ⟨rfl, refl _⟩
  cases gap with
  | single o gap fragments =>
    exact counterparts_of_forall₂ (.cons (fill gap) .nil) (same_fragments fragments)
  | named before name o gap after fragments =>
    refine counterparts_of_forall₂ ?_ (same_fragments fragments)
    simp only [DocumentGap.fill, Document.operationList, Operations.toList, List.map_append,
      List.map_cons]
    exact List.rel_append (same_operations _) (.cons (fill gap) (same_operations _))
  | fragment operations before name f gap after =>
    refine counterparts_of_forall₂ (same_operations _) ?_
    exact List.rel_append (same_fragments before)
      (.cons ⟨rfl, fill gap⟩ (same_fragments after))

/-- The same selections, but that in some places one side has `s` and the other `part`. -/
inductive Exchanged (s : Selection) (part : List Selection) :
    List Selection → List Selection → Prop where
  | nil : Exchanged s part [] []
  | field {f : Field} {below below' rest rest' : List Selection} :
    Exchanged s part below below' → Exchanged s part rest rest' →
    Exchanged s part (.field f below :: rest) (.field f below' :: rest')
  | inline {x : InlineFragment} {below below' rest rest' : List Selection} :
    Exchanged s part below below' → Exchanged s part rest rest' →
    Exchanged s part (.inline x below :: rest) (.inline x below' :: rest')
  | spread {name : String} {ds : List Directive} {rest rest' : List Selection} :
    Exchanged s part rest rest' →
    Exchanged s part (.spread name ds :: rest) (.spread name ds :: rest')
  | here {rest rest' : List Selection} :
    Exchanged s part rest rest' → Exchanged s part (s :: rest) (part ++ rest')

section

variable {s : Selection} {part : List Selection}

theorem Exchanged.refl (ss : List Selection) : Exchanged s part ss ss := by
  match ss with
  | [] => exact .nil
  | .field f below :: rest => exact .field (.refl below) (.refl rest)
  | .inline x below :: rest => exact .inline (.refl below) (.refl rest)
  | .spread name ds :: rest => exact .spread (.refl rest)

theorem Exchanged.cons (s' : Selection) {rest rest' : List Selection}
    (h : Exchanged s part rest rest') : Exchanged s part (s' :: rest) (s' :: rest') := by
  cases s' with
  | field f below => exact .field (.refl below) h
  | inline x below => exact .inline (.refl below) h
  | spread name ds => exact .spread h

theorem Gap.exchanged (gap : Gap) : Exchanged s part (gap.fill [s]) (gap.fill part) := by
  induction gap with
  | here after => exact .here (.refl after)
  | later s' gap ih => exact ih.cons s'
  | field f gap after ih => exact .field ih (.refl after)
  | inline x gap after ih => exact .inline ih (.refl after)

theorem DocumentGap.counterparts (gap : DocumentGap) :
    Counterparts (Exchanged s part) (gap.fill [s]) (gap.fill part) :=
  gap.counterparts_fill .refl Gap.exchanged

end

end QueryGate.Analysis
