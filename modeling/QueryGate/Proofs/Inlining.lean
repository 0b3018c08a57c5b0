-- Writing a fragment in the place of a spread. The walk is then not inside
-- of the fragment there, so it may enter it once more: no measurement gets
-- smaller. Where no circle leads back to the fragment it is never entered
-- twice, and all measurements stay what they are.
import QueryGate.Proofs.Gaps

namespace QueryGate.Analysis

open GraphQL

variable {d e : Document} {name : String} {ds : List Directive} {x : InlineFragment}
  {body : List Selection}

/-! ## Never smaller -/

/-- A walk through selections with spreads written out is inside of no more fragments. Nothing can be
paired with anything, for what a guard has stopped only on the one side. -/
def InsideOfFewer (name : String) (ds : List Directive) (x : InlineFragment)
    (body : List Selection) : Pairing := fun active ss active' ss' =>
  ss = [] ∨ active' ⊆ active ∧ Exchanged (.spread name ds) [.inline x body] ss ss'

theorem insideOfFewer_continues
    (c : Counterparts (Exchanged (.spread name ds) [.inline x body]) d e)
    (found : d.body? name = some body) (active : Active) (ss : List Selection) (active' : Active)
    (ss' : List Selection) (h : InsideOfFewer name ds x body active ss active' ss') :
    Continues d e True (InsideOfFewer name ds x body) active active' ss ss' := by
  rcases h with rfl | ⟨fewer, exchanged⟩
  · exact .less trivial
  cases exchanged with
  | nil => exact .nil
  | field hbelow hrest => exact .field (.inr ⟨fewer, hbelow⟩) (.inr ⟨fewer, hrest⟩)
  | inline hbelow hrest =>
    exact .opened .inline .inline (.inr ⟨fewer, hbelow⟩) (.inr ⟨fewer, hrest⟩)
  | @spread name' ds' rest rest' hrest =>
    rcases hd : d.body? name' with _ | body'
    · exact .opened (.undefined hd) (.undefined (c.undefined hd)) (.inl rfl) (.inr ⟨fewer, hrest⟩)
    · by_cases inside : name' ∈ active
      -- The other walk may follow the spread all the same, and whatever it finds there is more.
      · obtain ⟨inner, body'', opens⟩ := exists_opens_spread e active' name' ds'
        exact .opened (.inside inside) opens (.inl rfl) (.inr ⟨fewer, hrest⟩)
      · obtain ⟨body'', he, hbody⟩ := c.found hd
        have outside : name' ∉ active' := fun h => inside (fewer h)
        have still_fewer : name' :: active' ⊆ name' :: active := List.cons_subset_cons _ fewer
        exact .opened (.entered hd inside) (.entered he outside) (.inr ⟨still_fewer, hbody⟩)
          (.inr ⟨fewer, hrest⟩)
  | @here rest rest' hrest =>
    by_cases inside : name ∈ active
    · exact .opened (.inside inside) .inline (.inl rfl) (.inr ⟨fewer, hrest⟩)
    · have still_fewer : active' ⊆ name :: active := fun n hn => List.mem_cons_of_mem _ (fewer hn)
      exact .opened (.entered found inside) .inline (.inr ⟨still_fewer, .refl body⟩)
        (.inr ⟨fewer, hrest⟩)

/-- No measure that grows with its parts gets smaller. -/
theorem document_le_of_inlined
    (c : Counterparts (Exchanged (.spread name ds) [.inline x body]) d e)
    (found : d.body? name = some body) {m : Measure Nat} (mono : Measure.Related (· ≤ ·) m m)
    (lawful : m.Lawful) (zero : m.nothing = 0) : m.document d ≤ m.document e := by
  refine mono.document lawful (fun _ n => ?_) (insideOfFewer_continues c found) ?_
  · rw [zero]
    exact Nat.zero_le n
  · exact pairedOperations_of_forall₂ c.operations fun o _ o' h => .inr ⟨List.Subset.refl _, h⟩

/-! ## The same where the guard has nothing to stop -/

/-- A walk never comes to a spread of a fragment while it is inside of that fragment. -/
def NeverStopped (d : Document) (name : String) : Prop :=
  ∀ active ds rest, Visits d active (.spread name ds :: rest) → name ∉ active

theorem neverStopped_of_not_reaches (h : ¬ Reaches d name name) : NeverStopped d name :=
  fun _ _ _ visits inside => h (visits.reaches_self inside)

/-- A walk through selections with spreads of one fragment written out is inside of the same
fragments, but perhaps not of that one. -/
def InsideButFor (d : Document) (name : String) (ds : List Directive) (x : InlineFragment)
    (body : List Selection) : Pairing := fun active ss active' ss' =>
  Visits d active ss ∧ active' ⊆ active ∧ active ⊆ name :: active' ∧
    Exchanged (.spread name ds) [.inline x body] ss ss'

theorem insideButFor_continues
    (c : Counterparts (Exchanged (.spread name ds) [.inline x body]) d e)
    (found : d.body? name = some body) (free : NeverStopped d name) (active : Active)
    (ss : List Selection) (active' : Active) (ss' : List Selection)
    (h : InsideButFor d name ds x body active ss active' ss') :
    Continues d e False (InsideButFor d name ds x body) active active' ss ss' := by
  obtain ⟨visits, fewer, more, exchanged⟩ := h
  cases exchanged with
  | nil => exact .nil
  | field hbelow hrest =>
    exact .field ⟨visits.field, fewer, more, hbelow⟩ ⟨visits.rest, fewer, more, hrest⟩
  | inline hbelow hrest =>
    exact .opened .inline .inline ⟨visits.opened .inline, fewer, more, hbelow⟩
      ⟨visits.rest, fewer, more, hrest⟩
  | @spread name' ds' rest rest' hrest =>
    have inside_iff : name' ∈ active ↔ name' ∈ active' := by
      refine ⟨fun inside => ?_, fun inside => fewer inside⟩
      rcases List.mem_cons.mp (more inside) with rfl | inside
      · exact absurd inside (free _ _ _ visits)
      · exact inside
    refine .same_spread c.undefined inside_iff (fun body' found' outside => ?_)
      ⟨visits.nil, fewer, more, .nil⟩ ⟨visits.rest, fewer, more, hrest⟩
    obtain ⟨body'', found'', hbody⟩ := c.found found'
    have still_more : name' :: active ⊆ name :: name' :: active' :=
      List.Subset.trans (List.cons_subset_cons _ more) (List.Perm.swap _ _ _).subset
    exact ⟨body'', found'', visits.opened (.entered found' outside), List.cons_subset_cons _ fewer,
      still_more, hbody⟩
  | @here rest rest' hrest =>
    -- From here on only the first walk is inside of the fragment.
    have outside : name ∉ active := free _ _ _ visits
    have opens : Opens d active (.spread name ds) (name :: active) body := .entered found outside
    exact .opened opens .inline
      ⟨visits.opened opens, fun n hn => List.mem_cons_of_mem _ (fewer hn),
        List.cons_subset.mpr ⟨List.mem_cons_self, more⟩, .refl body⟩
      ⟨visits.rest, fewer, more, hrest⟩

/-- No measure changes at all where the guard never stops a spread of the fragment. -/
theorem document_eq_of_inlined {α : Type}
    (c : Counterparts (Exchanged (.spread name ds) [.inline x body]) d e)
    (found : d.body? name = some body) (free : NeverStopped d name) {m : Measure α}
    (lawful : m.Lawful) : m.document d = m.document e := by
  refine (Measure.Related.refl m).document lawful False.elim (insideButFor_continues c found free) ?_
  refine pairedOperations_of_forall₂ c.operations fun o ho o' h => ?_
  exact ⟨.operation ho, List.Subset.refl _, List.subset_cons_self _ _, h⟩

/-! ## Every spread written out -/

/-- The same selections with every spread written out: the body of its fragment, in which every spread
is written out again, stands in its place, and a spread of no fragment is dropped. -/
inductive WrittenOut (d : Document) : List Selection → List Selection → Prop where
  | nil : WrittenOut d [] []
  | field {f : Field} {below below' rest rest' : List Selection} :
    WrittenOut d below below' → WrittenOut d rest rest' →
    WrittenOut d (.field f below :: rest) (.field f below' :: rest')
  | inline {x : InlineFragment} {below below' rest rest' : List Selection} :
    WrittenOut d below below' → WrittenOut d rest rest' →
    WrittenOut d (.inline x below :: rest) (.inline x below' :: rest')
  | dropped {name : String} {ds : List Directive} {rest rest' : List Selection} :
    d.body? name = none → WrittenOut d rest rest' →
    WrittenOut d (.spread name ds :: rest) rest'
  | spread {name : String} {ds : List Directive} {x : InlineFragment}
    {body body' rest rest' : List Selection} :
    d.body? name = some body → WrittenOut d body body' → WrittenOut d rest rest' →
    WrittenOut d (.spread name ds :: rest) (.inline x body' :: rest')

/-- One document is another one with every spread written out: it has the same operations but for
that, and no fragments. -/
structure IsWrittenOut (d e : Document) : Prop where
  operations : List.Forall₂
    (fun o o' => o'.1 = o.1 ∧
      ∃ ss, o'.2 = { o.2 with selections := ss } ∧ WrittenOut d o.2.selections ss)
    d.operationList e.operationList
  fragments : e.fragments = []

theorem WrittenOut.spreads_eq_nil {ss ss' : List Selection} (h : WrittenOut d ss ss') :
    spreadsInAll ss' = [] := by
  induction h with
  | nil => rfl
  | field _ _ ihb ihr => simp [spreadsInAll, spreadsIn, ihb, ihr]
  | inline _ _ ihb ihr => simp [spreadsInAll, spreadsIn, ihb, ihr]
  | dropped _ _ ih => exact ih
  | spread _ _ _ ihb ihr => simp [spreadsInAll, spreadsIn, ihb, ihr]

theorem IsWrittenOut.spreads_eq_nil (h : IsWrittenOut d e) :
    ∀ o ∈ e.operationList, spreadsInAll o.2.selections = [] := by
  have each := h.operations
  generalize d.operationList = os, e.operationList = os' at each
  induction each with
  | nil => exact fun o ho => absurd ho List.not_mem_nil
  | cons ho _ ih =>
    obtain ⟨-, ss, same, written⟩ := ho
    intro o' ho'
    rcases List.mem_cons.mp ho' with rfl | ho'
    · rw [same]
      exact written.spreads_eq_nil
    · exact ih o' ho'

/-- Without circles every place that a walk comes to can be written out. -/
theorem exists_writtenOut (acyclic : Acyclic d) {active : Active} {ss : List Selection}
    (visits : Visits d active ss) : ∃ ss', WrittenOut d ss ss' := by
  induction active, ss using walk_induction d with
  | nil active => exact ⟨[], .nil⟩
  | field active f below rest ihb ihr =>
    obtain ⟨below', hb⟩ := ihb visits.field
    obtain ⟨rest', hr⟩ := ihr visits.rest
    exact ⟨_, .field hb hr⟩
  | inline active x below rest ihb ihr =>
    obtain ⟨below', hb⟩ := ihb (visits.opened .inline)
    obtain ⟨rest', hr⟩ := ihr visits.rest
    exact ⟨_, .inline hb hr⟩
  | undefined active name ds rest missing ihr =>
    obtain ⟨rest', hr⟩ := ihr visits.rest
    exact ⟨rest', .dropped missing hr⟩
  | inside active name ds rest inside ihr => exact absurd (visits.reaches_self inside) (acyclic name)
  | entered active name ds rest body found outside ihb ihr =>
    obtain ⟨body', hb⟩ := ihb (visits.opened (.entered found outside))
    obtain ⟨rest', hr⟩ := ihr visits.rest
    exact ⟨.inline {} body' :: rest', .spread found hb hr⟩

/-- The operations with their selections replaced. -/
def mapSelections (f : List Selection → List Selection) : Operations → Operations
  | .single o => .single { o with selections := f o.selections }
  | .named os => .named (os.map fun (name, o) => (name, { o with selections := f o.selections }))

theorem mapSelections_toList (f : List Selection → List Selection) (os : Operations) :
    (mapSelections f os).toList =
      os.toList.map fun o => (o.1, { o.2 with selections := f o.2.selections }) := by
  cases os with
  | single o => rfl
  | named os => simp [mapSelections, Operations.toList]

theorem exists_isWrittenOut (acyclic : Acyclic d) : ∃ e, IsWrittenOut d e := by
  have each (ss : List Selection) : ∃ ss', Visits d [] ss → WrittenOut d ss ss' := by
    by_cases visits : Visits d [] ss
    · obtain ⟨ss', h⟩ := exists_writtenOut acyclic visits
      exact ⟨ss', fun _ => h⟩
    · exact ⟨[], fun h => absurd h visits⟩
  choose write written using each
  refine ⟨{ operations := mapSelections write d.operations, fragments := [] }, ?_, rfl⟩
  unfold Document.operationList
  rw [mapSelections_toList, List.forall₂_map_right_iff, List.forall₂_same]
  intro o ho
  exact ⟨rfl, _, rfl, written _ (.operation ho)⟩

theorem writtenOut_continues (acyclic : Acyclic d) (e : Document) (active : Active)
    (ss : List Selection) (active' : Active) (ss' : List Selection)
    (h : Visits d active ss ∧ WrittenOut d ss ss') :
    Continues d e False (fun active ss _ ss' => Visits d active ss ∧ WrittenOut d ss ss') active
      active' ss ss' := by
  obtain ⟨visits, written⟩ := h
  cases written with
  | nil => exact .nil
  | field hbelow hrest => exact .field ⟨visits.field, hbelow⟩ ⟨visits.rest, hrest⟩
  | inline hbelow hrest =>
    exact .opened .inline .inline ⟨visits.opened .inline, hbelow⟩ ⟨visits.rest, hrest⟩
  | @dropped name ds rest _ missing hrest =>
    have opens : Opens d active (.spread name ds) active [] := .undefined missing
    rw [← List.nil_append ss']
    exact .spliced opens ⟨visits.opened opens, .nil⟩ ⟨visits.rest, hrest⟩
  | @spread name ds x body body' rest rest' found hbody hrest =>
    have outside : name ∉ active := fun inside => acyclic name (visits.reaches_self inside)
    have opens : Opens d active (.spread name ds) (name :: active) body := .entered found outside
    exact .opened opens .inline ⟨visits.opened opens, hbody⟩ ⟨visits.rest, hrest⟩

/-- Without circles no measure changes when every spread is written out. -/
theorem document_eq_of_isWrittenOut {α : Type} (acyclic : Acyclic d) (h : IsWrittenOut d e)
    {m : Measure α} (lawful : m.Lawful) : m.document d = m.document e := by
  refine (Measure.Related.refl m).document lawful False.elim (writtenOut_continues acyclic e) ?_
  refine pairedOperations_of_forall₂ h.operations ?_
  rintro o ho o' ⟨-, ss, same, written⟩
  rw [same]
  exact ⟨.operation ho, written⟩

/-! ## The whole of it -/

/-- Writing the body of a fragment in the place of one of its spreads, wherever that is and however the
fragments go in circles, makes no document less deep and none cheaper; and if no chain of spreads
leads from the fragment back to it, all that is measured stays the same.

So a document without circles is measured like one without fragments, that has the body of its fragment
in the place of every spread. -/
theorem inlining_is_never_cheaper_and_neutral_without_circles :
    (∀ (gap : DocumentGap) (name : String) (ds : List Directive) (x : InlineFragment)
      (body : List Selection),
      let d := gap.fill [.spread name ds]
      let e := gap.fill [.inline x body]
      d.body? name = some body →
      (depth d ≤ depth e ∧ ∀ m : CostModel, m.estimate d ≤ m.estimate e) ∧
      (¬ Reaches d name name → MeasuredAlike d e)) ∧
    (∀ d : Document, Acyclic d →
      (∃ e, IsWrittenOut d e) ∧
      ∀ e, IsWrittenOut d e →
        e.fragments = [] ∧ (∀ o ∈ e.operationList, spreadsInAll o.2.selections = []) ∧
          MeasuredAlike d e) := by
  constructor
  · intro gap name ds x body d e found
    have c : Counterparts (Exchanged (.spread name ds) [.inline x body]) d e := gap.counterparts
    constructor
    · apply measured_le_of_document_le
      intro m mono lawful zero
      exact document_le_of_inlined c found mono lawful zero
    · intro no_circle
      apply measuredAlike_of_document_eq
      intro m lawful
      exact document_eq_of_inlined c found (neverStopped_of_not_reaches no_circle) lawful
  · intro d acyclic
    refine ⟨exists_isWrittenOut acyclic, fun e h => ⟨h.fragments, ?_, ?_⟩⟩
    · exact h.spreads_eq_nil
    · apply measuredAlike_of_document_eq
      intro m lawful
      exact document_eq_of_isWrittenOut acyclic h lawful

/-- A fragment that spreads itself below a field makes a document deeper where its body is written in
the place of that spread. One that spreads nothing can be written out. -/
theorem deeper_in_a_circle :
    let f : Field := { name := "f" }
    let o : Operation := { type := .query, selections := [.spread "A" []] }
    let gap : DocumentGap :=
      .fragment (.single o) [] "A" { selections := [] } (.field f (.here []) []) []
    let circle := gap.fill [.spread "A" []]
    let deeper := gap.fill [.inline {} [.field f [.spread "A" []]]]
    let plain := gap.fill []
    (depth circle = 1 ∧ depth deeper = 2 ∧ depth circle ≤ depth deeper) ∧
    (Acyclic plain ∧ ∃ e, e.fragments = [] ∧ MeasuredAlike plain e) := by
  intro f o gap circle deeper plain
  obtain ⟨one_written, all_written⟩ := inlining_is_never_cheaper_and_neutral_without_circles
  have operation : circle.operationList = [(none, o)] := rfl
  have operation' : deeper.operationList = [(none, o)] := rfl
  have found : circle.body? "A" = some [.field f [.spread "A" []]] := rfl
  have found' : deeper.body? "A" = some [.field f [.inline {} [.field f [.spread "A" []]]]] := rfl
  refine ⟨⟨?_, ?_, (one_written gap "A" [] {} _ found).1.1⟩, ?_⟩
  · simp [depth, Measure.document_eq, operation, o, Measure.one_entered _ found,
      Measure.one_inside, depthMeasure]
  · simp [depth, Measure.document_eq, operation', o, Measure.one_entered _ found',
      Measure.one_inside, depthMeasure]
  · have spreads_nothing (a b : String) : ¬ Spreads plain a b := by
      rintro ⟨body, found, hb⟩
      obtain ⟨g, hg, rfl⟩ := exists_fragment_of_body?_eq_some found
      obtain ⟨-, rfl⟩ : a = "A" ∧ g = { selections := [.field f []] } := by
        simpa [plain, gap, DocumentGap.fill, Gap.fill] using hg
      simp [spreadsInAll, spreadsIn] at hb
    have acyclic : Acyclic plain := by
      intro name leads
      cases leads with
      | single last => exact spreads_nothing _ _ last
      | tail _ last => exact spreads_nothing _ _ last
    obtain ⟨⟨e, written⟩, each⟩ := all_written plain acyclic
    exact ⟨acyclic, e, (each e written).1, (each e written).2.2⟩

end QueryGate.Analysis
