-- Moving a part of a document into a fragment of its own. The new fragment
-- is spread in one place only, and a walk that is inside of it is inside
-- of the fragment with that place too; so it never comes there again, and
-- nothing that is measured changes, circles or not.
import QueryGate.Proofs.Inlining

namespace QueryGate.Analysis

open GraphQL

variable {d e : Document} {name : String} {part : List Selection}

/-! ## Wrapping a part -/

/-- Two walks are inside of the same fragments, and come to the same selections but for parts that are
wrapped on one side. -/
def Wrapped (x : InlineFragment) (part : List Selection) : Pairing := fun active ss active' ss' =>
  active' = active ∧ Exchanged (.inline x part) part ss ss'

theorem wrapped_continues {x : InlineFragment}
    (c : Counterparts (Exchanged (.inline x part) part) d e) (active : Active)
    (ss : List Selection) (active' : Active) (ss' : List Selection)
    (h : Wrapped x part active ss active' ss') :
    Continues d e False (Wrapped x part) active active' ss ss' := by
  obtain ⟨rfl, exchanged⟩ := h
  cases exchanged with
  | nil => exact .nil
  | field hbelow hrest => exact .field ⟨rfl, hbelow⟩ ⟨rfl, hrest⟩
  | inline hbelow hrest => exact .opened .inline .inline ⟨rfl, hbelow⟩ ⟨rfl, hrest⟩
  | spread hrest =>
    refine .same_spread c.undefined Iff.rfl (fun body found _ => ?_) ⟨rfl, .nil⟩ ⟨rfl, hrest⟩
    obtain ⟨body', found', hbody⟩ := c.found found
    exact ⟨body', found', rfl, hbody⟩
  | here hrest => exact .spliced .inline ⟨rfl, .refl part⟩ ⟨rfl, hrest⟩

theorem document_eq_of_wrapped {α : Type} {x : InlineFragment}
    (c : Counterparts (Exchanged (.inline x part) part) d e) {m : Measure α} (lawful : m.Lawful) :
    m.document d = m.document e := by
  refine (Measure.Related.refl m).document lawful False.elim (wrapped_continues c) ?_
  exact pairedOperations_of_forall₂ c.operations fun o _ o' h => ⟨rfl, h⟩

/-! ## One more definition -/

/-- A document with the definition of one more fragment, somewhere among the others. -/
structure Extends (name : String) (f : Fragment) (d e : Document) : Prop where
  operations : e.operations = d.operations
  fragments : ∃ before after, d.fragments = before ++ after ∧
    e.fragments = before ++ (name, f) :: after

/-- A name that occurs nowhere in a document: no fragment goes by it, and none of that name is
spread. -/
structure Fresh (name : String) (d : Document) : Prop where
  undefined : ∀ f ∈ d.fragments, f.1 ≠ name
  operations : ∀ o ∈ d.operationList, name ∉ spreadsInAll o.2.selections
  fragments : ∀ f ∈ d.fragments, name ∉ spreadsInAll f.2.selections

section

variable {f : Fragment} (extended : Extends name f d e)

include extended

theorem Extends.operationList_eq : e.operationList = d.operationList := by
  unfold Document.operationList
  rw [extended.operations]

theorem Extends.body?_of_ne {name' : String} (ne : name' ≠ name) : e.body? name' = d.body? name' := by
  obtain ⟨before, after, hd, he⟩ := extended.fragments
  have hn : (name' == name) = false := by simpa using ne
  unfold Document.body?
  rw [hd, he, List.lookup_append, List.lookup_append, List.lookup_cons, hn]

theorem Extends.body?_self (undefined : d.body? name = none) : e.body? name = some f.selections := by
  obtain ⟨before, after, hd, he⟩ := extended.fragments
  unfold Document.body? at undefined ⊢
  rw [hd, List.lookup_append, Option.map_eq_none_iff, Option.or_eq_none_iff] at undefined
  rw [he, List.lookup_append, undefined.1, List.lookup_cons_self]
  rfl

theorem Extends.mem_fragments {g : String × Fragment} (hg : g ∈ e.fragments) :
    g = (name, f) ∨ g ∈ d.fragments := by
  obtain ⟨before, after, hd, he⟩ := extended.fragments
  rw [he] at hg
  rw [hd]
  simp only [List.mem_append, List.mem_cons] at hg ⊢
  tauto

end

theorem Fresh.body?_eq_none (fresh : Fresh name d) : d.body? name = none := by
  rcases found : d.body? name with _ | body
  · rfl
  · obtain ⟨f, hf, -⟩ := exists_fragment_of_body?_eq_some found
    exact absurd rfl (fresh.undefined _ hf)

theorem Fresh.not_mem_body (fresh : Fresh name d) {name' : String} {body : List Selection}
    (found : d.body? name' = some body) : name ∉ spreadsInAll body := by
  obtain ⟨f, hf, rfl⟩ := exists_fragment_of_body?_eq_some found
  exact fresh.fragments _ hf

/-- A walk comes to the same places whether or not a fragment is defined that is spread nowhere. -/
theorem unspread_continues {f : Fragment} (extended : Extends name f d e) (fresh : Fresh name d)
    (active : Active) (ss : List Selection) (active' : Active) (ss' : List Selection)
    (h : active' = active ∧ ss' = ss ∧ name ∉ spreadsInAll ss) :
    Continues d e False (fun active ss active' ss' =>
      active' = active ∧ ss' = ss ∧ name ∉ spreadsInAll ss) active active' ss ss' := by
  obtain ⟨rfl, rfl, absent⟩ := h
  match ss' with
  | [] => exact .nil
  | .field g below :: rest =>
    have hb := fun h => absent (mem_spreadsInAll_field rest h)
    have hr := fun h => absent (mem_spreadsInAll_tail _ h)
    exact .field ⟨rfl, rfl, hb⟩ ⟨rfl, rfl, hr⟩
  | .inline x below :: rest =>
    have hb := fun h => absent (mem_spreadsInAll_inline rest h)
    have hr := fun h => absent (mem_spreadsInAll_tail _ h)
    exact .opened .inline .inline ⟨rfl, rfl, hb⟩ ⟨rfl, rfl, hr⟩
  | .spread name' ds :: rest =>
    have hr := fun h => absent (mem_spreadsInAll_tail _ h)
    have ne : name' ≠ name := fun h => absent (h ▸ mem_spreadsInAll_spread _ _ _)
    have same := extended.body?_of_ne ne
    refine .same_spread same.trans Iff.rfl (fun body found _ => ?_) ⟨rfl, rfl, List.not_mem_nil⟩
      ⟨rfl, rfl, hr⟩
    exact ⟨body, same.trans found, rfl, rfl, fresh.not_mem_body found⟩

theorem document_eq_of_extends {α : Type} {f : Fragment} (extended : Extends name f d e)
    (fresh : Fresh name d) {m : Measure α} (lawful : m.Lawful) : m.document d = m.document e := by
  refine (Measure.Related.refl m).document lawful False.elim (unspread_continues extended fresh) ?_
  unfold PairedOperations
  rw [extended.operationList_eq, List.forall₂_same]
  exact fun o ho => ⟨rfl, rfl, fresh.operations o ho⟩

/-! ## A fragment with one host -/

/-- A fragment is spread in one fragment at most, its host, which is another one; and if any operation
spreads it, there is no host. -/
structure HasHost (name : String) (host? : Option String) (d : Document) : Prop where
  operations : ∀ o ∈ d.operationList, name ∈ spreadsInAll o.2.selections → host? = none
  fragments : ∀ f ∈ d.fragments, name ∈ spreadsInAll f.2.selections → host? = some f.1
  another : host? ≠ some name

/-- A walk that is inside of the fragment is inside of its host; and where it comes to a spread of the
fragment it is inside of the host, but not of the fragment. -/
theorem Visits.inside_host {host? : Option String} (h : HasHost name host? d) {active : Active}
    {ss : List Selection} (visits : Visits d active ss) :
    (name ∈ active → ∀ host ∈ host?, host ∈ active) ∧
      (name ∈ spreadsInAll ss → name ∉ active ∧ ∀ host ∈ host?, host ∈ active) := by
  induction visits with
  | operation ho =>
    refine ⟨fun inside => absurd inside List.not_mem_nil, fun spread => ⟨List.not_mem_nil, ?_⟩⟩
    rw [h.operations _ ho spread]
    exact fun host none => by cases none
  | rest _ ih => exact ⟨ih.1, fun spread => ih.2 (mem_spreadsInAll_tail _ spread)⟩
  | field _ ih => exact ⟨ih.1, fun spread => ih.2 (mem_spreadsInAll_field _ spread)⟩
  | @opened active inner s body rest _ opens ih =>
    cases opens with
    | inline => exact ⟨ih.1, fun spread => ih.2 (mem_spreadsInAll_inline _ spread)⟩
    | undefined _ => exact ⟨ih.1, fun spread => absurd spread List.not_mem_nil⟩
    | inside _ => exact ⟨ih.1, fun spread => absurd spread List.not_mem_nil⟩
    | @entered name' ds _ found outside =>
      constructor
      · intro inside host isHost
        rcases List.mem_cons.mp inside with rfl | inside
        · have hosts := (ih.2 (mem_spreadsInAll_spread _ _ _)).2
          exact List.mem_cons_of_mem _ (hosts host isHost)
        · exact List.mem_cons_of_mem _ (ih.1 inside host isHost)
      · intro spread
        obtain ⟨f, hf, rfl⟩ := exists_fragment_of_body?_eq_some found
        have here : host? = some name' := h.fragments _ hf spread
        refine ⟨fun inside => ?_, fun host isHost => ?_⟩
        · rcases List.mem_cons.mp inside with rfl | inside
          · exact h.another here
          · exact outside (ih.1 inside name' here)
        · obtain rfl : host = name' := Option.some.inj (isHost.symm.trans here)
          exact List.mem_cons_self

theorem neverStopped_of_hasHost {host? : Option String} (h : HasHost name host? d) :
    NeverStopped d name :=
  fun _ _ _ visits => ((visits.inside_host h).2 (mem_spreadsInAll_spread _ _ _)).1

/-! ## Putting the part in a fragment of its own -/

theorem mem_spreadsInAll_fill {gap : Gap} (h : name ∈ spreadsInAll part) :
    name ∈ spreadsInAll (gap.fill part) := by
  induction gap with
  | here after =>
    rw [Gap.fill, spreadsInAll_append]
    exact List.mem_append_left _ h
  | later s gap ih => exact mem_spreadsInAll_tail s ih
  | field f gap after ih => exact mem_spreadsInAll_field after ih
  | inline x gap after ih => exact mem_spreadsInAll_inline after ih

theorem Fresh.not_mem_part {gap : DocumentGap} (fresh : Fresh name (gap.fill part)) :
    name ∉ spreadsInAll part := by
  intro h
  cases gap with
  | single o gap fragments =>
    exact fresh.operations _ List.mem_cons_self (mem_spreadsInAll_fill h)
  | named before key o gap after fragments =>
    have here : (some key, { o with selections := gap.fill part }) ∈
        ((DocumentGap.named before key o gap after fragments).fill part).operationList := by
      simp [DocumentGap.fill, Document.operationList, Operations.toList]
    exact fresh.operations _ here (mem_spreadsInAll_fill h)
  | fragment operations before key f gap after =>
    have here : (key, { f with selections := gap.fill part }) ∈
        ((DocumentGap.fragment operations before key f gap after).fill part).fragments :=
      List.mem_append_right _ List.mem_cons_self
    exact fresh.fragments _ here (mem_spreadsInAll_fill h)

/-- A fragment that occurs nowhere has, once it is spread in a gap, the fragment with the gap as its
host. -/
theorem Fresh.hasHost {gap : DocumentGap} {ds : List Directive} (fresh : Fresh name (gap.fill part)) :
    HasHost name gap.host? (gap.fill [.spread name ds]) := by
  cases gap with
  | single o gap fragments =>
    exact ⟨fun _ _ _ => rfl, fun f hf h => absurd h (fresh.fragments f hf), nofun⟩
  | named before key o gap after fragments =>
    exact ⟨fun _ _ _ => rfl, fun f hf h => absurd h (fresh.fragments f hf), nofun⟩
  | fragment operations before key f gap after =>
    refine ⟨fun o ho h => absurd h (fresh.operations o ho), fun g hg h => ?_, fun h => ?_⟩
    · rcases List.mem_append.mp hg with hg | hg
      · exact absurd h (fresh.fragments g (List.mem_append_left _ hg))
      · rcases List.mem_cons.mp hg with rfl | hg
        · rfl
        · exact absurd h (fresh.fragments g (List.mem_append_right _ (List.mem_cons_of_mem _ hg)))
    · exact fresh.undefined _ (List.mem_append_right _ List.mem_cons_self) (Option.some.inj h)

theorem HasHost.extends {host? : Option String} {f : Fragment} (h : HasHost name host? d)
    (absent : name ∉ spreadsInAll f.selections) (extended : Extends name f d e) :
    HasHost name host? e := by
  refine ⟨?_, fun g hg spread => ?_, h.another⟩
  · rw [extended.operationList_eq]
    exact h.operations
  · rcases extended.mem_fragments hg with rfl | hg
    · exact absurd spread absent
    · exact h.fragments g hg spread

/-- Two documents still have counterparts if each has the definition of the same fragment added. -/
theorem Counterparts.extends {R : List Selection → List Selection → Prop} {f : Fragment}
    {d' e' : Document} (c : Counterparts R d e) (same : R f.selections f.selections)
    (undefined : d.body? name = none) (extended : Extends name f d d')
    (extended' : Extends name f e e') : Counterparts R d' e' := by
  have found_d := extended.body?_self undefined
  have found_e := extended'.body?_self (c.undefined undefined)
  refine ⟨?_, fun {name' body} found => ?_, fun {name'} missing => ?_⟩
  · rw [extended.operationList_eq, extended'.operationList_eq]
    exact c.operations
  · by_cases h : name' = name
    · subst h
      obtain rfl : f.selections = body := Option.some.inj (found_d.symm.trans found)
      exact ⟨_, found_e, same⟩
    · rw [extended.body?_of_ne h] at found
      rw [extended'.body?_of_ne h]
      exact c.found found
  · have h : name' ≠ name := fun h => by simp [h, found_d] at missing
    rw [extended.body?_of_ne h] at missing
    rw [extended'.body?_of_ne h]
    exact c.undefined missing

/-- No measure changes when a part is put in a fragment of its own. -/
theorem document_eq_of_factored {α : Type} {f : Fragment} {ds : List Directive} (gap : DocumentGap)
    (fresh : Fresh name (gap.fill f.selections))
    (extended : Extends name f (gap.fill [.spread name ds]) e) {m : Measure α} (lawful : m.Lawful) :
    m.document (gap.fill f.selections) = m.document e := by
  let d := gap.fill f.selections
  let spread := gap.fill [.spread name ds]
  let wrapped := gap.fill [.inline {} f.selections]
  have undefined : d.body? name = none := fresh.body?_eq_none
  have spread_undefined : spread.body? name = none := gap.counterparts.undefined_iff.mpr undefined
  have wrapped_undefined : wrapped.body? name = none := gap.counterparts.undefined_iff.mpr undefined
  -- The fragment is defined first and spread last, so that its definition is there in both of the
  -- documents that differ in a spread.
  let defined : Document := { d with fragments := (name, f) :: d.fragments }
  let both : Document := { wrapped with fragments := (name, f) :: wrapped.fragments }
  have defined_extends : Extends name f d defined := ⟨rfl, [], d.fragments, rfl, rfl⟩
  have both_extends : Extends name f wrapped both := ⟨rfl, [], wrapped.fragments, rfl, rfl⟩
  have free : NeverStopped e name :=
    neverStopped_of_hasHost (fresh.hasHost.extends fresh.not_mem_part extended)
  calc m.document d
    _ = m.document defined := document_eq_of_extends defined_extends fresh lawful
    _ = m.document both := by
      have c := gap.counterparts.extends (.refl _) wrapped_undefined both_extends defined_extends
      exact (document_eq_of_wrapped c lawful).symm
    _ = m.document e := by
      have c := gap.counterparts.extends (.refl _) spread_undefined extended both_extends
      have found : e.body? name = some f.selections := extended.body?_self spread_undefined
      exact (document_eq_of_inlined c found free lawful).symm

/-! ## The whole of it -/

/-- Wherever a part of a document is, and however the fragments go in circles: nothing that is measured
changes when the part is wrapped, and nothing when it is put in a fragment of its own, with a name
that occurs nowhere in the document, and that fragment is spread in its place. -/
theorem factoring_out_changes_no_measurement (gap : DocumentGap) (part : List Selection) :
    let d := gap.fill part
    (∀ x : InlineFragment, MeasuredAlike d (gap.fill [.inline x part])) ∧
    (∀ (name : String) (ds : List Directive) (f : Fragment) (e : Document),
      Fresh name d → f.selections = part → Extends name f (gap.fill [.spread name ds]) e →
        MeasuredAlike d e) := by
  intro d
  constructor
  · intro x
    apply measuredAlike_of_document_eq
    intro m lawful
    exact (document_eq_of_wrapped gap.counterparts lawful).symm
  · rintro name ds f e fresh rfl extended
    apply measuredAlike_of_document_eq
    intro m lawful
    exact document_eq_of_factored gap fresh extended lawful

/-- The selections of a fragment that spreads itself, put in a fragment of their own: that one is then
in a circle too. -/
theorem factored_in_a_circle :
    let f : Field := { name := "f" }
    let o : Operation := { type := .query, selections := [.spread "A" []] }
    let part : List Selection := [.field f [.spread "A" []], .spread "A" []]
    let gap : DocumentGap := .fragment (.single o) [] "A" { selections := [] } (.here []) []
    let factored : Document :=
      { operations := .single o
        fragments := [("A", { selections := [.spread "B" []] }), ("B", { selections := part })] }
    Reaches factored "B" "B" ∧ MeasuredAlike (gap.fill part) factored := by
  intro f o part gap factored
  have fresh : Fresh "B" (gap.fill part) := by
    constructor
    · simp [gap, DocumentGap.fill]
    · simp [gap, DocumentGap.fill, Document.operationList, Operations.toList, o, spreadsInAll,
        spreadsIn]
    · simp [gap, DocumentGap.fill, Gap.fill, part, spreadsInAll, spreadsIn]
  have extended : Extends "B" { selections := part } (gap.fill [.spread "B" []]) factored :=
    ⟨rfl, [("A", { selections := [.spread "B" []] })], [], rfl, rfl⟩
  have goes : Spreads factored "B" "A" := ⟨part, rfl, List.mem_cons_self⟩
  have comes_back : Spreads factored "A" "B" := ⟨[.spread "B" []], rfl, List.mem_cons_self⟩
  refine ⟨.tail (.single goes) comes_back, ?_⟩
  exact (factoring_out_changes_no_measurement gap part).2 "B" [] _ factored fresh rfl extended

end QueryGate.Analysis
