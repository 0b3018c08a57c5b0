-- One document, written down in different ways. The order of operations,
-- of fragments, of selections and of arguments and the names of fragments
-- are the writer's own; nothing that is measured depends on them.
import QueryGate.Proofs.Inlining
import QueryGate.Proofs.Replacing
import QueryGate.Proofs.Tables

namespace QueryGate.Analysis

open GraphQL

variable {α : Type} {d e : Document}

/-! ## Other names -/

section

variable (ρ : String → String)

mutual

/-- A selection with other names for the fragments that it spreads. -/
def renamed : Selection → Selection
  | .field f below => .field f (renamedAll below)
  | .spread name directives => .spread (ρ name) directives
  | .inline x below => .inline x (renamedAll below)

def renamedAll : List Selection → List Selection
  | [] => []
  | s :: rest => renamed s :: renamedAll rest

end

/-- A document with other names for its fragments, where they are defined and where they are spread. -/
def withNames (d : Document) : Document where
  operations := mapSelections (renamedAll ρ) d.operations
  fragments := d.fragments.map fun (name, f) =>
    (ρ name, { f with selections := renamedAll ρ f.selections })

end

/-- The names of fragments that occur in a document: of those that are defined, and of those that are
spread. -/
def fragmentNames (d : Document) : List String :=
  d.fragments.map (·.1) ++ d.operationList.flatMap (fun o => spreadsInAll o.2.selections) ++
    d.fragments.flatMap fun f => spreadsInAll f.2.selections

/-! ## Ways to write a document -/

/-- One document is another one written down differently: its operations in another order, its
fragments, the selections in one place, the arguments of one field, or with other names for its
fragments, different ones for different ones. Fragments have one definition for each name, as the
arguments have one value. -/
inductive Rewritten : Document → Document → Prop where
  | operations {os os' : List (String × Operation)} (fragments : List (String × Fragment)) :
    os.Perm os' → Rewritten ⟨.named os, fragments⟩ ⟨.named os', fragments⟩
  | fragments (operations : Operations) {fs fs' : List (String × Fragment)} :
    (fs.map (·.1)).Nodup → fs.Perm fs' → Rewritten ⟨operations, fs⟩ ⟨operations, fs'⟩
  | selections (gap : DocumentGap) {ss ss' : List Selection} :
    ss.Perm ss' → Rewritten (gap.fill ss) (gap.fill ss')
  | arguments (gap : DocumentGap) {f : Field} {arguments : Arguments} (below : List Selection) :
    (f.arguments.map (·.1)).Nodup → f.arguments.Perm arguments →
    Rewritten (gap.fill [.field f below]) (gap.fill [.field { f with arguments } below])
  | names (d : Document) (ρ : String → String) :
    (∀ a ∈ fragmentNames d, ∀ b ∈ fragmentNames d, ρ a = ρ b → a = b) → Rewritten d (withNames ρ d)

/-! ## Measures without order -/

/-- A measure that does not see the order of what stands side by side, nor that of the arguments of a
field. -/
structure Measure.Unordered (m : Measure α) : Prop extends m.Lawful where
  beside_comm : ∀ a b, m.beside a b = m.beside b a
  field_eq : ∀ (f : Field) (arguments : Arguments), (f.arguments.map (·.1)).Nodup →
    f.arguments.Perm arguments → m.field { f with arguments } = m.field f

theorem depthMeasure_unordered : depthMeasure.Unordered where
  toLawful := depthMeasure_lawful
  beside_comm := Nat.max_comm
  field_eq := fun _ _ _ _ => rfl

theorem CostModel.weight_arguments (m : CostModel) {f : Field} {arguments : Arguments}
    (nodup : (f.arguments.map (·.1)).Nodup) (perm : f.arguments.Perm arguments) :
    m.weight { f with arguments } = m.weight f := by
  have argument?_eq (name : String) : { f with arguments }.argument? name = f.argument? name :=
    (lookup_eq_of_perm perm nodup name).symm
  unfold weight pageSize pageSize?
  simp only [argument?_eq]

theorem weighing_unordered (m : CostModel) : (weighing m.weight).Unordered where
  toLawful := weighing_lawful m.weight
  beside_comm := Nat.add_comm
  field_eq := fun f arguments nodup perm => by
    show (fun below => m.weight { f with arguments } + below) = fun below => m.weight f + below
    rw [m.weight_arguments nodup perm]

/-! ## Nothing changes -/

namespace Measure.Unordered

variable {m : Measure α} (unordered : m.Unordered)

include unordered

theorem foldr_eq_of_perm {as bs : List α} (h : as.Perm bs) :
    as.foldr m.beside m.nothing = bs.foldr m.beside m.nothing := by
  refine h.foldr_eq' (fun a _ b _ c => ?_) m.nothing
  rw [← unordered.beside_assoc, unordered.beside_comm b a, unordered.beside_assoc]

theorem all_eq_of_perm {ss ss' : List Selection} (h : ss.Perm ss') (d : Document)
    (active : Active) : m.all d active ss = m.all d active ss' := by
  have all_eq (ss : List Selection) :
      m.all d active ss = (ss.map (m.one d active)).foldr m.beside m.nothing := by
    induction ss with
    | nil => exact m.all_nil
    | cons s rest ih => rw [m.all_cons, ih, List.map_cons, List.foldr_cons]
  rw [all_eq, all_eq]
  exact unordered.foldr_eq_of_perm (h.map _)

end Measure.Unordered

/-- Two walks are inside of fragments with the old names and the new ones, and come to the same
selections but for these. -/
def RenamedFrom (d : Document) (ρ : String → String) : Pairing := fun active ss active' ss' =>
  active' = active.map ρ ∧ ss' = renamedAll ρ ss ∧ active ⊆ fragmentNames d ∧
    spreadsInAll ss ⊆ fragmentNames d

section

variable {ρ : String → String}
  (injective : ∀ a ∈ fragmentNames d, ∀ b ∈ fragmentNames d, ρ a = ρ b → a = b)

theorem spreads_subset_of_body? {name : String} {body : List Selection}
    (found : d.body? name = some body) : spreadsInAll body ⊆ fragmentNames d := by
  obtain ⟨f, hf, rfl⟩ := exists_fragment_of_body?_eq_some found
  intro b hb
  exact List.mem_append_right _ (List.mem_flatMap.mpr ⟨_, hf, hb⟩)

theorem spreads_subset_of_operation {o : Option String × Operation} (ho : o ∈ d.operationList) :
    spreadsInAll o.2.selections ⊆ fragmentNames d := by
  intro b hb
  exact List.mem_append_left _ (List.mem_append_right _ (List.mem_flatMap.mpr ⟨o, ho, hb⟩))

include injective

theorem body?_withNames {name : String} (occurs : name ∈ fragmentNames d) :
    (withNames ρ d).body? (ρ name) = (d.body? name).map (renamedAll ρ) := by
  have defined (f : String × Fragment) (hf : f ∈ d.fragments) : f.1 ∈ fragmentNames d :=
    List.mem_append_left _ (List.mem_append_left _ (List.mem_map_of_mem hf))
  unfold Document.body?
  have found := lookup_map ρ (fun f : Fragment => { f with selections := renamedAll ρ f.selections })
    fun f hf same => injective f.1 (defined f hf) name occurs same
  show (List.lookup (ρ name) (d.fragments.map _)).map _ = _
  rw [found, Option.map_map, Option.map_map]
  rfl

theorem renamedFrom_continues (active : Active) (ss : List Selection) (active' : Active)
    (ss' : List Selection) (h : RenamedFrom d ρ active ss active' ss') :
    Continues d (withNames ρ d) False (RenamedFrom d ρ) active active' ss ss' := by
  obtain ⟨rfl, rfl, inside, spread⟩ := h
  match ss with
  | [] => exact .nil
  | .field f below :: rest =>
    have hb : spreadsInAll below ⊆ fragmentNames d := fun _ h => spread (mem_spreadsInAll_field rest h)
    have hr : spreadsInAll rest ⊆ fragmentNames d := fun _ h => spread (mem_spreadsInAll_tail _ h)
    exact .field ⟨rfl, rfl, inside, hb⟩ ⟨rfl, rfl, inside, hr⟩
  | .inline x below :: rest =>
    have hb : spreadsInAll below ⊆ fragmentNames d := fun _ h => spread (mem_spreadsInAll_inline rest h)
    have hr : spreadsInAll rest ⊆ fragmentNames d := fun _ h => spread (mem_spreadsInAll_tail _ h)
    exact .opened .inline .inline ⟨rfl, rfl, inside, hb⟩ ⟨rfl, rfl, inside, hr⟩
  | .spread name ds :: rest =>
    have here : name ∈ fragmentNames d := spread (mem_spreadsInAll_spread name ds rest)
    have nothing : RenamedFrom d ρ active [] (active.map ρ) [] :=
      ⟨rfl, rfl, inside, List.nil_subset _⟩
    have later : RenamedFrom d ρ active rest (active.map ρ) (renamedAll ρ rest) :=
      ⟨rfl, rfl, inside, fun _ h => spread (mem_spreadsInAll_tail _ h)⟩
    have same := body?_withNames injective here
    rcases found : d.body? name with _ | body
    · rw [found] at same
      exact .opened (.undefined found) (.undefined same) nothing later
    · rw [found] at same
      by_cases within : name ∈ active
      · exact .opened (.inside within) (.inside (List.mem_map_of_mem within)) nothing later
      · have outside : ρ name ∉ active.map ρ := by
          intro h
          obtain ⟨a, ha, hρ⟩ := List.mem_map.mp h
          exact within (injective a (inside ha) name here hρ ▸ ha)
        refine .opened (.entered found within) (.entered same outside) ⟨rfl, rfl, ?_, ?_⟩ later
        · exact List.cons_subset.mpr ⟨here, inside⟩
        · exact spreads_subset_of_body? found

theorem document_eq_of_withNames {m : Measure α} (lawful : m.Lawful) :
    m.document d = m.document (withNames ρ d) := by
  refine (Measure.Related.refl m).document lawful False.elim (renamedFrom_continues injective) ?_
  unfold PairedOperations withNames Document.operationList
  rw [mapSelections_toList, List.forall₂_map_right_iff, List.forall₂_same]
  exact fun o ho => ⟨rfl, rfl, List.nil_subset _, spreads_subset_of_operation ho⟩

end

/-- No measure without order sees how a document is written down. -/
theorem Measure.Unordered.document_eq_of_rewritten {m : Measure α} (unordered : m.Unordered)
    (h : Rewritten d e) : m.document d = m.document e := by
  cases h with
  | @operations os os' fragments perm =>
    have all (ss : List Selection) :
        m.all ⟨.named os, fragments⟩ [] ss = m.all ⟨.named os', fragments⟩ [] ss := by
      refine m.all_congr (fun name => ?_) [] ss
      rfl
    simp only [m.document_eq, all]
    exact unordered.foldr_eq_of_perm ((perm.map _).map _)
  | @fragments operations fs fs' nodup perm =>
    have all (ss : List Selection) :
        m.all ⟨operations, fs⟩ [] ss = m.all ⟨operations, fs'⟩ [] ss := by
      refine m.all_congr (fun name => ?_) [] ss
      unfold Document.body?
      rw [lookup_eq_of_perm perm nodup]
    simp only [m.document_eq, all]
    rfl
  | selections gap perm =>
    refine m.keeps_eq.document_fill unordered.toLawful gap fun active => ?_
    exact unordered.all_eq_of_perm perm _ active
  | arguments gap below nodup perm =>
    refine m.keeps_eq.document_fill unordered.toLawful gap fun active => ?_
    simp only [m.all_cons, m.one_field, unordered.field_eq _ _ nodup perm]
  | names d ρ injective => exact document_eq_of_withNames injective unordered.toLawful

/-! ## The whole of it -/

/-- Nothing that is measured depends on how a document is written down, however often it is written
anew: not the depth, not the cost, whatever the weights are, and nothing of the verdict. -/
theorem measurements_do_not_see_the_writing {d e : Document}
    (h : Relation.ReflTransGen Rewritten d e) : MeasuredAlike d e := by
  have document_eq {m : Measure Nat} (unordered : m.Unordered) : m.document d = m.document e := by
    induction h with
    | refl => rfl
    | tail _ last ih => exact ih.trans (unordered.document_eq_of_rewritten last)
  exact measuredAlike_of_sums (document_eq depthMeasure_unordered).symm
    fun m => (document_eq (weighing_unordered m)).symm

/-- A fragment that goes in a circle, with its selections the other way round, the arguments of a field
in them too, and another name. -/
theorem written_the_other_way_round :
    let first : String × Value := ("first", .number (.int 5))
    let last : String × Value := ("last", .number (.int 7))
    let users (arguments : Arguments) : Field := { name := "users", arguments }
    let f : Selection := .field { name := "f" } []
    let query (name : String) : Operations :=
      .single { type := .query, selections := [.spread name []] }
    let d : Document := ⟨query "A",
      [("A", { selections := [.field (users [first, last]) [.spread "A" []], f] })]⟩
    let e : Document := ⟨query "B",
      [("B", { selections := [f, .field (users [last, first]) [.spread "B" []]] })]⟩
    Relation.ReflTransGen Rewritten d e ∧ depth d = 1 ∧ depth e = depth d ∧
      ∀ m : CostModel, m.estimate e = m.estimate d := by
  intro first last users f query d e
  let host (gap : Gap) : DocumentGap := .fragment (query "A") [] "A" { selections := [] } gap []
  let circle : Selection := .field (users [first, last]) [.spread "A" []]
  let swapped : Document := (host (.here [])).fill [f, circle]
  let turned : Document := (host (.later f (.here []))).fill
    [.field (users [last, first]) [.spread "A" []]]
  have selections : Rewritten ((host (.here [])).fill [circle, f]) swapped :=
    .selections (host (.here [])) (.swap _ _ _)
  have arguments : Rewritten swapped turned :=
    .arguments (host (.later f (.here []))) _ (by decide) (.swap _ _ _)
  have names : Rewritten turned e := by
    refine .names turned (fun _ => "B") fun a ha b hb _ => ?_
    have only (name : String) (h : name ∈ fragmentNames turned) : name = "A" := by
      simpa [fragmentNames, turned, host, query, f, DocumentGap.fill, Gap.fill,
        Document.operationList, Operations.toList, spreadsInAll, spreadsIn] using h
    rw [only a ha, only b hb]
  have rewritten : Relation.ReflTransGen Rewritten d e :=
    ((Relation.ReflTransGen.single selections).tail arguments).tail names
  have alike := measurements_do_not_see_the_writing rewritten
  have operation : d.operationList = [(none, { type := .query, selections := [.spread "A" []] })] := rfl
  have found : d.body? "A" = some [.field (users [first, last]) [.spread "A" []], f] := rfl
  refine ⟨rewritten, ?_, alike.depth_eq, alike.estimate_eq⟩
  simp [depth, Measure.document_eq, operation, Measure.one_entered _ found, Measure.one_inside, f,
    depthMeasure]

end QueryGate.Analysis
