-- Two walks side by side, each through a document of its own. If what they
-- come to can be paired so that each pair leads to pairs again, then what
-- they give is related the same way as what they put it together from.
import Mathlib.Data.List.Forall2
import QueryGate.Analysis.Verdict
import QueryGate.Proofs.ExactCost
import QueryGate.Proofs.Spreads

namespace QueryGate.Analysis

open GraphQL

variable {α β : Type}

/-! ## Measures -/

/-- Putting parts side by side with nothing changes nothing, and it does not matter which are put
together first. -/
structure Measure.Lawful (m : Measure α) : Prop where
  nothing_beside : ∀ a, m.beside m.nothing a = a
  beside_assoc : ∀ a b c, m.beside (m.beside a b) c = m.beside a (m.beside b c)

theorem Measure.Lawful.all_append {m : Measure α} (h : m.Lawful) (d : Document) (active : Active)
    (ss ss' : List Selection) :
    m.all d active (ss ++ ss') = m.beside (m.all d active ss) (m.all d active ss') := by
  induction ss with
  | nil => rw [List.nil_append, Measure.all_nil, h.nothing_beside]
  | cons s rest ih => rw [List.cons_append, Measure.all_cons, Measure.all_cons, ih, h.beside_assoc]

/-- A relation between what two measures give that is kept by all that they put together. -/
structure Measure.Related (rel : α → β → Prop) (m : Measure α) (n : Measure β) : Prop where
  nothing : rel m.nothing n.nothing
  field : ∀ f a b, rel a b → rel (m.field f a) (n.field f b)
  beside : ∀ a b a' b', rel a b → rel a' b' → rel (m.beside a a') (n.beside b b')

theorem Measure.Related.refl (m : Measure α) : Measure.Related (· = ·) m m where
  nothing := rfl
  field := fun _ _ _ h => by rw [h]
  beside := fun _ _ _ _ h h' => by rw [h, h']

theorem depthMeasure_lawful : depthMeasure.Lawful where
  nothing_beside := Nat.zero_max
  beside_assoc := Nat.max_assoc

theorem weighing_lawful (w : Field → Nat) : (weighing w).Lawful where
  nothing_beside := Nat.zero_add
  beside_assoc := Nat.add_assoc

theorem depthMeasure_mono : Measure.Related (· ≤ ·) depthMeasure depthMeasure where
  nothing := Nat.le_refl 0
  field := fun _ _ _ h => Nat.add_le_add_left h 1
  beside := fun a b a' b' h h' => by
    show max a a' ≤ max b b'
    omega

theorem weighing_mono (w : Field → Nat) : Measure.Related (· ≤ ·) (weighing w) (weighing w) where
  nothing := Nat.le_refl 0
  field := fun f _ _ h => Nat.add_le_add_left h (w f)
  beside := fun _ _ _ _ h h' => Nat.add_le_add h h'

theorem CostModel.estimate_eq_clamp_weighing (m : CostModel) (d : Document) :
    m.estimate d = Saturating.clamp ((weighing m.weight).document d) :=
  (m.clamp_carries.document d).symm

/-- Two documents are measured alike: they are as deep, they cost as much whatever the weights are,
and whatever they are held to, the verdicts on them are the same, messages and all. -/
structure MeasuredAlike (d e : Document) : Prop where
  depth_eq : depth e = depth d
  estimate_eq : ∀ m : CostModel, m.estimate e = m.estimate d
  verdict_eq : ∀ (m : CostModel) (limits : Limits), m.validate e limits = m.validate d limits

theorem measuredAlike_of_sums {d e : Document} (deep : depth e = depth d)
    (dear : ∀ m : CostModel, (weighing m.weight).document e = (weighing m.weight).document d) :
    MeasuredAlike d e := by
  have estimate_eq (m : CostModel) : m.estimate e = m.estimate d := by
    rw [m.estimate_eq_clamp_weighing, m.estimate_eq_clamp_weighing, dear]
  refine ⟨deep, estimate_eq, fun m limits => ?_⟩
  unfold CostModel.validate
  rw [deep, estimate_eq]

theorem measuredAlike_of_document_eq {d e : Document}
    (h : ∀ m : Measure Nat, m.Lawful → m.document d = m.document e) : MeasuredAlike d e :=
  measuredAlike_of_sums (h depthMeasure depthMeasure_lawful).symm
    fun m => (h _ (weighing_lawful m.weight)).symm

/-- A document with no smaller measurements is as deep at least, and costs as much at least. -/
theorem measured_le_of_document_le {d e : Document}
    (h : ∀ m : Measure Nat, Measure.Related (· ≤ ·) m m → m.Lawful → m.nothing = 0 →
      m.document d ≤ m.document e) :
    depth d ≤ depth e ∧ ∀ m : CostModel, m.estimate d ≤ m.estimate e := by
  refine ⟨h depthMeasure depthMeasure_mono depthMeasure_lawful rfl, fun m => ?_⟩
  rw [m.estimate_eq_clamp_weighing, m.estimate_eq_clamp_weighing]
  exact clamp_mono (h _ (weighing_mono m.weight) (weighing_lawful m.weight) rfl)

/-! ## Pairs -/

/-- Which places of two walks are paired: for each walk, the fragments that it is inside of and the
selections that it comes to. -/
abbrev Pairing := Active → List Selection → Active → List Selection → Prop

/-- How a pair leads on to other pairs: no selections on either side, the same field in front, or
selections in front that are no fields, with what stands in their places paired. Where one side has
such a selection, the other may have any part in front that is paired with what stands in its
place. Where `least` says so, nothing may be paired with anything. -/
inductive Continues (d e : Document) (least : Prop) (Q : Pairing) (active active' : Active) :
    List Selection → List Selection → Prop where
  | nil : Continues d e least Q active active' [] []
  | less {ss' : List Selection} : least → Continues d e least Q active active' [] ss'
  | field {f : Field} {below below' rest rest' : List Selection} :
    Q active below active' below' → Q active rest active' rest' →
    Continues d e least Q active active' (.field f below :: rest) (.field f below' :: rest')
  | opened {s s' : Selection} {inner inner' : Active} {body body' rest rest' : List Selection} :
    Opens d active s inner body → Opens e active' s' inner' body' → Q inner body inner' body' →
    Q active rest active' rest' →
    Continues d e least Q active active' (s :: rest) (s' :: rest')
  | spliced {s : Selection} {inner : Active} {body part rest rest' : List Selection} :
    Opens d active s inner body → Q inner body active' part → Q active rest active' rest' →
    Continues d e least Q active active' (s :: rest) (part ++ rest')

/-- A spread on both sides leads on to pairs if both walks follow it to paired bodies, or neither
does. -/
theorem Continues.same_spread {d e : Document} {least : Prop} {Q : Pairing}
    {active active' : Active} {name : String} {ds ds' : List Directive} {rest rest' : List Selection}
    (undefined : d.body? name = none → e.body? name = none)
    (inside_iff : name ∈ active ↔ name ∈ active')
    (entered : ∀ body, d.body? name = some body → name ∉ active →
      ∃ body', e.body? name = some body' ∧ Q (name :: active) body (name :: active') body')
    (nothing : Q active [] active' []) (later : Q active rest active' rest') :
    Continues d e least Q active active' (.spread name ds :: rest) (.spread name ds' :: rest') := by
  rcases found : d.body? name with _ | body
  · exact .opened (.undefined found) (.undefined (undefined found)) nothing later
  · by_cases inside : name ∈ active
    · exact .opened (.inside inside) (.inside (inside_iff.mp inside)) nothing later
    · obtain ⟨body', found', hbody⟩ := entered body found inside
      have outside' : name ∉ active' := fun inside' => inside (inside_iff.mpr inside')
      exact .opened (.entered found inside) (.entered found' outside') hbody later

section

variable {d e : Document} {least : Prop} {Q : Pairing} {rel : α → β → Prop} {m : Measure α}
  {n : Measure β}

/-- What two walks give for paired selections is related, if every pair leads on to pairs. -/
theorem Measure.Related.all (related : Measure.Related rel m n) (lawful : n.Lawful)
    (bottom : least → ∀ b, rel m.nothing b)
    (leads : ∀ active ss active' ss', Q active ss active' ss' →
      Continues d e least Q active active' ss ss')
    {active : Active} {ss : List Selection} {active' : Active} {ss' : List Selection}
    (paired : Q active ss active' ss') :
    rel (m.all d active ss) (n.all e active' ss') := by
  -- On what the first walk has left. The second can have any amount left, in a document of its own.
  induction active, ss using lessLeft_induction d generalizing active' ss' with
  | step active ss ih =>
    cases leads active ss active' ss' paired with
    | nil =>
      rw [m.all_nil, n.all_nil]
      exact related.nothing
    | less isLeast =>
      rw [m.all_nil]
      exact bottom isLeast _
    | @field f below below' rest rest' hbelow hrest =>
      rw [m.all_cons, n.all_cons, m.one_field, n.one_field]
      have hb := ih active below (lessLeft_field d active f below rest) hbelow
      have hr := ih active rest (lessLeft_rest d active _ rest) hrest
      exact related.beside _ _ _ _ (related.field f _ _ hb) hr
    | @opened s s' inner inner' body body' rest rest' opens opens' hbody hrest =>
      rw [m.all_cons, n.all_cons, opens.one, opens'.one]
      have hb := ih inner body (opens.lessLeft rest) hbody
      have hr := ih active rest (lessLeft_rest d active s rest) hrest
      exact related.beside _ _ _ _ hb hr
    | @spliced s inner body part rest rest' opens hpart hrest =>
      rw [m.all_cons, lawful.all_append, opens.one]
      have hb := ih inner body (opens.lessLeft rest) hpart
      have hr := ih active rest (lessLeft_rest d active s rest) hrest
      exact related.beside _ _ _ _ hb hr

/-- The operations of two documents are paired, one after the other. -/
def PairedOperations (Q : Pairing) (d e : Document) : Prop :=
  List.Forall₂ (fun o o' => Q [] o.2.selections [] o'.2.selections) d.operationList e.operationList

theorem pairedOperations_of_forall₂ {d e : Document} {Q : Pairing}
    {P : Option String × Operation → Option String × Operation → Prop}
    (each : List.Forall₂ P d.operationList e.operationList)
    (h : ∀ o ∈ d.operationList, ∀ o', P o o' → Q [] o.2.selections [] o'.2.selections) :
    PairedOperations Q d e := by
  unfold PairedOperations
  generalize d.operationList = os, e.operationList = os' at each h
  induction each with
  | nil => exact .nil
  | @cons o o' os os' ho _ ih =>
    refine .cons (h o List.mem_cons_self o' ho) (ih fun o'' ho'' => ?_)
    exact h o'' (List.mem_cons_of_mem _ ho'')

theorem Measure.Related.document (related : Measure.Related rel m n) (lawful : n.Lawful)
    (bottom : least → ∀ b, rel m.nothing b)
    (leads : ∀ active ss active' ss', Q active ss active' ss' →
      Continues d e least Q active active' ss ss')
    (paired : PairedOperations Q d e) : rel (m.document d) (n.document e) := by
  rw [m.document_eq, n.document_eq]
  unfold PairedOperations at paired
  generalize d.operationList = os, e.operationList = os' at paired
  induction paired with
  | nil => exact related.nothing
  | cons h _ ih =>
    rw [List.map_cons, List.map_cons, List.foldr_cons, List.foldr_cons]
    exact related.beside _ _ _ _ (related.all lawful bottom leads h) ih

end

end QueryGate.Analysis
