-- Walking through a document with its fragments put in place of their
-- spreads. The walk keeps the names of the fragments that it is inside
-- of, one list for the whole document: a fragment's name is put in when
-- the walk enters it and taken out when it leaves. A spread of a fragment
-- that the walk is already inside, or of none, counts for nothing.
import QueryGate.GraphQL.Document

namespace QueryGate.Analysis

open GraphQL

/-- A quantity that is measured on selections: what no selections give, what a field gives around what
is below it, and what two parts side by side give. -/
structure Measure (α : Type) where
  nothing : α
  field : Field → α → α
  beside : α → α → α

/-- The names of the fragments that a walk is inside of, the innermost first. -/
abbrev Active := List String

/-- How many fragment definitions the walk could still enter. -/
def pending (d : Document) (active : Active) : Nat :=
  d.fragments.countP fun f => !decide (f.1 ∈ active)

/-! ## Entering and leaving -/

/-- How many definitions go by one name. -/
def definitionsOf (d : Document) (name : String) : Nat :=
  d.fragments.countP fun f => decide (f.1 = name)

theorem pending_enter {d : Document} {active : Active} {name : String} (h : name ∉ active) :
    pending d (name :: active) + definitionsOf d name = pending d active := by
  simp only [pending, definitionsOf]
  induction d.fragments with
  | nil => rfl
  | cons f fs ih =>
    simp only [List.countP_cons]
    by_cases hn : f.1 = name
    · simp_all; omega
    · simp_all; omega

theorem pending_leave (d : Document) (active : Active) (name : String) :
    pending d (active.erase name) ≤ pending d active + definitionsOf d name := by
  simp only [pending, definitionsOf]
  induction d.fragments with
  | nil => exact Nat.le_refl _
  | cons f fs ih =>
    simp only [List.countP_cons]
    by_cases hn : f.1 = name
    · simp [hn]; split <;> split <;> omega
    · have := List.mem_erase_of_ne (l := active) hn
      simp [hn, this]; omega

theorem definitionsOf_pos {d : Document} {name : String} {body : List Selection}
    (h : d.body? name = some body) : 0 < definitionsOf d name := by
  simp only [Document.body?, Option.map_eq_some_iff] at h
  obtain ⟨f, hf, -⟩ := h
  simp only [definitionsOf]
  generalize d.fragments = fs at hf
  induction fs with
  | nil => simp at hf
  | cons g fs ih =>
    rw [List.lookup_cons] at hf
    simp only [List.countP_cons]
    by_cases hn : g.1 = name
    · simp [hn]
    · have : (name == g.1) = false := by simpa using fun h => hn h.symm
      simp only [this] at hf
      have := ih hf
      omega

/-- A walk goes on where it has no more fragments left to enter and less of the text. -/
theorem goes_on {p q m n : Nat} (h : p ≤ q) (h' : m < n) :
    Prod.Lex (· < ·) (· < ·) (p, m) (q, n) := by
  rcases Nat.lt_or_eq_of_le h with h | rfl
  · exact Prod.Lex.left _ _ h
  · exact Prod.Lex.right _ h'

theorem pending_enter_lt {d : Document} {active : Active} {name : String} {body : List Selection}
    (h : d.body? name = some body) (outside : name ∉ active) :
    pending d (name :: active) < pending d active := by
  have := pending_enter (d := d) outside
  have := definitionsOf_pos h
  omega

theorem enters {d : Document} {active : Active} {name : String} {body : List Selection}
    (h : d.body? name = some body) (outside : name ∉ active) (m n : Nat) :
    Prod.Lex (· < ·) (· < ·) (pending d (name :: active), m) (pending d active, n) :=
  Prod.Lex.left _ _ (pending_enter_lt h outside)

theorem leaves {d : Document} {before after : Active} {name : String} (outside : name ∉ before)
    (h : pending d after ≤ pending d (name :: before)) :
    pending d (after.erase name) ≤ pending d before := by
  have := pending_leave d after name
  have := pending_enter (d := d) outside
  omega

theorem head_lt (s : Selection) (rest : List Selection) : sizeOf s < sizeOf (s :: rest) := by
  simp only [List.cons.sizeOf_spec]; omega

theorem tail_lt (s : Selection) (rest : List Selection) : sizeOf rest < sizeOf (s :: rest) := by
  simp only [List.cons.sizeOf_spec]; omega

theorem below_field_lt (f : Field) (ss : List Selection) : sizeOf ss < sizeOf (Selection.field f ss) := by
  simp only [Selection.field.sizeOf_spec]; omega

theorem below_inline_lt (f : InlineFragment) (ss : List Selection) :
    sizeOf ss < sizeOf (Selection.inline f ss) := by
  simp only [Selection.inline.sizeOf_spec]; omega

/-! ## The walk -/

/-- What a walk gives, and the fragments that it is inside of afterwards: no fewer than before, so
that what follows it has no more left to enter. -/
structure Walked (α : Type) (d : Document) (before : Active) where
  value : α
  active : Active
  bound : pending d active ≤ pending d before

variable {α : Type}

mutual

/-- Measures one selection. -/
def walk (m : Measure α) (d : Document) (active : Active) (s : Selection) : Walked α d active :=
  match s with
  | .field f selections =>
    let w := walkAll m d active selections
    ⟨m.field f w.value, w.active, w.bound⟩
  | .inline _ selections =>
    let w := walkAll m d active selections
    ⟨w.value, w.active, w.bound⟩
  | .spread name _ =>
    match _found : d.body? name with
    | none => ⟨m.nothing, active, Nat.le_refl _⟩
    | some body =>
      if inside : name ∈ active then ⟨m.nothing, active, Nat.le_refl _⟩
      else
        let w := walkAll m d (name :: active) body
        ⟨w.value, w.active.erase name, leaves inside w.bound⟩
termination_by (pending d active, sizeOf s)
decreasing_by
  · exact goes_on (Nat.le_refl _) (below_field_lt _ _)
  · exact goes_on (Nat.le_refl _) (below_inline_lt _ _)
  · exact enters _found inside _ _

/-- Measures selections one after the other. -/
def walkAll (m : Measure α) (d : Document) (active : Active) (ss : List Selection) :
    Walked α d active :=
  match ss with
  | [] => ⟨m.nothing, active, Nat.le_refl _⟩
  | s :: rest =>
    let w := walk m d active s
    let w' := walkAll m d w.active rest
    ⟨m.beside w.value w'.value, w'.active, Nat.le_trans w'.bound w.bound⟩
termination_by (pending d active, sizeOf ss)
decreasing_by
  · exact goes_on (Nat.le_refl _) (head_lt _ _)
  · exact goes_on w.bound (tail_lt _ _)

end

/-- Measures the operations one after the other, with the same list for all. -/
def walkOperations (m : Measure α) (d : Document) (active : Active) :
    List (Option String × Operation) → α × Active
  | [] => (m.nothing, active)
  | (_, o) :: rest =>
    let w := walkAll m d active o.selections
    let r := walkOperations m d w.active rest
    (m.beside w.value r.1, r.2)

/-- Measures a document: its operations, with the fragments they spread. -/
def Measure.document (m : Measure α) (d : Document) : α := (walkOperations m d [] d.operationList).1

end QueryGate.Analysis
