-- Where the definitions of a text start. They are read one after the other,
-- each from where the one before it ends, so they start farther and farther
-- on; and each has the position that is computed for its first character.
import Mathlib.Data.List.Pairwise
import QueryGate.Proofs.Naming
import QueryGate.Proofs.Taking

namespace QueryGate

open Text

namespace GraphQL

/-! ## Between the parts -/

mutual

theorem skip_skip : ∀ cs : List Char, skip (skip cs) = skip cs
  | [] => by simp [skip]
  | c :: rest => by
    rw [skip]
    split
    · exact skip_skip rest
    · split
      · exact skip_skipComment rest
      · rw [skip, if_neg ‹_›, if_neg ‹_›]

theorem skip_skipComment : ∀ cs : List Char, skip (skipComment cs) = skipComment cs
  | [] => by simp [skip, skipComment]
  | c :: rest => by
    rw [skipComment]
    split
    · exact skip_skip rest
    · exact skip_skipComment rest

end

mutual

/-- What is left after white space and comments does not start with the end of a line. -/
theorem not_isLineEnd_of_skip : ∀ {cs : List Char} {c : Char}, (skip cs).head? = some c →
    isLineEnd c = false
  | [], c, h => by simp [skip] at h
  | c' :: rest, c, h => by
    rw [skip] at h
    split at h
    · exact not_isLineEnd_of_skip h
    · split at h
      · exact not_isLineEnd_of_skipComment h
      · obtain rfl := Option.some.inj h
        simp_all [isIgnored]

theorem not_isLineEnd_of_skipComment : ∀ {cs : List Char} {c : Char},
    (skipComment cs).head? = some c → isLineEnd c = false
  | [], c, h => by simp [skipComment] at h
  | c' :: rest, c, h => by
    rw [skipComment] at h
    split at h
    · exact not_isLineEnd_of_skip h
    · exact not_isLineEnd_of_skipComment h

end

/-! ## One definition -/

/-- What a reader gives has a property, whatever the text. -/
def Gives {α : Type} (r : Reader α) (P : α → Prop) : Prop :=
  ∀ cs a rest, r cs = some (a, rest) → P a

theorem Gives.pure {α : Type} {P : α → Prop} {a : α} (h : P a) : Gives (Pure.pure a) P := by
  rintro cs _ _ ⟨⟩
  exact h

theorem Gives.bind {α β : Type} {P : β → Prop} {r : Reader α} {f : α → Reader β}
    (next : ∀ a, Gives (f a) P) : Gives (r >>= f) P := by
  intro cs b rest read
  obtain ⟨⟨a, middle⟩, -, later⟩ := Option.bind_eq_some_iff.mp read
  exact next a middle b rest later

/-- The position of a definition. -/
def Definition.position : Definition → Position
  | .operation _ o => o.position
  | .fragment _ p _ => p

/-- The operation that a definition is, with its name. -/
def Definition.operation? : Definition → Option Request.NamedOperation
  | .operation name o => some (name, o)
  | .fragment .. => none

section

variable {place : List Char → Position} {cs rest : List Char} {x : Definition}

theorem orElse_eq_some {α : Type} {r r' : Reader α} {a : α}
    (h : (r <|> r') cs = some (a, rest)) : r cs = some (a, rest) ∨ r' cs = some (a, rest) := by
  have either : (r cs <|> r' cs) = some (a, rest) := h
  cases first : r cs with
  | none => exact .inr (by simpa [first] using either)
  | some found => exact .inl (by simpa [first] using either)

/-- A definition begins with a look at where it starts, past white space and comments. -/
theorem position_of_start {f : List Char → Reader Definition}
    (gives : ∀ start, Gives (f start) fun x => x.position = place start)
    (h : (token get >>= f) cs = some (x, rest)) : x.position = place (skip cs) :=
  gives (skip cs) (skip cs) x rest h

theorem position_of_definition (h : definition place cs = some (x, rest)) :
    x.position = place (skip cs) := by
  rcases orElse_eq_some h with named | h
  · refine position_of_start (fun start => ?_) named
    exact .bind fun _ => .bind fun _ => .bind fun _ => .bind fun _ => .bind fun _ => .pure rfl
  · rcases orElse_eq_some h with bare | fragment
    · exact position_of_start (fun start => .bind fun _ => .pure rfl) bare
    · refine position_of_start (fun start => ?_) fragment
      exact .bind fun _ => .bind fun _ => .bind fun _ => .bind fun _ => .bind fun _ => .pure rfl

/-- White space and comments in front of a definition are read over. -/
theorem definition_skip : definition place (skip cs) = definition place cs := by
  have same {f : List Char → Reader Definition} :
      (token get >>= f) (skip cs) = (token get >>= f) cs := by
    show f (skip (skip cs)) (skip (skip cs)) = f (skip cs) (skip cs)
    rw [skip_skip]
  have named : namedOperation place (skip cs) = namedOperation place cs := same
  have bare : bareQuery place (skip cs) = bareQuery place cs := same
  have fragment : fragmentDefinition place (skip cs) = fragmentDefinition place cs := same
  show (namedOperation place (skip cs) <|> bareQuery place (skip cs) <|>
    fragmentDefinition place (skip cs)) = _
  rw [named, bare, fragment]
  rfl

/-- A definition ends after it has started. -/
theorem rest_of_definition (h : definition place cs = some (x, rest)) :
    rest <:+ skip cs ∧ rest.length < (skip cs).length := by
  obtain ⟨suffix, taken⟩ := takes_definition _ _ _ (definition_skip.trans h)
  dsimp only at taken
  exact ⟨suffix, by omega⟩

end

/-! ## Bytes -/

theorem byteLength_eq_sum (cs : List Char) : byteLength cs = (cs.map Char.utf8Size).sum := by
  have from_any (n : Nat) :
      cs.foldl (fun n c => n + c.utf8Size) n = n + (cs.map Char.utf8Size).sum := by
    induction cs generalizing n with
    | nil => rfl
    | cons c cs ih => rw [List.foldl_cons, ih, List.map_cons, List.sum_cons, Nat.add_assoc]
  rw [byteLength, from_any, Nat.zero_add]

theorem byteLength_append (cs cs' : List Char) :
    byteLength (cs ++ cs') = byteLength cs + byteLength cs' := by
  simp [byteLength_eq_sum]

theorem length_le_byteLength (cs : List Char) : cs.length ≤ byteLength cs := by
  induction cs with
  | nil => exact Nat.le_refl 0
  | cons c cs ih =>
    have first := c.utf8Size_pos
    rw [byteLength_eq_sum] at ih ⊢
    rw [List.length_cons, List.map_cons, List.sum_cons]
    omega

/-- All characters take one byte. -/
def OneByte (cs : List Char) : Prop := ∀ c ∈ cs, c.utf8Size = 1

theorem byteLength_of_oneByte {cs : List Char} (h : OneByte cs) : byteLength cs = cs.length := by
  have ones : cs.map Char.utf8Size = cs.map fun _ => 1 := List.map_congr_left h
  simp [byteLength_eq_sum, ones]

/-! ## One definition after the other -/

/-- How many bytes of a text stand before what is left of it, and before any white space and comments
that this starts with. -/
def startOf (text left : List Char) : Nat := byteLength text - byteLength (skip left)

/-- What is left of a text is definitions one after the other, each with the place in bytes that it
starts at in the text, and after the last one nothing but white space and comments. -/
inductive Layout (text : List Char) : List Char → List (Nat × Definition) → Prop where
  | done {left : List Char} : skip left = [] → Layout text left []
  | next {left rest : List Char} {x : Definition} {more : List (Nat × Definition)} :
    definition (place text) left = some (x, rest) → Layout text rest more →
    Layout text left ((startOf text left, x) :: more)

variable {text left rest : List Char}

/-- A text can be laid out in one way only. -/
theorem Layout.unique {xs ys : List (Nat × Definition)} (h : Layout text left xs)
    (h' : Layout text left ys) : xs = ys := by
  have started {left rest : List Char} {x : Definition} (nothing : skip left = [])
      (read : definition (place text) left = some (x, rest)) : False := by
    have shorter := (rest_of_definition read).2
    rw [nothing] at shorter
    exact Nat.not_lt_zero _ shorter
  induction h generalizing ys with
  | done nothing =>
    cases h' with
    | done => rfl
    | next read => exact (started nothing read).elim
  | next read _ ih =>
    cases h' with
    | done nothing => exact (started nothing read).elim
    | next read' later =>
      obtain ⟨rfl, rfl⟩ := Prod.mk.inj (Option.some.inj (read.symm.trans read'))
      rw [ih later]

theorem exists_layout_of_repeatedUpTo {all : List Definition} {limit : Nat}
    (read : Reader.repeatedUpTo (definition (place text)) limit left = some (all, rest))
    (ended : skip rest = []) : ∃ xs, Layout text left xs ∧ xs.map (·.2) = all := by
  induction limit generalizing left all with
  | zero =>
    obtain ⟨rfl, rfl⟩ := Prod.mk.inj (Option.some.inj read)
    exact ⟨[], .done ended, rfl⟩
  | succ limit ih =>
    rw [Reader.repeatedUpTo] at read
    dsimp only at read
    split at read
    · rename_i x middle first
      obtain ⟨⟨more, rest'⟩, later, same⟩ := Option.map_eq_some_iff.mp read
      obtain ⟨rfl, rfl⟩ := Prod.mk.inj same
      obtain ⟨xs, layout, rfl⟩ := ih later
      exact ⟨_, .next first layout, rfl⟩
    · obtain ⟨rfl, rfl⟩ := Prod.mk.inj (Option.some.inj read)
      exact ⟨[], .done ended, rfl⟩

/-- What is read as definitions to the end of a text is laid out in it. -/
theorem exists_layout {all : List Definition}
    (read : definitions (place text) text = some (all, [])) :
    ∃ xs, Layout text text xs ∧ xs.map (·.2) = all := by
  obtain ⟨⟨all', rest⟩, once, ends⟩ := Option.bind_eq_some_iff.mp read
  obtain ⟨⟨x, middle⟩, first, once⟩ := Option.bind_eq_some_iff.mp once
  obtain ⟨⟨more, rest'⟩, later, same⟩ := Option.bind_eq_some_iff.mp once
  obtain ⟨rfl, rfl⟩ := Prod.mk.inj (Option.some.inj same)
  obtain ⟨rfl, ended⟩ := Prod.mk.inj (Option.some.inj ends)
  obtain ⟨xs, layout, rfl⟩ := exists_layout_of_repeatedUpTo later ended
  exact ⟨_, .next first layout, rfl⟩

/-! ## Where they start -/

theorem byteLength_eq_startOf_add (h : left <:+ text) :
    byteLength text = startOf text left + byteLength (skip left) := by
  obtain ⟨before, rfl⟩ := (skip_suffix left).trans h
  unfold startOf
  rw [byteLength_append]
  omega

theorem startOf_lt (h : left <:+ text) (later : rest <:+ skip left)
    (shorter : rest.length < (skip left).length) : startOf text left < startOf text rest := by
  have whole := byteLength_eq_startOf_add h
  have whole' := byteLength_eq_startOf_add (later.trans ((skip_suffix left).trans h))
  obtain ⟨taken, split⟩ := later
  obtain ⟨skipped, split'⟩ := skip_suffix rest
  have some_taken := length_le_byteLength taken
  rw [← split, List.length_append] at shorter
  rw [← split, byteLength_append] at whole
  rw [← split', byteLength_append] at whole
  omega

namespace Layout

variable {xs : List (Nat × Definition)}

/-- Definitions start farther and farther on. -/
theorem increasing (h : Layout text left xs) (suffix : left <:+ text) :
    xs.Pairwise (fun a b => a.1 < b.1) ∧ ∀ p ∈ xs, startOf text left ≤ p.1 := by
  induction h with
  | done => simp
  | @next left rest x more read _ ih =>
    obtain ⟨later, shorter⟩ := rest_of_definition read
    have first := startOf_lt suffix later shorter
    obtain ⟨increasing, after⟩ := ih (later.trans ((skip_suffix left).trans suffix))
    have behind (p) (hp : p ∈ more) : startOf text left < p.1 := Nat.lt_of_lt_of_le first (after p hp)
    refine ⟨List.pairwise_cons.mpr ⟨behind, increasing⟩, fun p hp => ?_⟩
    rcases List.mem_cons.mp hp with rfl | hp
    · exact Nat.le_refl _
    · exact Nat.le_of_lt (behind p hp)

/-- Each definition is read where some of the text is left. -/
theorem exists_read_of_mem (h : Layout text left xs) (suffix : left <:+ text) {k : Nat}
    {x : Definition} (hx : (k, x) ∈ xs) : ∃ from_here rest, from_here <:+ text ∧
      k = startOf text from_here ∧ definition (place text) from_here = some (x, rest) := by
  induction h with
  | done => cases hx
  | @next left rest x' more read _ ih =>
    rcases List.mem_cons.mp hx with same | hx
    · obtain ⟨rfl, rfl⟩ := Prod.mk.inj same
      exact ⟨left, rest, suffix, rfl, read⟩
    · exact ih ((rest_of_definition read).1.trans ((skip_suffix left).trans suffix)) hx

/-- The position of a definition is computed from the place in bytes that it starts at. -/
theorem position_of_mem (h : Layout text text xs) {k : Nat} {x : Definition} (hx : (k, x) ∈ xs) :
    x.position = Position.after ⟨1, 1⟩ k text := by
  obtain ⟨from_here, rest, -, rfl, read⟩ := h.exists_read_of_mem (List.suffix_refl text) hx
  exact position_of_definition read

/-- Where all characters take one byte, the character numbered as a definition starts is its first one,
and ends no line. -/
theorem exists_first_of_mem (h : Layout text text xs) (oneByte : OneByte text) {k : Nat}
    {x : Definition} (hx : (k, x) ∈ xs) : ∃ c, text[k]? = some c ∧ isLineEnd c = false := by
  obtain ⟨from_here, rest, suffix, rfl, read⟩ := h.exists_read_of_mem (List.suffix_refl text) hx
  have some_left := (rest_of_definition read).2
  have bytes := byteLength_eq_startOf_add suffix
  obtain ⟨before, split⟩ := (skip_suffix from_here).trans suffix
  cases starts : skip from_here with
  | nil =>
    rw [starts] at some_left
    exact absurd some_left (Nat.not_lt_zero _)
  | cons c cs =>
    refine ⟨c, ?_, not_isLineEnd_of_skip (by rw [starts]; rfl)⟩
    have here : startOf text from_here = before.length := by
      rw [← split, byteLength_append] at bytes
      have ones : OneByte before := fun c hc => oneByte c (split ▸ List.mem_append_left _ hc)
      rw [byteLength_of_oneByte ones, split] at bytes
      omega
    rw [here, ← split, starts, List.getElem?_append_right (Nat.le_refl _), Nat.sub_self]
    rfl

end Layout

end GraphQL

end QueryGate
