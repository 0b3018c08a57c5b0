-- What readers give on a text whose front is known. Each step of a reader
-- has its law, and a reader that is repeated gives what was written one
-- piece after the other.
import QueryGate.Text.Reader

namespace QueryGate

namespace Text.Reader

variable {α β : Type} {r r' : Reader α} {f : α → Reader β} {a : α} {cs rest : List Char}

/-! ## One step after the other -/

theorem bind_of_none (h : r cs = none) : (r >>= f) cs = none :=
  Option.bind_eq_none_iff.mpr fun a ha => by rw [h] at ha; cases ha

theorem bind_of_some (h : r cs = some (a, rest)) : (r >>= f) cs = f a rest := by
  show (r cs).bind _ = _
  rw [h]
  rfl

theorem bind_eq_none (h : ∀ a rest, r cs = some (a, rest) → f a rest = none) : (r >>= f) cs = none := by
  cases read : r cs with
  | none => exact bind_of_none read
  | some p => exact (bind_of_some read).trans (h _ _ read)

theorem orElse_of_none (h : r cs = none) : (r <|> r') cs = r' cs := by
  show (r cs <|> r' cs) = _
  rw [h]
  rfl

theorem orElse_of_some (h : r cs = some (a, rest)) : (r <|> r') cs = some (a, rest) := by
  show (r cs <|> r' cs) = _
  rw [h]
  rfl

theorem optionally_of_none (h : r cs = none) : optionally r cs = some (none, cs) := by
  unfold optionally
  rw [h]

theorem optionally_of_some (h : r cs = some (a, rest)) : optionally r cs = some (some a, rest) := by
  unfold optionally
  rw [h]

theorem notAhead_of_none (h : r cs = none) : notAhead r cs = some ((), cs) := by
  unfold notAhead
  rw [h]

/-! ## Reading again and again -/

/-- The reader reads these values off the text one after the other, and refuses what is left then. -/
inductive Runs (r : Reader α) : List Char → List α → List Char → Prop
  | stop {cs : List Char} : r cs = none → Runs r cs [] cs
  | next {cs middle rest : List Char} {a : α} {as : List α} : r cs = some (a, middle) →
    middle.length < cs.length → Runs r middle as rest → Runs r cs (a :: as) rest

theorem repeatedUpTo_of_runs {as : List α} (h : Runs r cs as rest) {limit : Nat}
    (enough : cs.length ≤ limit) : repeatedUpTo r limit cs = some (as, rest) := by
  induction h generalizing limit with
  | stop refused =>
    cases limit with
    | zero => rfl
    | succ limit =>
      unfold repeatedUpTo
      dsimp only
      rw [refused]
  | next first shorter _ ih =>
    cases limit with
    | zero => omega
    | succ limit =>
      unfold repeatedUpTo
      dsimp only
      rw [first]
      dsimp only
      rw [ih (by omega)]
      rfl

theorem repeated_of_runs {as : List α} (h : Runs r cs as rest) : repeated r cs = some (as, rest) :=
  repeatedUpTo_of_runs h (Nat.le_refl _)

theorem repeated_of_none (h : r cs = none) : repeated r cs = some ([], cs) :=
  repeated_of_runs (.stop h)

/-- Pieces that are written one after the other are read one after the other, if each is read
wherever something fit follows it. -/
theorem runs_flatMap (fit : List Char → Prop) {write : β → List Char} {value : β → α} {bs : List β}
    (each : ∀ b ∈ bs, ∀ rest, fit rest → r (write b ++ rest) = some (value b, rest))
    (nonempty : ∀ b ∈ bs, write b ≠ []) (fits : ∀ b ∈ bs, ∀ rest, fit (write b ++ rest))
    {last : List Char} (fits_last : fit last) (refused : r last = none) :
    Runs r (bs.flatMap write ++ last) (bs.map value) last := by
  induction bs with
  | nil => exact .stop refused
  | cons b rest ih =>
    have follows : fit (rest.flatMap write ++ last) := by
      cases rest with
      | nil => exact fits_last
      | cons b' rest =>
        rw [List.flatMap_cons, List.append_assoc]
        exact fits b' (List.mem_cons_of_mem _ List.mem_cons_self) _
    have later := ih (fun b hb => each b (List.mem_cons_of_mem _ hb))
      (fun b hb => nonempty b (List.mem_cons_of_mem _ hb))
      fun b hb => fits b (List.mem_cons_of_mem _ hb)
    rw [List.flatMap_cons, List.append_assoc, List.map_cons]
    refine .next (each b List.mem_cons_self _ follows) ?_ later
    have taken := List.length_pos_iff.mpr (nonempty b List.mem_cons_self)
    simp only [List.length_append]
    omega

theorem repeatedOnce_of_last (h : r cs = some (a, rest)) (last : r rest = none) :
    repeatedOnce r cs = some ([a], rest) := by
  unfold repeatedOnce
  rw [bind_of_some h, bind_of_some (repeated_of_none last)]
  rfl

/-! ## Characters and words -/

theorem charWhere_eq_none {p : Char → Bool} (absent : ∀ c ∈ rest.head?, ¬ p c) :
    charWhere p rest = none := by
  cases rest with
  | nil => rfl
  | cons c rest => simp [charWhere, absent c rfl]

theorem charsWhile_append {p : Char → Bool} (all : ∀ c ∈ cs, p c)
    (ends : ∀ c ∈ rest.head?, p c = false) : charsWhile p (cs ++ rest) = some (cs, rest) := by
  have stops : rest.takeWhile p = [] ∧ rest.dropWhile p = rest := by
    cases rest with
    | nil => exact ⟨rfl, rfl⟩
    | cons c rest => simp [ends c rfl]
  unfold charsWhile
  rw [List.takeWhile_append_of_pos all, List.dropWhile_append_of_pos all, stops.1, stops.2,
    List.append_nil]

theorem exactly_append (word : String) (rest : List Char) :
    exactly word (word.toList ++ rest) = some ((), rest) := by
  have found : ∀ ws : List Char, after? ws (ws ++ rest) = some rest := by
    intro ws
    induction ws with
    | nil => cases rest <;> rfl
    | cons w ws ih => simpa [after?] using ih
  unfold exactly
  rw [found]
  rfl

theorem exactly_eq_none {word : String} {w : Char} {ws : List Char} (starts : word.toList = w :: ws)
    (absent : ∀ c ∈ rest.head?, c ≠ w) : exactly word rest = none := by
  unfold exactly
  rw [starts]
  cases rest with
  | nil => rfl
  | cons c rest => simp [after?, (absent c rfl).symm]

/-- What a text starts with is known where its first character is. -/
theorem forall_head?_cons {p : Char → Prop} {c : Char} (h : p c) : ∀ c' ∈ (c :: cs).head?, p c' := by
  simpa using h

theorem exactly_cons_eq_none {word : String} {w : Char} {ws : List Char}
    (starts : word.toList = w :: ws) {c : Char} (other : c ≠ w) : exactly word (c :: cs) = none :=
  exactly_eq_none starts (forall_head?_cons other)

end Text.Reader

end QueryGate
