-- Positions without the walk. The line of a place is told by the line feeds
-- before it, the column by how far the last line end of either kind lies
-- back. So a later place need not have a later position: a carriage return
-- that stands alone takes the column back and leaves the line.
import Mathlib.Data.List.Count
import Mathlib.Data.List.Induction
import QueryGate.GraphQL.Parse
import QueryGate.Proofs.Naming

namespace QueryGate.GraphQL

/-! ## Where a walk ends -/

/-- How many characters stand behind the last line end. -/
def sinceLineEnd (cs : List Char) : Nat := (cs.reverse.takeWhile fun c => !isLineEnd c).length

theorem sinceLineEnd_concat (cs : List Char) (c : Char) :
    sinceLineEnd (cs ++ [c]) = if isLineEnd c then 0 else sinceLineEnd cs + 1 := by
  unfold sinceLineEnd
  rw [List.reverse_concat, List.takeWhile_cons]
  cases isLineEnd c <;> rfl

theorem sinceLineEnd_append (cs : List Char) {more : List Char}
    (none_ends : ∀ c ∈ more, isLineEnd c = false) :
    sinceLineEnd (cs ++ more) = sinceLineEnd cs + more.length := by
  induction more using List.reverseRecOn with
  | nil => simp
  | append_singleton more c ih =>
    have last := none_ends c (by simp)
    have shorter := ih fun c hc => none_ends c (by simp [hc])
    rw [← List.append_assoc, sinceLineEnd_concat, shorter, last, List.length_append]
    rfl

theorem after_eq_foldl (p : Position) (n : Nat) (cs : List Char) :
    p.after n cs = (cs.take n).foldl Position.next p := by
  induction cs generalizing p n with
  | nil => cases n <;> rfl
  | cons c cs ih =>
    cases n with
    | zero => rfl
    | succ n => exact ih (p.next c) n

theorem foldl_next_start (cs : List Char) :
    cs.foldl Position.next ⟨1, 1⟩ = ⟨1 + cs.count '\n', 1 + sinceLineEnd cs⟩ := by
  induction cs using List.reverseRecOn with
  | nil => rfl
  | append_singleton cs c ih =>
    rw [List.foldl_concat, ih, sinceLineEnd_concat, Position.next, List.count_append]
    by_cases feed : c = '\n'
    · subst feed
      rfl
    · by_cases back : c = '\r'
      · subst back
        rfl
      · have inside : isLineEnd c = false := by simp [isLineEnd, feed, back]
        simp [feed, back, inside, Nat.add_assoc]

/-- The position of a place, read off the characters before it. -/
theorem after_start (n : Nat) (text : List Char) :
    Position.after ⟨1, 1⟩ n text =
      ⟨1 + (text.take n).count '\n', 1 + sinceLineEnd (text.take n)⟩ := by
  rw [after_eq_foldl, foldl_next_start]

/-! ## Which of two places comes first -/

/-- A later place has a later position: a line feed lies between, or the line end before the one place
lies less far back than that before the other. -/
def Ahead (text : List Char) (i j : Nat) : Prop :=
  '\n' ∈ (text.take j).drop i ∨ sinceLineEnd (text.take i) < sinceLineEnd (text.take j)

variable {text : List Char} {i j : Nat}

theorem take_append_between (text : List Char) (h : i ≤ j) :
    text.take i ++ (text.take j).drop i = text.take j := by
  have front : (text.take j).take i = text.take i := by rw [List.take_take, Nat.min_eq_left h]
  rw [← front, List.take_append_drop]

theorem before_iff_ahead (h : i ≤ j) :
    (Position.after ⟨1, 1⟩ i text).before (Position.after ⟨1, 1⟩ j text) = true ↔ Ahead text i j := by
  have feeds := congrArg (List.count '\n') (take_append_between text h)
  rw [List.count_append] at feeds
  rw [Serving.before_iff, after_start, after_start, Ahead, ← List.count_pos_iff]
  dsimp only
  omega

/-- Where no line ends between two places, the later one is farther from the start of the line. -/
theorem ahead_of_none_ends (h : i < j) (inside : i < text.length)
    (none_ends : ∀ c ∈ (text.take j).drop i, isLineEnd c = false) : Ahead text i j := by
  have longer := sinceLineEnd_append (text.take i) none_ends
  rw [take_append_between text (Nat.le_of_lt h), List.length_drop, List.length_take] at longer
  right
  omega

theorem isLineEnd_iff (c : Char) : isLineEnd c = true ↔ c = '\n' ∨ c = '\r' := by
  simp [isLineEnd]

theorem ahead_of_no_return (h : i < j) (inside : i < text.length) (no_return : '\r' ∉ text) :
    Ahead text i j := by
  by_cases feed : '\n' ∈ (text.take j).drop i
  · exact .inl feed
  · refine ahead_of_none_ends h inside fun c hc => ?_
    rw [← Bool.not_eq_true, isLineEnd_iff]
    rintro (rfl | rfl)
    · exact feed hc
    · exact no_return (List.mem_of_mem_take (List.mem_of_mem_drop hc))

/-- Carriage returns stand in front of line feeds only. -/
def ReturnsWithFeeds (text : List Char) : Prop :=
  ∀ before after, text = before ++ '\r' :: after → after.head? = some '\n'

theorem ahead_of_returnsWithFeeds (h : i < j) {c : Char} (here : text[j]? = some c)
    (inside : isLineEnd c = false) (returns : ReturnsWithFeeds text) : Ahead text i j := by
  by_cases feed : '\n' ∈ (text.take j).drop i
  · exact .inl feed
  · have within : j < text.length := (List.getElem?_eq_some_iff.mp here).1
    refine ahead_of_none_ends h (by omega) fun c' hc' => ?_
    rw [← Bool.not_eq_true, isLineEnd_iff]
    rintro (rfl | rfl)
    · exact feed hc'
    · -- The line feed that follows lies between as well, or it is the character at the later place.
      obtain ⟨before, after, between⟩ := List.append_of_mem hc'
      have whole : text = (text.take i ++ before) ++ '\r' :: (after ++ text.drop j) := by
        conv_lhs => rw [← List.take_append_drop j text, ← take_append_between text (Nat.le_of_lt h),
          between]
        simp
      have next := returns _ _ whole
      cases after with
      | nil =>
        rw [List.nil_append, List.head?_drop, here] at next
        obtain rfl := Option.some.inj next
        cases inside
      | cons c' after =>
        obtain rfl := Option.some.inj next
        exact feed (by simp [between])

end QueryGate.GraphQL
