-- Readers take what they read off the front of the text. What a reader
-- gives can be weighed against the characters that it took, so no text
-- gives more than it has characters for.
import QueryGate.GraphQL.Parse
import QueryGate.Proofs.Nesting

namespace QueryGate

variable {α β : Type}

theorem bind_eq_ok_iff {ε : Type} {x : Except ε α} {f : α → Except ε β} {b : β} :
    x >>= f = .ok b ↔ ∃ a, x = .ok a ∧ f a = .ok b := by
  cases x <;> simp [bind, Except.bind]

namespace Text

/-! ## The law of a reader -/

/-- The reader takes characters off the front of a text, and what it gives weighs no more than these
and the credit together. -/
def Takes (credit : Nat) (r : Reader α) (weight : α → Nat) : Prop :=
  ∀ cs a rest, r cs = some (a, rest) → rest <:+ cs ∧ weight a + rest.length ≤ cs.length + credit

/-- The reader takes characters off the front of a text, whatever it gives. -/
abbrev TakesFront (r : Reader α) : Prop := Takes 0 r fun _ => 0

namespace Takes

variable {credit : Nat} {r r' : Reader α} {f : α → Reader β} {v : α → Nat} {w : β → Nat}

theorem pure {a : α} (paid : v a ≤ credit) : Takes credit (Pure.pure a) v := by
  rintro cs _ _ ⟨⟩
  exact ⟨List.suffix_refl cs, by omega⟩

theorem failure : Takes credit (failure : Reader α) v := by
  rintro cs a rest ⟨⟩

theorem bind (h : Takes credit r v) (next : ∀ a, Takes (v a) (f a) w) :
    Takes credit (r >>= f) w := by
  intro cs b rest read
  obtain ⟨⟨a, middle⟩, first, second⟩ := Option.bind_eq_some_iff.mp read
  obtain ⟨suffix, paid⟩ := h cs a middle first
  obtain ⟨suffix', paid'⟩ := next a middle b rest second
  exact ⟨suffix'.trans suffix, by omega⟩

/-- What is held already stays held. -/
theorem hold (h : Takes credit r v) (held : Nat) : Takes (credit + held) r fun a => v a + held := by
  intro cs a rest read
  obtain ⟨suffix, paid⟩ := h cs a rest read
  exact ⟨suffix, by dsimp only; omega⟩

theorem lighter (h : Takes credit r v) {v' : α → Nat} (less : ∀ a, v' a ≤ v a) :
    Takes credit r v' := by
  intro cs a rest read
  obtain ⟨suffix, paid⟩ := h cs a rest read
  exact ⟨suffix, by have := less a; omega⟩

/-- What reads nothing that weighs leaves the credit. -/
theorem after (h : TakesFront r) (next : ∀ a, Takes credit (f a) w) : Takes credit (r >>= f) w := by
  have held := h.hold credit
  simp only [Nat.zero_add] at held
  exact held.bind next

theorem orElse (h : Takes credit r v) (h' : Takes credit r' v) : Takes credit (r <|> r') v := by
  intro cs a rest read
  have either : (r cs <|> r' cs) = some (a, rest) := read
  cases first : r cs with
  | none => exact h' cs a rest (by simpa [first] using either)
  | some found => exact h cs a rest (by simpa [first] using either)

/-- What is read after a look at the whole text. -/
theorem of_text {g : List Char → Reader α} (h : ∀ cs, Takes credit (g cs) v) :
    Takes credit (fun cs => g cs cs) v := fun cs => h cs cs

theorem optionally (h : Takes credit r v) :
    Takes credit (Reader.optionally r) fun a => a.elim 0 v := by
  intro cs a rest read
  unfold Reader.optionally at read
  split at read
  · obtain ⟨rfl, rfl⟩ : _ = a ∧ _ = rest := by simpa using read
    exact h cs _ _ ‹_›
  · obtain ⟨rfl, rfl⟩ : _ = a ∧ _ = rest := by simpa using read
    exact ⟨List.suffix_refl cs, by simp⟩

/-- A reader that leaves an end of the text takes off the front. -/
theorem of_suffix (h : ∀ cs a rest, r cs = some (a, rest) → rest <:+ cs) : TakesFront r := by
  intro cs a rest read
  have suffix := h cs a rest read
  exact ⟨suffix, by simpa using suffix.length_le⟩

theorem notAhead (r : Reader α) : TakesFront (Reader.notAhead r) := by
  refine of_suffix fun cs a rest read => ?_
  unfold Reader.notAhead at read
  split at read
  · cases read
  · obtain rfl : cs = rest := by simpa using read
    exact List.suffix_refl cs

theorem repeatedUpTo (h : Takes 0 r v) (limit : Nat) :
    Takes 0 (Reader.repeatedUpTo r limit) fun as => (as.map v).sum := by
  induction limit with
  | zero => exact .pure (Nat.le_refl 0)
  | succ limit ih =>
    intro cs as rest read
    rw [Reader.repeatedUpTo] at read
    dsimp only at read
    split at read
    · rename_i a middle first
      obtain ⟨⟨more, rest'⟩, later, same⟩ := Option.map_eq_some_iff.mp read
      obtain ⟨rfl, rfl⟩ : a :: more = as ∧ rest' = rest := by simpa using same
      obtain ⟨suffix, paid⟩ := h cs a middle first
      obtain ⟨suffix', paid'⟩ := ih middle more rest' later
      refine ⟨suffix'.trans suffix, ?_⟩
      simp only [List.map_cons, List.sum_cons] at paid' ⊢
      omega
    · obtain ⟨rfl, rfl⟩ : [] = as ∧ cs = rest := by simpa using read
      exact ⟨List.suffix_refl cs, by simp⟩

theorem repeated (h : Takes 0 r v) : Takes 0 (Reader.repeated r) fun as => (as.map v).sum :=
  of_text (g := fun cs => Reader.repeatedUpTo r cs.length) fun cs => h.repeatedUpTo cs.length

theorem repeatedOnce (h : Takes 0 r v) :
    Takes 0 (Reader.repeatedOnce r) fun as => (as.map v).sum := by
  refine h.bind fun a => ?_
  have later := (h.repeated).hold (v a)
  rw [Nat.zero_add] at later
  exact later.bind fun as => .pure (by simp; omega)

/-- Taking off the front is what is left of a reader when its weights are forgotten. -/
theorem front (h : Takes 0 r v) : TakesFront r := h.lighter fun _ => Nat.zero_le _

/-- What is made of what was read takes nothing more. -/
theorem giving (h : TakesFront r) (make : α → β) : TakesFront (r >>= fun a => Pure.pure (make a)) :=
  h.bind fun _ => .pure (Nat.le_refl 0)

/-! ## Characters -/

theorem eq_append_of_after? {ws cs rest : List Char} (h : after? ws cs = some rest) :
    cs = ws ++ rest := by
  induction ws generalizing cs with
  | nil => exact Option.some.inj h
  | cons w ws ih =>
    cases cs with
    | nil => cases h
    | cons c cs =>
      rw [after?] at h
      split at h
      · rename_i same
        rw [ih h, same, List.cons_append]
      · cases h

theorem exactly_length (word : String) :
    Takes 0 (Reader.exactly word) fun _ => word.toList.length := by
  intro cs a rest read
  obtain ⟨rest', found, same⟩ := Option.map_eq_some_iff.mp read
  obtain rfl : rest' = rest := congrArg Prod.snd same
  obtain rfl := eq_append_of_after? found
  exact ⟨List.suffix_append _ _, by simp⟩

theorem exactly (word : String) : TakesFront (Reader.exactly word) := (exactly_length word).front

theorem charWhere (p : Char → Bool) : Takes 0 (Reader.charWhere p) fun _ => 1 := by
  rintro (_ | ⟨c, cs⟩) a rest read
  · cases read
  · rw [Reader.charWhere] at read
    split at read
    · obtain ⟨rfl, rfl⟩ : c = a ∧ cs = rest := by simpa using read
      exact ⟨List.suffix_cons _ _, by simp; omega⟩
    · cases read

theorem charsWhile (p : Char → Bool) : TakesFront (Reader.charsWhile p) :=
  of_suffix fun cs _ _ read => by cases read; exact List.dropWhile_suffix p

theorem someCharsWhile (p : Char → Bool) : TakesFront (Reader.someCharsWhile p) :=
  (charWhere p).front.bind fun _ => (charsWhile p).giving _

end Takes

end Text

namespace GraphQL

open Text

variable {credit : Nat} {r : Reader α} {v : α → Nat}

/-! ## Between the parts -/

mutual

theorem skip_suffix : ∀ cs : List Char, skip cs <:+ cs
  | [] => by simp [skip]
  | c :: rest => by
    rw [skip]
    split
    · exact (skip_suffix rest).trans (List.suffix_cons _ _)
    · split
      · exact (skipComment_suffix rest).trans (List.suffix_cons _ _)
      · exact List.suffix_refl _

theorem skipComment_suffix : ∀ cs : List Char, skipComment cs <:+ cs
  | [] => by simp [skipComment]
  | c :: rest => by
    rw [skipComment]
    split
    · exact (skip_suffix rest).trans (List.suffix_cons _ _)
    · exact (skipComment_suffix rest).trans (List.suffix_cons _ _)

end

theorem takes_token (h : Takes credit r v) : Takes credit (token r) v := by
  intro cs a rest read
  obtain ⟨suffix, paid⟩ := h (skip cs) a rest read
  have := (skip_suffix cs).length_le
  exact ⟨suffix.trans (skip_suffix cs), by omega⟩

theorem takes_mark_length (word : String) : Takes 0 (mark word) fun _ => word.toList.length :=
  takes_token (.exactly_length word)

theorem takes_mark (word : String) : TakesFront (mark word) := (takes_mark_length word).front

theorem takes_start : TakesFront (token get) :=
  takes_token <| .of_suffix fun cs _ _ read => by cases read; exact List.suffix_refl cs

/-! ## Names, numbers and strings -/

theorem takes_name : Takes 0 name fun _ => 1 :=
  (Takes.charWhere _).bind fun _ => (Takes.charsWhile _).after fun _ => .pure (Nat.le_refl 1)

theorem takes_digits : TakesFront digits := .someCharsWhile _

theorem takes_wholeDigits : TakesFront wholeDigits :=
  .orElse ((Takes.exactly _).giving _) takes_digits

theorem takes_fractionDigits : TakesFront fractionDigits :=
  (Takes.exactly _).bind fun _ => takes_digits

theorem takes_exponent : TakesFront exponent := by
  refine (Takes.charWhere _).front.bind fun _ => Takes.bind (v := fun _ => 0) ?sign fun _ =>
    takes_digits.giving _
  exact .orElse ((Takes.exactly _).giving _)
    (.orElse ((Takes.exactly _).giving _) (.pure (Nat.le_refl 0)))

theorem takes_number : TakesFront number :=
  (Takes.exactly _).optionally.front.bind fun _ =>
  takes_wholeDigits.bind fun _ =>
  takes_fractionDigits.optionally.front.bind fun _ =>
  takes_exponent.optionally.front.bind fun _ =>
  (Takes.notAhead _).giving _

theorem takes_fourDigits : TakesFront fourDigits := by
  refine .of_suffix fun cs n rest read => ?_
  rw [fourDigits, hexUnit?] at read
  split at read
  · obtain ⟨_, _, same⟩ := Option.map_eq_some_iff.mp read
    obtain rfl : cs.drop 4 = rest := congrArg Prod.snd same
    exact List.drop_suffix 4 cs
  · cases read

theorem takes_unicodeEscape : TakesFront unicodeEscape := by
  refine takes_fourDigits.bind fun n => ?_
  split
  · exact .failure
  · exact .pure (Nat.le_refl 0)

theorem takes_escape : TakesFront escape := by
  refine (Takes.exactly _).bind fun _ => .orElse ?_ ((Takes.exactly _).bind fun _ =>
    takes_unicodeEscape)
  exact (Takes.charWhere _).front.giving _

theorem takes_lineString : TakesFront lineString := by
  have char : TakesFront stringChar := .orElse (Takes.charWhere _).front takes_escape
  exact (Takes.exactly _).bind fun _ => char.repeated.front.bind fun _ =>
    (Takes.exactly _).giving _

theorem takes_blockString : TakesFront blockString := by
  have char : TakesFront blockChar :=
    .orElse ((Takes.exactly _).giving _)
      ((Takes.notAhead _).bind fun _ => (Takes.charWhere _).front.giving _)
  exact (Takes.exactly _).bind fun _ => char.repeated.front.bind fun _ =>
    (Takes.exactly _).giving _

theorem takes_string : TakesFront string := .orElse takes_blockString takes_lineString

/-! ## Values -/

theorem takes_boolean : TakesFront boolean :=
  .orElse ((Takes.exactly _).giving _) ((Takes.exactly _).giving _)

theorem takes_enumName : TakesFront enumName :=
  (Takes.notAhead _).bind fun _ => (Takes.notAhead _).bind fun _ => takes_name.front

theorem takes_variableName : TakesFront variableName :=
  (Takes.exactly _).bind fun _ => takes_token takes_name.front

theorem takes_member {value : Reader Value} (h : TakesFront value) : TakesFront (member value) :=
  (takes_token takes_name.front).bind fun _ => (takes_mark _).bind fun _ =>
    (takes_token h).giving _

theorem takes_valueUpTo (constant : Bool) (depth : Nat) : TakesFront (valueUpTo constant depth) := by
  induction depth with
  | zero => exact .failure
  | succ depth ih =>
    rw [valueUpTo]
    refine .orElse ?reference (.orElse ?number (.orElse ?string (.orElse ?boolean (.orElse ?null
      (.orElse ?enum (.orElse ?list ?object))))))
    case reference =>
      split
      · exact .failure
      · exact takes_variableName.giving _
    case number => exact takes_number.giving _
    case string => exact takes_string.giving _
    case boolean => exact takes_boolean.giving _
    case null => exact (Takes.exactly _).giving _
    case enum => exact takes_enumName.giving _
    case list =>
      exact (Takes.exactly _).bind fun _ => (takes_token ih).repeated.front.bind fun _ =>
        (takes_mark _).giving _
    case object =>
      exact (Takes.exactly _).bind fun _ => (takes_member ih).repeated.front.bind fun _ =>
        (takes_mark _).giving _

theorem takes_value (constant : Bool) : TakesFront (value constant) :=
  .of_text (g := fun cs => valueUpTo constant (cs.length + 1)) fun _ => takes_valueUpTo constant _

/-! ## Arguments and directives -/

theorem takes_optionalArguments : TakesFront optionalArguments := by
  have written : TakesFront arguments :=
    (takes_mark _).bind fun _ => (takes_member (takes_value false)).repeatedOnce.front.bind fun _ =>
      (takes_mark _).giving _
  exact written.optionally.front.giving _

theorem takes_directives : TakesFront directives := by
  have one : TakesFront directive :=
    (takes_mark _).bind fun _ => (takes_token takes_name.front).bind fun _ =>
      takes_optionalArguments.giving _
  exact one.repeated.front

theorem takes_typeCondition : TakesFront typeCondition :=
  (Takes.exactly _).bind fun _ => (Takes.someCharsWhile _).bind fun _ => takes_name.front

theorem takes_label : TakesFront label :=
  (takes_token takes_name.front).bind fun _ => (takes_mark _).giving _

/-! ## Selections -/

open Analysis

variable {place : List Char → Position}

/-- The brace in front is taken besides what the selections weigh. -/
theorem takes_braced {selection : Reader Selection} (h : Takes 0 selection nesting) :
    Takes 0 (braced place selection) fun s => nestingAll s.2 + 1 := by
  have inside := h.repeatedOnce.hold 1
  rw [Nat.zero_add] at inside
  refine takes_start.bind fun _ => (takes_mark_length _).bind fun _ => inside.bind fun ss => ?_
  have deepest := nestingAll_eq ss ▸ foldr_max_le_sum (ss.map nesting)
  exact (takes_mark _).after fun _ => .pure (Nat.add_le_add_right deepest 1)

theorem takes_field {selections : Reader (Position × List Selection)}
    (h : Takes 0 selections fun s => nestingAll s.2) :
    Takes 0 (field place selections) nesting := by
  -- The name is what a level of nesting is paid with.
  refine takes_start.bind fun _ => takes_label.optionally.front.bind fun _ =>
    (takes_token takes_name).bind fun _ => takes_optionalArguments.after fun _ =>
      takes_directives.after fun _ => ?_
  have below := h.optionally.hold 1
  rw [Nat.zero_add] at below
  refine below.bind fun found => ?_
  split
  · exact .pure (by simp [nesting]; omega)
  · exact .pure (by simp [nesting, nestingAll])

theorem takes_inlineFragment {selections : Reader (Position × List Selection)}
    (h : Takes 0 selections fun s => nestingAll s.2) :
    Takes 0 (inlineFragment selections) nesting := by
  refine (takes_mark _).bind fun _ => (takes_token takes_typeCondition).optionally.front.bind fun _ =>
    takes_directives.bind fun _ => h.bind fun found => ?_
  exact .pure (by simp [nesting])

theorem takes_fragmentSpread : Takes 0 fragmentSpread nesting :=
  (takes_mark _).bind fun _ => (Takes.notAhead _).bind fun _ =>
    (takes_token takes_name.front).bind fun _ => takes_directives.bind fun _ =>
      .pure (by simp [nesting])

theorem takes_selectionUpTo (depth : Nat) : Takes 0 (selectionUpTo place depth) nesting := by
  induction depth with
  | zero => exact .failure
  | succ depth ih =>
    rw [selectionUpTo]
    have below : Takes 0 (braced place (selectionUpTo place depth)) fun s => nestingAll s.2 :=
      (takes_braced ih).lighter fun _ => Nat.le_succ _
    exact .orElse (takes_field below) (.orElse (takes_inlineFragment below) takes_fragmentSpread)

theorem takes_selectionSet : Takes 0 (selectionSet place) fun s => nestingAll s.2 + 1 :=
  .of_text (g := fun cs => braced place (selectionUpTo place (cs.length + 1))) fun _ =>
    takes_braced (takes_selectionUpTo _)

/-! ## Definitions -/

theorem takes_typeUpTo (depth : Nat) : TakesFront (typeUpTo depth) := by
  induction depth with
  | zero => exact .failure
  | succ depth ih =>
    rw [typeUpTo]
    refine Takes.bind (v := fun _ => 0) (.orElse takes_name.front ?list) fun _ =>
      (Takes.exactly _).optionally.front.bind fun _ => ?_
    case list =>
      exact (Takes.exactly _).bind fun _ => ih.bind fun _ => (Takes.exactly _).giving _
    split <;> exact .pure (Nat.le_refl 0)

theorem takes_typeText : TakesFront typeText :=
  .of_text (g := fun cs => typeUpTo (cs.length + 1)) fun _ => takes_typeUpTo _

theorem takes_operationType : TakesFront operationType :=
  .orElse ((Takes.exactly _).giving _)
    (.orElse ((Takes.exactly _).giving _) ((Takes.exactly _).giving _))

theorem takes_variableDefinition : TakesFront variableDefinition := by
  have default : TakesFront (do mark "="; token (value true)) :=
    (takes_mark _).bind fun _ => takes_token (takes_value true)
  exact (takes_token takes_variableName).bind fun _ => (takes_mark _).bind fun _ =>
    (takes_token takes_typeText).bind fun _ => takes_directives.bind fun _ =>
      default.optionally.front.giving _

theorem takes_variableDefinitions : TakesFront variableDefinitions := by
  refine Takes.giving (Takes.optionally (v := fun _ => 0) ?_).front _
  exact (takes_mark _).bind fun _ => takes_variableDefinition.repeated.front.bind fun _ =>
    (takes_mark _).giving _

/-- The selections of a definition. -/
def Definition.selections : Definition → List Selection
  | .operation _ o => o.selections
  | .fragment _ _ f => f.selections

theorem takes_definition : Takes 0 (definition place) fun x => nestingAll x.selections + 1 := by
  refine .orElse ?named (.orElse ?bare ?fragment)
  case named =>
    refine takes_start.bind fun _ => (takes_token takes_operationType).bind fun _ =>
      (takes_token takes_name).optionally.front.bind fun _ => takes_variableDefinitions.bind fun _ =>
        takes_directives.bind fun _ => takes_selectionSet.bind fun found => ?_
    exact .pure (Nat.le_refl _)
  case bare =>
    refine takes_start.bind fun _ => takes_selectionSet.bind fun found => ?_
    exact .pure (Nat.le_refl _)
  case fragment =>
    refine takes_start.bind fun _ => (takes_mark _).bind fun _ =>
      (takes_token takes_name.front).bind fun _ => (takes_token takes_typeCondition).bind fun _ =>
        takes_directives.bind fun _ => takes_selectionSet.bind fun found => ?_
    exact .pure (Nat.le_refl _)

theorem takes_definitions :
    Takes 0 (definitions place) fun all => (all.map fun x => nestingAll x.selections).sum := by
  have one : Takes 0 (definition place) fun x => nestingAll x.selections :=
    takes_definition.lighter fun _ => Nat.le_succ _
  refine one.repeatedOnce.bind fun all => ?_
  have skipping : TakesFront (modify skip) :=
    .of_suffix fun cs _ _ read => by cases read; exact skip_suffix cs
  exact skipping.after fun _ => .pure (Nat.le_refl _)

/-! ## Documents -/

namespace Assembly

/-- The nesting of all that was put together, one definition after the other. -/
def written (a : Assembly) : Nat :=
  ((a.operations.elim [] Operations.toList).map fun o => nestingAll o.2.selections).sum +
    (a.fragments.map fun f => nestingAll f.2.2.selections).sum

/-- The selections of all that was put together, one definition after the other. -/
def bodies (a : Assembly) : List (List Selection) :=
  (a.operations.elim [] Operations.toList).map (·.2.selections) ++ a.fragments.map (·.2.2.selections)

theorem written_eq (a : Assembly) : a.written = (a.bodies.map nestingAll).sum := by
  rw [bodies, List.map_append, List.sum_append, List.map_map, List.map_map]
  rfl

theorem bodies_addAnonymous {a a' : Assembly} {o : Operation} (h : a.addAnonymous o = .ok a') :
    a'.bodies.Perm (o.selections :: a.bodies) := by
  unfold addAnonymous at h
  split at h
  · rename_i none
    obtain rfl := Except.ok.inj h
    simp [bodies, none, Operations.toList]
  · cases h

theorem bodies_addNamed {a a' : Assembly} {name : String} {o : Operation}
    (h : a.addNamed name o = .ok a') : a'.bodies.Perm (o.selections :: a.bodies) := by
  unfold addNamed at h
  split at h
  · cases h
  · rename_i operations some
    split at h
    · cases h
    · obtain rfl := Except.ok.inj h
      simp [bodies, some, Operations.toList]
  · rename_i none
    obtain rfl := Except.ok.inj h
    simp [bodies, none, Operations.toList]

theorem bodies_addFragment {a a' : Assembly} {name : String} {p : Position} {f : Fragment}
    (h : a.addFragment name p f = .ok a') : a'.bodies.Perm (f.selections :: a.bodies) := by
  unfold addFragment at h
  split at h
  · cases h
  · obtain rfl := Except.ok.inj h
    simp only [bodies, List.map_append, List.map_cons, List.map_nil, ← List.append_assoc]
    exact List.perm_append_singleton _ _

/-- What is put together has one more body, that of the definition that was added. -/
theorem bodies_add {a a' : Assembly} {x : Definition} (h : a.add x = .ok a') :
    a'.bodies.Perm (x.selections :: a.bodies) :=
  match x, h with
  | .operation none _, h => bodies_addAnonymous h
  | .operation (some _) _, h => bodies_addNamed h
  | .fragment _ _ _, h => bodies_addFragment h

theorem bodies_foldlM {xs : List Definition} {a a' : Assembly} (h : xs.foldlM add a = .ok a') :
    a'.bodies.Perm (xs.map Definition.selections ++ a.bodies) := by
  induction xs generalizing a with
  | nil =>
    obtain rfl : a = a' := Except.ok.inj h
    exact .refl _
  | cons x rest ih =>
    rw [List.foldlM_cons] at h
    obtain ⟨middle, first, later⟩ := bind_eq_ok_iff.mp h
    have all := (ih later).trans ((bodies_add first).append_left _)
    exact all.trans List.perm_middle

/-- What is put together is as deep as it is written. -/
theorem depth_le_written {a : Assembly} {d : Document} (h : a.finish = .ok d) :
    depth d ≤ a.written := by
  unfold finish at h
  split at h
  · cases h
  · rename_i operations some
    obtain rfl := Except.ok.inj h
    refine Nat.le_trans (depth_le_nesting _) (Nat.add_le_add ?_ ?_)
    · simp only [some, Option.elim_some]
      exact foldr_max_le_sum _
    · rw [List.map_map]
      exact Nat.le_refl _

end Assembly

/-- Where a text has a document, its definitions are read to the end of the text, looked at, and put
together. -/
theorem exists_definitions_of_parse {text : String} {d : Document} (h : parse text = .ok d) :
    ∃ all a, definitions (GraphQL.place text.toList) text.toList = some (all, []) ∧
      all.forM Definition.check = .ok () ∧ all.foldlM Assembly.add {} = .ok a ∧
      a.finish = .ok d := by
  unfold parse at h
  dsimp only at h
  split at h
  · cases h
  · rename_i all whole
    obtain ⟨_, checked, h⟩ := bind_eq_ok_iff.mp h
    obtain ⟨a, together, finished⟩ := bind_eq_ok_iff.mp h
    refine ⟨all, a, ?_, checked, together, finished⟩
    unfold Reader.whole? at whole
    split at whole
    · rename_i read
      obtain rfl := Option.some.inj whole
      exact read
    · cases whole

theorem parse_of_definitions {text : String} {all : List Definition} {a : Assembly} {d : Document}
    (read : definitions (GraphQL.place text.toList) text.toList = some (all, []))
    (checked : all.forM Definition.check = .ok ()) (together : all.foldlM Assembly.add {} = .ok a)
    (finished : a.finish = .ok d) : parse text = .ok d := by
  unfold parse Reader.whole?
  dsimp only
  rw [read]
  dsimp only
  rw [checked]
  show (all.foldlM Assembly.add {} >>= Assembly.finish) = _
  rw [together]
  exact finished

/-- No document is deeper than its text is long. -/
theorem depth_le_length {text : String} {d : Document} (h : parse text = .ok d) :
    depth d ≤ text.length := by
  obtain ⟨all, a, read, -, together, finished⟩ := exists_definitions_of_parse h
  have taken := (takes_definitions _ _ _ read).2
  have put := ((Assembly.bodies_foldlM together).map nestingAll).sum_eq
  have deep := Assembly.depth_le_written finished
  have nothing : Assembly.bodies {} = [] := rfl
  simp only [nothing, List.append_nil, List.map_map, Function.comp_def] at put
  rw [Assembly.written_eq, put] at deep
  simp only [List.length_nil, String.length_toList] at taken
  omega

end GraphQL

end QueryGate
