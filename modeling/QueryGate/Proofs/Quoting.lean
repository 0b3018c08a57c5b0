-- Texts and names in TOML as a writer puts them down. Each is read back as
-- what it was, whatever characters it holds and however these are escaped,
-- as long as nothing follows that would belong to it.
import Mathlib.Algebra.GroupWithZero.Nat
import QueryGate.Proofs.Readers
import QueryGate.Proofs.Spelling
import QueryGate.Toml.Document

namespace QueryGate.Toml

open Text Reader

variable {rest : List Char}

/-! ## Characters of a string -/

/-- So many hexadecimal digits of a number, the first one weighing most. -/
def hexChars : Nat → Nat → List Char
  | 0, _ => []
  | count + 1, n => hexChars count (n / 16) ++ [Nat.digitChar (n % 16)]

/-- The ways to write a character between the quotes of a string. -/
inductive SpellsChar (c : Char) : List Char → Prop
  | plain : isPlain c → c ≠ '"' → c ≠ '\\' → SpellsChar c [c]
  | letter {l : Char} : simpleEscape l = some c → SpellsChar c ['\\', l]
  | short : c.toNat < 16 ^ 4 → SpellsChar c ('\\' :: 'u' :: hexChars 4 c.toNat)
  | long : SpellsChar c ('\\' :: 'U' :: hexChars 8 c.toNat)

/-- A writer's choice among these ways. -/
structure Spelling where
  chars : Char → List Char
  spells : ∀ c, SpellsChar c (chars c)

/-- Escapes what has to be escaped, by its number, and nothing else. -/
def Spelling.least : Spelling where
  chars c := if isPlain c ∧ c ≠ '"' ∧ c ≠ '\\' then [c] else '\\' :: 'U' :: hexChars 8 c.toNat
  spells c := by
    split
    case isTrue h => exact .plain h.1 h.2.1 h.2.2
    case isFalse => exact .long

theorem hexValue?_digitChar : ∀ n < 16, hexValue? (Nat.digitChar n) = some n := by decide

theorem length_hexChars (count n : Nat) : (hexChars count n).length = count := by
  induction count generalizing n with
  | zero => rfl
  | succ count ih => rw [hexChars, List.length_append, ih]; rfl

theorem hexNumber?_hexChars (count : Nat) {n : Nat} (small : n < 16 ^ count) :
    hexNumber? (hexChars count n) = some n := by
  induction count generalizing n with
  | zero =>
    obtain rfl : n = 0 := by simpa using small
    rfl
  | succ count ih =>
    have shorter : n / 16 < 16 ^ count := by
      rw [Nat.div_lt_iff_lt_mul (by decide)]
      exact small
    have front := ih shorter
    unfold hexNumber? at front ⊢
    rw [hexChars, List.foldlM_append, front]
    simp [hexValue?_digitChar _ (Nat.mod_lt n (by decide : 16 > 0)), Nat.div_add_mod]

theorem numberedChar_hexChars {count : Nat} {c : Char} (small : c.toNat < 16 ^ count) :
    numberedChar count (hexChars count c.toNat ++ rest) = some (c, rest) := by
  have unit : hexUnit? count (hexChars count c.toNat ++ rest) = some (c.toNat, rest) := by
    have length := length_hexChars count c.toNat
    unfold hexUnit?
    rw [List.take_left' length, List.drop_left' length, if_pos length, hexNumber?_hexChars _ small]
    rfl
  unfold numberedChar
  rw [unit]
  dsimp only
  have valid : c.toNat.isValidChar := c.valid
  rw [if_pos valid, Char.ofNat_toNat]

theorem toNat_lt_long (c : Char) : c.toNat < 16 ^ 8 := by
  have := c.val.toNat_lt
  exact this

theorem escape_letter {c l : Char} (h : simpleEscape l = some c) :
    escape ('\\' :: l :: rest) = some (c, rest) := by
  have letter : letterEscape (l :: rest) = some (c, rest) := by
    unfold letterEscape
    have first : charWhere (fun c => (simpleEscape c).isSome) (l :: rest) = some (l, rest) := by
      simp [charWhere, h]
    rw [bind_of_some first, h]
    rfl
  have start : exactly "\\" ('\\' :: l :: rest) = some ((), l :: rest) := rfl
  unfold escape
  rw [bind_of_some start, orElse_of_some letter]

theorem escape_short {c : Char} (small : c.toNat < 16 ^ 4) :
    escape ('\\' :: 'u' :: (hexChars 4 c.toNat ++ rest)) = some (c, rest) := by
  have start : exactly "\\" ('\\' :: 'u' :: (hexChars 4 c.toNat ++ rest)) =
      some ((), 'u' :: (hexChars 4 c.toNat ++ rest)) := rfl
  have noLetter : letterEscape ('u' :: (hexChars 4 c.toNat ++ rest)) = none := rfl
  have mark : exactly "u" ('u' :: (hexChars 4 c.toNat ++ rest)) =
      some ((), hexChars 4 c.toNat ++ rest) := rfl
  unfold escape
  rw [bind_of_some start, orElse_of_none noLetter]
  apply orElse_of_some
  rw [bind_of_some mark, numberedChar_hexChars small]

theorem escape_long (c : Char) :
    escape ('\\' :: 'U' :: (hexChars 8 c.toNat ++ rest)) = some (c, rest) := by
  have start : exactly "\\" ('\\' :: 'U' :: (hexChars 8 c.toNat ++ rest)) =
      some ((), 'U' :: (hexChars 8 c.toNat ++ rest)) := rfl
  have noLetter : letterEscape ('U' :: (hexChars 8 c.toNat ++ rest)) = none := rfl
  have mark : exactly "U" ('U' :: (hexChars 8 c.toNat ++ rest)) =
      some ((), hexChars 8 c.toNat ++ rest) := rfl
  unfold escape
  rw [bind_of_some start, orElse_of_none noLetter, orElse_of_none rfl, bind_of_some mark,
    numberedChar_hexChars (toNat_lt_long c)]

theorem basicChar_of_spells {c : Char} {cs : List Char} (h : SpellsChar c cs) (rest : List Char) :
    basicChar (cs ++ rest) = some (c, rest) := by
  have noPlain (cs : List Char) :
      charWhere (fun c => isPlain c && c != '"' && c != '\\') ('\\' :: cs) = none := rfl
  unfold basicChar
  cases h with
  | plain plain noQuote noBackslash =>
    apply orElse_of_some
    simp [charWhere, plain, noQuote, noBackslash]
  | letter escaped => exact (orElse_of_none (noPlain _)).trans (escape_letter escaped)
  | short small => exact (orElse_of_none (noPlain _)).trans (escape_short small)
  | long => exact (orElse_of_none (noPlain _)).trans (escape_long c)

theorem exists_of_spells {c : Char} {cs : List Char} (h : SpellsChar c cs) :
    ∃ c' cs', cs = c' :: cs' ∧ c' ≠ '"' := by
  cases h with
  | plain _ noQuote _ => exact ⟨c, [], rfl, noQuote⟩
  | letter _ => exact ⟨'\\', _, rfl, by decide⟩
  | short _ => exact ⟨'\\', _, rfl, by decide⟩
  | long => exact ⟨'\\', _, rfl, by decide⟩

/-! ## Strings -/

variable (sp : Spelling)

/-- A text in quotes. -/
def Spelling.quoted (s : String) : List Char := '"' :: (s.toList.flatMap sp.chars ++ ['"'])

theorem basicString_quoted (s : String) (rest : List Char) :
    basicString (sp.quoted s ++ rest) = some (s, rest) := by
  have start : exactly "\"" (sp.quoted s ++ rest) =
      some ((), s.toList.flatMap sp.chars ++ '"' :: rest) := by
    simpa [Spelling.quoted] using exactly_append "\"" (s.toList.flatMap sp.chars ++ '"' :: rest)
  have inside : Runs basicChar (s.toList.flatMap sp.chars ++ '"' :: rest) s.toList ('"' :: rest) := by
    have runs : Runs basicChar (s.toList.flatMap sp.chars ++ '"' :: rest) (s.toList.map id)
        ('"' :: rest) := by
      refine runs_flatMap (fun _ => True) (fun c _ rest _ => ?_) (fun c _ => ?_)
        (fun _ _ _ => trivial) trivial rfl
      · exact basicChar_of_spells (sp.spells c) rest
      · obtain ⟨c', cs', same, -⟩ := exists_of_spells (sp.spells c)
        simp [same]
    rwa [List.map_id] at runs
  have close : exactly "\"" ('"' :: rest) = some ((), rest) := rfl
  unfold basicString
  rw [bind_of_some start, bind_of_some (repeated_of_runs inside), bind_of_some close]
  exact congrArg (fun s => some (s, rest)) String.ofList_toList

/-- No quote follows. -/
def NoQuote (rest : List Char) : Prop := ∀ c ∈ rest.head?, c ≠ '"'

/-- A text in quotes does not start with three of them, where no quote follows it. -/
theorem exactly_threeQuotes_quoted {s : String} (after : NoQuote rest) :
    exactly "\"\"\"" (sp.quoted s ++ rest) = none := by
  cases h : s.toList with
  | nil =>
    cases rest with
    | nil => simp [exactly, Spelling.quoted, h, after?]
    | cons c rest =>
      have other : '"' ≠ c := (after c rfl).symm
      simp [exactly, Spelling.quoted, h, after?, other]
  | cons c cs =>
    obtain ⟨c', cs', same, other⟩ := exists_of_spells (sp.spells c)
    simp [exactly, Spelling.quoted, h, after?, same, other.symm]

theorem string_quoted {s : String} (after : NoQuote rest) :
    string (sp.quoted s ++ rest) = some (s, rest) := by
  have noTriple : multiLineBasic (sp.quoted s ++ rest) = none :=
    bind_of_none (exactly_threeQuotes_quoted sp after)
  unfold string
  rw [orElse_of_none noTriple, orElse_of_some (basicString_quoted sp s rest)]

theorem string_eq_none {cs : List Char} (absent : ∀ c ∈ cs.head?, c ≠ '"' ∧ c ≠ '\'') :
    string cs = none := by
  have noDouble : ∀ c ∈ cs.head?, c ≠ '"' := fun c hc => (absent c hc).1
  have noSingle : ∀ c ∈ cs.head?, c ≠ '\'' := fun c hc => (absent c hc).2
  have noTriple : multiLineBasic cs = none := bind_of_none (exactly_eq_none rfl noDouble)
  have noBasic : basicString cs = none := bind_of_none (exactly_eq_none rfl noDouble)
  have noTriple' : multiLineLiteral cs = none := bind_of_none (exactly_eq_none rfl noSingle)
  have noLiteral : literalString cs = none := bind_of_none (exactly_eq_none rfl noSingle)
  unfold string
  rw [orElse_of_none noTriple, orElse_of_none noBasic, orElse_of_none noTriple', noLiteral]

/-! ## Blanks -/

theorem blanks_eq (cs : List Char) : blanks cs = some ((), cs.dropWhile isBlankChar) := rfl

theorem blanks_of_solid {cs : List Char} (solid : ∀ c ∈ cs.head?, isBlankChar c = false) :
    blanks cs = some ((), cs) := by
  cases cs with
  | nil => rfl
  | cons c cs => rw [blanks_eq, List.dropWhile_cons_of_neg (by simp [solid c rfl])]

theorem restOfLine_newLine (rest : List Char) : restOfLine ('\n' :: rest) = some ((), rest) := rfl

/-! ## Keys -/

/-- A name as it stands in front of its value: bare if it can, and else in quotes. -/
def Spelling.name (s : String) : List Char :=
  if s ≠ "" ∧ s.toList.all isBareKeyChar then s.toList else sp.quoted s

/-- The text is at its end or goes on with something that is in no name without quotes. -/
def NameEnds (rest : List Char) : Prop := ∀ c ∈ rest.head?, isBareKeyChar c = false

/-- A name starts with a character that needs no quotes, or with the quote. -/
theorem exists_name (s : String) :
    ∃ c cs, sp.name s = c :: cs ∧ (isBareKeyChar c ∨ c = '"') := by
  unfold Spelling.name
  split
  · rename_i h
    obtain ⟨nonempty, bare⟩ := h
    cases chars : s.toList with
    | nil => exact absurd (String.toList_eq_nil_iff.mp chars) nonempty
    | cons c cs =>
      rw [chars, List.all_cons, Bool.and_eq_true] at bare
      exact ⟨c, cs, rfl, .inl bare.1⟩
  · exact ⟨'"', _, rfl, .inr rfl⟩

/-- No word that starts with a mark is in front of a name. -/
theorem exactly_name {word : String} {q : Char} {qs : List Char} (starts : word.toList = q :: qs)
    (mark : ¬ (isBareKeyChar q ∨ q = '"')) (s : String) (rest : List Char) :
    exactly word (sp.name s ++ rest) = none := by
  obtain ⟨c, cs, same, first⟩ := exists_name sp s
  rw [same]
  apply exactly_cons_eq_none starts
  rintro rfl
  exact mark first

theorem isBlankChar_eq_false {c : Char} (h : isBareKeyChar c ∨ c = '"') : isBlankChar c = false := by
  rw [Bool.eq_false_iff]
  intro blank
  simp only [isBlankChar, Bool.or_eq_true, beq_iff_eq] at blank
  rcases blank with rfl | rfl <;> exact absurd h (by decide)

theorem blanks_name (s : String) (rest : List Char) :
    blanks (sp.name s ++ rest) = some ((), sp.name s ++ rest) := by
  obtain ⟨c, cs, same, starts⟩ := exists_name sp s
  rw [same]
  exact blanks_of_solid (forall_head?_cons (isBlankChar_eq_false starts))

/-- A name that needs no quotes is read to its end. -/
theorem simpleKey_bare {s : String} (nonempty : s ≠ "") (bare : s.toList.all isBareKeyChar)
    (ends : NameEnds rest) : simpleKey (s.toList ++ rest) = some (s, rest) := by
  obtain ⟨c, cs, chars⟩ := List.exists_cons_of_ne_nil (mt String.toList_eq_nil_iff.mp nonempty)
  rw [chars, List.all_cons, Bool.and_eq_true, List.all_eq_true] at bare
  obtain ⟨first, others⟩ := bare
  have noQuote (q : Char) (quote : isBareKeyChar q = false) : c ≠ q := by
    rintro rfl
    rw [quote] at first
    cases first
  have noBasic : basicString (s.toList ++ rest) = none := by
    rw [chars]
    exact bind_of_none (exactly_cons_eq_none rfl (noQuote '"' rfl))
  have noLiteral : literalString (s.toList ++ rest) = none := by
    rw [chars]
    exact bind_of_none (exactly_cons_eq_none rfl (noQuote '\'' rfl))
  have taken : charWhere isBareKeyChar (s.toList ++ rest) = some (c, cs ++ rest) := by
    simp [charWhere, chars, first]
  have all : someCharsWhile isBareKeyChar (s.toList ++ rest) = some (s.toList, rest) := by
    unfold someCharsWhile
    rw [bind_of_some taken, bind_of_some (charsWhile_append others ends), chars]
    rfl
  unfold simpleKey
  rw [orElse_of_none noBasic, orElse_of_none noLiteral, bind_of_some all]
  exact congrArg (fun s => some (s, rest)) String.ofList_toList

theorem simpleKey_name {s : String} (ends : NameEnds rest) :
    simpleKey (sp.name s ++ rest) = some (s, rest) := by
  unfold Spelling.name
  split
  · rename_i h
    exact simpleKey_bare h.1 h.2 ends
  · unfold simpleKey
    exact orElse_of_some (basicString_quoted sp s rest)

/-- A name with no dot after it is a whole key. -/
theorem key_name {s : String} (ends : NameEnds rest)
    (noDot : ∀ c ∈ (rest.dropWhile isBlankChar).head?, c ≠ '.') :
    key (sp.name s ++ rest) = some (([], s), rest.dropWhile isBlankChar) := by
  have part : keyPart (sp.name s ++ rest) = some (s, rest.dropWhile isBlankChar) := by
    unfold keyPart
    rw [bind_of_some (blanks_name sp s rest), bind_of_some (simpleKey_name sp ends),
      bind_of_some (blanks_eq rest)]
    rfl
  have no_more : (exactly "." >>= fun _ => keyPart) (rest.dropWhile isBlankChar) = none :=
    bind_of_none (exactly_eq_none rfl noDot)
  unfold key
  rw [bind_of_some part, bind_of_some (repeated_of_none no_more)]
  rfl

end QueryGate.Toml
