-- What a variable of the environment may hold. Between the white space at
-- its ends stands a number that fits 64 bits, with a plus sign if the
-- operator likes; anything else is refused, and told as it was given.
import QueryGate.Proofs.CommandLine

namespace QueryGate

namespace Text

/-! ## White space at the ends -/

/-- White space and nothing else. -/
def AllBlank (cs : List Char) : Prop := ∀ c ∈ cs, isBlank c = true

theorem AllBlank.reverse {cs : List Char} (h : AllBlank cs) : AllBlank cs.reverse :=
  fun c hc => h c (List.mem_reverse.mp hc)

theorem allBlank_takeWhile (cs : List Char) : AllBlank (cs.takeWhile isBlank) :=
  fun _ hc => List.mem_takeWhile_imp hc

theorem exists_eq_append_trim (cs : List Char) :
    ∃ before after, cs = before ++ (trim cs ++ after) ∧ AllBlank before ∧ AllBlank after := by
  have split (cs : List Char) : cs.takeWhile isBlank ++ cs.dropWhile isBlank = cs :=
    List.takeWhile_append_dropWhile
  have back := congrArg List.reverse (split (cs.dropWhile isBlank).reverse)
  rw [List.reverse_append, List.reverse_reverse] at back
  refine ⟨_, _, ?_, allBlank_takeWhile cs,
    (allBlank_takeWhile (cs.dropWhile isBlank).reverse).reverse⟩
  rw [trim, back, split]

section

variable {before core : List Char} (nonempty : core ≠ [])
  (solid : ∀ c ∈ core, isBlank c = false)

include nonempty solid

theorem dropWhile_append_of_solid (front : AllBlank before) (after : List Char) :
    (before ++ (core ++ after)).dropWhile isBlank = core ++ after := by
  obtain ⟨c, cs, rfl⟩ := List.exists_cons_of_ne_nil nonempty
  rw [List.dropWhile_append_of_pos front, List.cons_append, List.dropWhile_cons_of_neg]
  simp [solid c List.mem_cons_self]

/-- What holds no white space is left when the white space around it is taken off. -/
theorem trim_append (front : AllBlank before) {after : List Char} (back : AllBlank after) :
    trim (before ++ (core ++ after)) = core := by
  have first := dropWhile_append_of_solid nonempty solid front after
  have last : (after.reverse ++ (core.reverse ++ [])).dropWhile isBlank = core.reverse ++ [] := by
    refine dropWhile_append_of_solid (by simpa using nonempty) (fun c hc => ?_) back.reverse []
    exact solid c (List.mem_reverse.mp hc)
  rw [List.append_nil] at last
  rw [trim, first, List.reverse_append, last, List.reverse_reverse]

end

/-! ## Numbers of 64 bits -/

/-- The characters are one plus sign or none, and then decimal digits, at least one, that denote a
number below 2^64. -/
def SpellsWord (cs : List Char) (n : Nat) : Prop :=
  ∃ sign digits, cs = sign ++ digits ∧ (sign = [] ∨ sign = ['+']) ∧
    digits ≠ [] ∧ (∀ c ∈ digits, c.isDigit = true) ∧ Nat.ofDigitChars 10 digits 0 = n ∧ n < 2 ^ 64

/-- The text is such a number with white space around it, or without. -/
def Denotes (text : String) (n : Nat) : Prop :=
  ∃ before core after, text.toList = before ++ (core ++ after) ∧ AllBlank before ∧ AllBlank after ∧
    SpellsWord core n

theorem isBlank_of_isDigit {c : Char} (h : c.isDigit = true) : isBlank c = false := by
  obtain ⟨low, high⟩ := Char.isDigit_iff_toNat.mp h
  have low : 48 ≤ c.toNat := low
  have high : c.toNat ≤ 57 := high
  simp [isBlank]
  omega

theorem SpellsWord.ne_nil {cs : List Char} {n : Nat} (h : SpellsWord cs n) : cs ≠ [] := by
  obtain ⟨sign, digits, rfl, -, nonempty, -⟩ := h
  simp [nonempty]

theorem SpellsWord.solid {cs : List Char} {n : Nat} (h : SpellsWord cs n) :
    ∀ c ∈ cs, isBlank c = false := by
  obtain ⟨sign, digits, rfl, isSign, -, areDigits, -⟩ := h
  intro c hc
  rcases List.mem_append.mp hc with hc | hc
  · rcases isSign with rfl | rfl
    · cases hc
    · obtain rfl := List.mem_singleton.mp hc
      decide
  · exact isBlank_of_isDigit (areDigits c hc)

theorem SpellsWord.lt {cs : List Char} {n : Nat} (h : SpellsWord cs n) : n < 2 ^ 64 := by
  obtain ⟨_, _, -, -, -, -, -, small⟩ := h
  exact small

theorem dropPlus_digits {digits : List Char} (areDigits : ∀ c ∈ digits, c.isDigit = true) :
    dropPlus digits = digits := by
  unfold dropPlus
  split
  · exact absurd (areDigits '+' List.mem_cons_self) (by decide)
  · rfl

theorem exists_eq_append_dropPlus (cs : List Char) :
    ∃ sign, cs = sign ++ dropPlus cs ∧ (sign = [] ∨ sign = ['+']) := by
  unfold dropPlus
  split
  · exact ⟨['+'], rfl, .inr rfl⟩
  · exact ⟨[], rfl, .inl rfl⟩

theorem unsigned?_eq_some_iff {cs : List Char} {n : UInt64} :
    unsigned? cs = some n ↔ SpellsWord cs n.toNat := by
  unfold unsigned?
  simp only [Option.ite_none_right_eq_some, Option.some.injEq, List.all_eq_true, UInt64.size]
  constructor
  · rintro ⟨⟨nonempty, areDigits, small⟩, rfl⟩
    obtain ⟨sign, split, isSign⟩ := exists_eq_append_dropPlus cs
    have exact : (UInt64.ofNat (digitsValue (dropPlus cs))).toNat = digitsValue (dropPlus cs) := by
      rw [UInt64.toNat_ofNat']
      omega
    exact ⟨sign, dropPlus cs, split, isSign, nonempty, areDigits, exact.symm, UInt64.toNat_lt _⟩
  · rintro ⟨sign, digits, rfl, isSign, nonempty, areDigits, value, small⟩
    have dropped : dropPlus (sign ++ digits) = digits := by
      rcases isSign with rfl | rfl
      · exact dropPlus_digits areDigits
      · rfl
    have value : digitsValue digits = n.toNat := value
    rw [dropped, value]
    exact ⟨⟨nonempty, areDigits, small⟩, UInt64.ofNat_toNat⟩

theorem unsigned?_trim_eq_some_iff {text : String} {n : UInt64} :
    unsigned? (trim text.toList) = some n ↔ Denotes text n.toNat := by
  rw [unsigned?_eq_some_iff]
  constructor
  · intro spells
    obtain ⟨before, after, split, front, back⟩ := exists_eq_append_trim text.toList
    exact ⟨before, trim text.toList, after, split, front, back, spells⟩
  · rintro ⟨before, core, after, split, front, back, spells⟩
    rw [split, trim_append spells.ne_nil spells.solid front back]
    exact spells

theorem Denotes.exists_word {text : String} {n : Nat} (h : Denotes text n) :
    ∃ k : UInt64, k.toNat = n ∧ unsigned? (trim text.toList) = some k := by
  have denotes := h
  obtain ⟨_, _, _, -, -, -, spells⟩ := h
  have exact : (UInt64.ofNat n).toNat = n := by
    rw [UInt64.toNat_ofNat', Nat.mod_eq_of_lt spells.lt]
  refine ⟨UInt64.ofNat n, exact, unsigned?_trim_eq_some_iff.mpr ?_⟩
  rw [exact]
  exact denotes

theorem denotes_iff_of_unsigned? {text : String} {k : UInt64}
    (h : unsigned? (trim text.toList) = some k) (n : Nat) : Denotes text n ↔ n = k.toNat := by
  constructor
  · intro denotes
    obtain ⟨k', rfl, h'⟩ := denotes.exists_word
    rw [Option.some.inj (h'.symm.trans h)]
  · rintro rfl
    exact unsigned?_trim_eq_some_iff.mp h

theorem unsigned?_trim_eq_none_iff {text : String} :
    unsigned? (trim text.toList) = none ↔ ¬ ∃ n, Denotes text n := by
  constructor
  · rintro none ⟨n, denotes⟩
    obtain ⟨k, -, some⟩ := denotes.exists_word
    rw [none] at some
    cases some
  · intro nothing
    rcases h : unsigned? (trim text.toList) with _ | k
    · rfl
    · exact absurd ⟨_, unsigned?_trim_eq_some_iff.mp h⟩ nothing

end Text

namespace Config

open Text

variable {c c' : Config} {lookup : Lookup} {name : String} {error : ConfigError}

/-! ## The variables -/

/-- The variable is not set, or denotes a number. -/
def Acceptable (lookup : Lookup) (name : String) : Prop :=
  ∀ value, lookup name = some value → ∃ n, Denotes value n

/-- The variable makes a limit that was `old` into `new`: the number that it denotes, and no other, if it
is set, and the limit as it was if it is not. -/
def Sets (lookup : Lookup) (name : String) (old new : UInt64) : Prop :=
  (lookup name = none → new = old) ∧
    ∀ value, lookup name = some value → ∀ n, Denotes value n ↔ n = new.toNat

/-- The variable is set, but denotes no number, and the error names it and has its value as it is. -/
def Refuses (lookup : Lookup) (name : String) (error : ConfigError) : Prop :=
  ∃ value, lookup name = some value ∧ (¬ ∃ n, Denotes value n) ∧
    error = .invalidOverride name value

theorem numeric_iff : Numeric lookup name ↔ Acceptable lookup name := by
  unfold Numeric Acceptable
  refine forall₂_congr fun value _ => ?_
  rw [← not_iff_not, Option.not_isSome_iff_eq_none, unsigned?_trim_eq_none_iff]

theorem sets_number? (numeric : Numeric lookup name) (old : UInt64) :
    Sets lookup name old ((number? lookup name).getD old) := by
  unfold number?
  constructor
  · intro unset
    rw [unset]
    rfl
  · intro value set
    obtain ⟨k, found⟩ := Option.isSome_iff_exists.mp (numeric value set)
    rw [set, Option.bind_some, found, Option.getD_some]
    exact denotes_iff_of_unsigned? found

theorem override?_eq_error_iff :
    override? lookup name = .error error ↔ Refuses lookup name error := by
  unfold override? Refuses
  rcases lookup name with _ | value
  · simp
  · rcases h : unsigned? (trim value.toList) with _ | k
    · have bad := not_exists.mp (unsigned?_trim_eq_none_iff.mp h)
      simp [h, bad, eq_comm]
    · have good : ∃ n, Denotes value n := ⟨_, unsigned?_trim_eq_some_iff.mp h⟩
      simp [h, good]

theorem bind_eq_error_iff {ε α β : Type} {x : Except ε α} {f : α → Except ε β} {e : ε} :
    x >>= f = .error e ↔ x = .error e ∨ ∃ a, x = .ok a ∧ f a = .error e := by
  cases x <;> simp [bind, Except.bind]

/-- The variable of the depth is looked at first. -/
theorem withOverrides_eq_error_iff :
    c.withOverrides lookup = .error error ↔
      Refuses lookup depthVariable error ∨
        Acceptable lookup depthVariable ∧ Refuses lookup costVariable error := by
  simp only [withOverrides, bind_eq_error_iff, override?_eq_error_iff, override?_eq_ok_iff,
    numeric_iff]
  simp [pure, Except.pure]

/-! ## The whole of it -/

/-- Overrides are taken exactly if each variable that is set denotes a number of 64 bits. Then each limit
is the number of its variable, or what it was, and nothing else changes. Otherwise there is no
configuration, and the error is about the variable of the depth if that one is at fault, and about
that of the cost if it is not. -/
theorem overrides_take_exactly_the_numbers (c : Config) (lookup : Lookup) :
    ((∃ c', c.withOverrides lookup = .ok c') ↔
      Acceptable lookup depthVariable ∧ Acceptable lookup costVariable) ∧
    (∀ c', c.withOverrides lookup = .ok c' →
      Sets lookup depthVariable c.limits.maxDepth c'.limits.maxDepth ∧
      Sets lookup costVariable c.limits.maxCost c'.limits.maxCost ∧ c'.cost = c.cost) ∧
    (∀ error, c.withOverrides lookup = .error error ↔
      Refuses lookup depthVariable error ∨
        Acceptable lookup depthVariable ∧ Refuses lookup costVariable error) := by
  refine ⟨?_, fun c' taken => ?_, fun error => withOverrides_eq_error_iff⟩
  · simp only [withOverrides_eq_ok_iff, numeric_iff, exists_and_left, exists_eq, and_true]
  · obtain ⟨⟨depth, cost⟩, rfl⟩ := withOverrides_eq_ok_iff.mp taken
    exact ⟨sets_number? depth _, sets_number? cost _, rfl⟩

/-- A number with everything that may stand around it, and one that is too large by one; the variable of
the depth has no part in the second one, which is told with its white space. -/
theorem one_override_taken_and_one_refused :
    let wide := "\u3000+007\n"
    let large := " 18446744073709551616"
    let taken : Lookup := ([("GRAPHQL_DEPTH_LIMIT", wide)].lookup ·)
    let refused : Lookup := ([("GRAPHQL_DEPTH_LIMIT", "3"), ("GRAPHQL_COST_LIMIT", large)].lookup ·)
    let c : Config := { limits := { maxDepth := 7 } }
    Config.withOverrides {} taken = .ok c ∧ (∀ n, Denotes wide n ↔ n = 7) ∧
    Config.withOverrides {} refused = .error (.invalidOverride costVariable large) ∧
      ¬ ∃ n, Denotes large n := by
  intro wide large taken refused c
  have isTaken : Config.withOverrides {} taken = .ok c := by decide +kernel
  have isRefused : Config.withOverrides {} refused = .error (.invalidOverride costVariable large) := by
    decide +kernel
  obtain ⟨depth, -, -⟩ := (overrides_take_exactly_the_numbers {} taken).2.1 c isTaken
  refine ⟨isTaken, depth.2 wide (by decide +kernel), isRefused, ?_⟩
  rcases ((overrides_take_exactly_the_numbers {} refused).2.2 _).mp isRefused with
    ⟨_, -, -, same⟩ | ⟨-, _, -, bad, same⟩
  · exact absurd same (by simp [depthVariable, costVariable])
  · cases same
    exact bad

end Config

end QueryGate
