-- What is written as JSON is read back. A grammar stands between the two:
-- it says of a value and a text that the text spells the value, with
-- white space between the tokens as the writer pleases. What is written is
-- a spelling, and every spelling is read as what it spells.
import QueryGate.Json.Reading
import QueryGate.Json.Text
import Mathlib.Data.List.DropRight

namespace QueryGate.Json

open Text

variable {rest : List Char}

/-! ## Numbers -/

/-- The text is at its end or goes on with something that no number holds. -/
def NumberEnds (rest : List Char) : Prop :=
  ∀ c ∈ rest.head?, ¬ c.isDigit ∧ c ≠ '.' ∧ c ≠ 'e' ∧ c ≠ 'E'

theorem digitsValue_toDigits (n : Nat) : digitsValue (Nat.toDigits 10 n) = n :=
  Nat.ofDigitChars_toDigits (by decide) (by decide)

theorem spanDigits_toDigits (n : Nat) (ends : NumberEnds rest) :
    spanDigits (Nat.toDigits 10 n ++ rest) = (Nat.toDigits 10 n, rest) := by
  have digits : ∀ c ∈ Nat.toDigits 10 n, c.isDigit = true := fun c hc =>
    Nat.isDigit_of_mem_toDigits (by decide) (by decide) hc
  have stops : rest.takeWhile Char.isDigit = [] ∧ rest.dropWhile Char.isDigit = rest := by
    cases rest with
    | nil => exact ⟨rfl, rfl⟩
    | cons c rest => simp [(ends c rfl).1]
  rw [spanDigits, List.takeWhile_append_of_pos digits, List.dropWhile_append_of_pos digits,
    stops.1, stops.2, List.append_nil]

theorem exists_toDigits (n : Nat) : ∃ c cs, Nat.toDigits 10 n = c :: cs ∧ c.isDigit := by
  cases digits : Nat.toDigits 10 n with
  | nil => exact absurd digits Nat.toDigits_ne_nil
  | cons c cs =>
    have here : c ∈ Nat.toDigits 10 n := digits ▸ List.mem_cons_self
    exact ⟨c, cs, rfl, Nat.isDigit_of_mem_toDigits (by decide) (by decide) here⟩

/-- The digits of a number above zero do not start with a zero. -/
theorem head_toDigits_ne_zero {n : Nat} (positive : 0 < n) (ds : List Char) :
    Nat.toDigits 10 n ≠ '0' :: ds := by
  induction n using Nat.strongRecOn generalizing ds with
  | ind n ih =>
    by_cases small : n < 10
    · rw [Nat.toDigits_of_lt_base small]
      simp only [ne_eq, List.cons.injEq, Nat.digitChar_eq_zero, not_and]
      omega
    · rw [Nat.toDigits_of_base_le (by decide) (Nat.le_of_not_lt small)]
      have shorter := ih (n / 10) (by omega) (by omega)
      obtain ⟨c, cs, digits, -⟩ := exists_toDigits (n / 10)
      rw [digits] at shorter ⊢
      rintro same
      rw [List.cons_append, List.cons.injEq] at same
      exact shorter cs (by rw [same.1])

theorem wholePart?_toDigits (n : Nat) (ends : NumberEnds rest) :
    wholePart? (Nat.toDigits 10 n ++ rest) = some (Nat.toDigits 10 n, rest) := by
  have something : Nat.toDigits 10 n ≠ [] := Nat.toDigits_ne_nil
  have noZeroBefore (d : Char) (ds : List Char) : Nat.toDigits 10 n ≠ '0' :: d :: ds := by
    rcases Nat.eq_zero_or_pos n with rfl | positive
    · simp [Nat.toDigits_zero]
    · exact head_toDigits_ne_zero positive _
  simp [wholePart?, spanDigits_toDigits n ends, something, noZeroBefore]

theorem fractionPart?_none (ends : NumberEnds rest) : fractionPart? rest = some (none, rest) := by
  rw [fractionPart?]
  rintro rest rfl
  exact absurd rfl (ends _ rfl).2.1

theorem exponentPart?_none (ends : NumberEnds rest) : exponentPart? rest = some (none, rest) := by
  cases rest with
  | nil => rfl
  | cons c rest =>
    obtain ⟨-, -, small, large⟩ := ends c rfl
    rw [exponentPart?, if_neg (by simp [small, large])]

/-- A whole number of 64 bits, with or without a sign. -/
def InRange (n : Int) : Prop := -Double.signBit ≤ n ∧ n < UInt64.size

theorem inRange_ofNat {n : Nat} (small : n < UInt64.size) : InRange (n : Int) :=
  ⟨by omega, Int.ofNat_lt.mpr small⟩

/-- The digits of a number start with no sign. -/
theorem toDigits_append_ne_minus (n : Nat) (rest cs : List Char) :
    Nat.toDigits 10 n ++ rest ≠ '-' :: cs := by
  obtain ⟨c, ds, digits, isDigit⟩ := exists_toDigits n
  rintro same
  rw [digits, List.cons_append, List.cons.injEq] at same
  exact absurd isDigit (by rw [same.1]; decide)

/-- Where a text holds no more than the digits of a number, with or without a sign. -/
theorem number?_digits (negative : Bool) {n : Nat} {value : Int} (ends : NumberEnds rest)
    (isValue : Number.ofLiteral { negative, whole := Nat.toDigits 10 n } = .int value) :
    number? (if negative then '-' :: (Nat.toDigits 10 n ++ rest) else Nat.toDigits 10 n ++ rest) =
      some (.number (.int value), rest) := by
  cases negative with
  | true =>
    simp only [number?, if_true, wholePart?_toDigits n ends, fractionPart?_none ends,
      exponentPart?_none ends, Option.bind_eq_bind, Option.bind_some, isValue]
    rfl
  | false =>
    simp only [number?, Bool.false_eq_true, if_false, toDigits_append_ne_minus, false_implies,
      implies_true, wholePart?_toDigits n ends, fractionPart?_none ends, exponentPart?_none ends,
      Option.bind_eq_bind, Option.bind_some, isValue]
    rfl

theorem number?_intChars {n : Int} (fits : InRange n) (ends : NumberEnds rest) :
    number? (intChars n ++ rest) = some (.number (.int n), rest) := by
  obtain ⟨low, high⟩ := fits
  cases n with
  | ofNat n =>
    have small : n < UInt64.size := Int.ofNat_lt.mp high
    refine number?_digits false ends ?_
    simp [Number.ofLiteral, digitsValue_toDigits, small]
  | negSucc n =>
    have small : n + 1 ≤ Double.signBit := by omega
    refine number?_digits true ends ?_
    simp [Number.ofLiteral, digitsValue_toDigits, small, Int.negSucc_eq]

/-! ## Strings -/

theorem hexNumber?_hexPair : ∀ n < 0x20, hexNumber? ('0' :: '0' :: hexPair n) = some n := by decide

theorem unicodeEscape?_control {n : Nat} (control : n < 0x20) (rest : List Char) :
    unicodeEscape? ('0' :: '0' :: hexPair n ++ rest) = some (Char.ofNat n, rest) := by
  have unit : hexUnit? 4 ('0' :: '0' :: hexPair n ++ rest) = some (n, rest) := by
    have digits := hexNumber?_hexPair n control
    simp only [hexPair] at digits
    simp [hexUnit?, hexPair, digits]
  rw [unicodeEscape?, unit]
  simp only [Option.bind_eq_bind, Option.bind_some]
  rw [if_neg (by omega), if_neg (by omega)]

/-- The ways to write a character between quotes: as a letter after a backslash, by its number, or as it
is. -/
inductive Escaping (c : Char) : List Char → Prop
  | named {letter : Char} : (∀ rest, escape? (letter :: rest) = some (c, rest)) →
    0x20 ≤ letter.toNat → Escaping c ['\\', letter]
  | numbered : c.toNat < 0x20 → Escaping c ('\\' :: 'u' :: '0' :: '0' :: hexPair c.toNat)
  | plain : c ≠ '"' → c ≠ '\\' → 0x20 ≤ c.toNat → Escaping c [c]

theorem escaping_escapedChar (c : Char) : Escaping c (escapedChar c) := by
  by_cases short : c ∈ ['"', '\\', '\x08', '\x0c', '\n', '\r', '\t']
  · simp only [List.mem_cons, List.not_mem_nil, or_false] at short
    rcases short with rfl | rfl | rfl | rfl | rfl | rfl | rfl
    all_goals exact .named (fun _ => rfl) (by decide)
  · simp only [List.mem_cons, List.not_mem_nil, or_false, not_or] at short
    by_cases control : c.toNat < 0x20
    · have long : escapedChar c = '\\' :: 'u' :: '0' :: '0' :: hexPair c.toNat := by
        simp [escapedChar, short, control]
      exact long ▸ .numbered control
    · have same : escapedChar c = [c] := by simp [escapedChar, short, control]
      exact same ▸ .plain short.1 short.2.1 (Nat.le_of_not_lt control)

/-- One character is read from what it is written as. -/
theorem stringBody?_escapedChar (fuel : Nat) (c : Char) :
    stringBody? (fuel + 1) (escapedChar c ++ rest) = (do
      let (cs, rest) ← stringBody? fuel rest
      some (c :: cs, rest)) := by
  have way := escaping_escapedChar c
  generalize escapedChar c = written at way
  cases way with
  | named names => simp [stringBody?, names]
  | numbered control =>
    have escaped := unicodeEscape?_control control rest
    rw [Char.ofNat_toNat, List.cons_append, List.cons_append] at escaped
    simp [stringBody?, escape?, escaped]
  | plain noQuote noBackslash printable =>
    simp [stringBody?, noQuote, noBackslash, Nat.not_lt.mpr printable]

theorem escapedChar_ne_nil (c : Char) : escapedChar c ≠ [] := by
  have way := escaping_escapedChar c
  generalize escapedChar c = written at way
  cases way <;> exact List.cons_ne_nil _ _

theorem length_le_length_escaped (cs : List Char) : cs.length ≤ (cs.flatMap escapedChar).length := by
  induction cs with
  | nil => exact Nat.le_refl 0
  | cons c cs ih =>
    have taken := List.length_pos_iff.mpr (escapedChar_ne_nil c)
    rw [List.flatMap_cons, List.length_append, List.length_cons]
    omega

theorem stringBody?_escaped (cs : List Char) {fuel : Nat} (enough : cs.length < fuel) :
    stringBody? fuel (cs.flatMap escapedChar ++ '"' :: rest) = some (cs, rest) := by
  induction cs generalizing fuel with
  | nil =>
    obtain ⟨fuel, rfl⟩ := Nat.exists_eq_add_of_lt enough
    simp [stringBody?]
  | cons c cs ih =>
    cases fuel with
    | zero => exact absurd enough (Nat.not_lt_zero _)
    | succ fuel =>
      rw [List.flatMap_cons, List.append_assoc, stringBody?_escapedChar,
        ih (Nat.lt_of_succ_lt_succ enough)]
      rfl

theorem stringAfterQuote?_escaped (s : String) :
    stringAfterQuote? (s.toList.flatMap escapedChar ++ '"' :: rest) = some (s, rest) := by
  have longer := length_le_length_escaped s.toList
  have enough : s.toList.length < (s.toList.flatMap escapedChar ++ '"' :: rest).length := by
    rw [List.length_append, List.length_cons]
    omega
  rw [stringAfterQuote?, stringBody?_escaped _ enough]
  simp

/-! ## The grammar -/

/-- White space. -/
def Blank (cs : List Char) : Prop := ∀ c ∈ cs, isSpace c

mutual

/-- The text spells the value. White space may stand before it. -/
inductive Spells : Json → List Char → Prop
  | null : Spells .null "null".toList
  | true : Spells (.bool true) "true".toList
  | false : Spells (.bool false) "false".toList
  | whole {n : Int} : InRange n → Spells (.number (.int n)) (intChars n)
  | string (s : String) : Spells (.string s) (stringChars s)
  | noItems {w : List Char} : Blank w → Spells (.array []) ('[' :: (w ++ [']']))
  | array {items : List Json} {cs : List Char} :
    SpellsItems items cs → Spells (.array items) ('[' :: cs)
  | noMembers {w : List Char} : Blank w → Spells (.object []) ('\x7b' :: (w ++ ['\x7d']))
  | object {members : List (String × Json)} {cs : List Char} :
    SpellsMembers members cs → Spells (.object members) ('\x7b' :: cs)
  | after {j : Json} {w cs : List Char} : Blank w → Spells j cs → Spells j (w ++ cs)

/-- The text spells the items of an array, at least one, up to its closing bracket. -/
inductive SpellsItems : List Json → List Char → Prop
  | last {j : Json} {cs w : List Char} : Spells j cs → Blank w →
    SpellsItems [j] (cs ++ (w ++ [']']))
  | more {j : Json} {items : List Json} {cs ds w : List Char} : Spells j cs → Blank w →
    SpellsItems items ds → SpellsItems (j :: items) (cs ++ (w ++ ',' :: ds))

/-- The text spells the members of an object, at least one, up to its closing brace. -/
inductive SpellsMembers : List (String × Json) → List Char → Prop
  | last {name : String} {j : Json} {cs v w : List Char} : Blank v → Spells j cs → Blank w →
    SpellsMembers [(name, j)] (stringChars name ++ (v ++ ':' :: (cs ++ (w ++ ['\x7d']))))
  | more {name : String} {j : Json} {members : List (String × Json)} {cs ds v w : List Char} :
    Blank v → Spells j cs → Blank w → SpellsMembers members ds →
    SpellsMembers ((name, j) :: members)
      (stringChars name ++ (v ++ ':' :: (cs ++ (w ++ ',' :: ds))))
  | after {members : List (String × Json)} {w cs : List Char} : Blank w → SpellsMembers members cs →
    SpellsMembers members (w ++ cs)

end

/-! ## White space before a token -/

theorem dropSpace_blank {w : List Char} (blank : Blank w) (cs : List Char) :
    dropSpace (w ++ cs) = dropSpace cs :=
  List.dropWhile_append_of_pos blank

theorem dropSpace_dropSpace (cs : List Char) : dropSpace (dropSpace cs) = dropSpace cs := by
  exact List.dropWhile_idempotent _ _

theorem dropSpace_cons {c : Char} (solid : isSpace c = false) (cs : List Char) :
    dropSpace (c :: cs) = c :: cs := by
  rw [dropSpace, List.dropWhile_cons_of_neg (by simp [solid])]

theorem value?_dropSpace (fuel : Nat) (cs : List Char) :
    value? fuel (dropSpace cs) = value? fuel cs := by
  cases fuel with
  | zero => rfl
  | succ fuel => rw [value?, value?, dropSpace_dropSpace]

theorem items?_dropSpace (fuel : Nat) (cs : List Char) :
    items? fuel (dropSpace cs) = items? fuel cs := by
  cases fuel with
  | zero => rfl
  | succ fuel => rw [items?, items?, value?_dropSpace]

theorem members?_dropSpace (fuel : Nat) (cs : List Char) :
    members? fuel (dropSpace cs) = members? fuel cs := by
  cases fuel with
  | zero => rfl
  | succ fuel => rw [members?, members?, dropSpace_dropSpace]

/-! ## Reading what is spelled -/

/-- A value that starts as a number does is one. -/
theorem value?_number {c : Char} (starts : c = '-' ∨ c.isDigit) (fuel : Nat) (cs : List Char) :
    value? (fuel + 1) (c :: cs) = number? (c :: cs) := by
  have solid : isSpace c = false := by
    rcases starts with rfl | digit
    · rfl
    · rw [Bool.eq_false_iff]
      intro space
      simp [isSpace] at space
      rcases space with ((rfl | rfl) | rfl) | rfl <;> exact absurd digit (by decide)
  have other (d : Char) (isOther : ¬ (d = '-' ∨ d.isDigit)) : c ≠ d := by
    rintro rfl
    exact isOther starts
  simp [value?, dropSpace_cons solid, other]

theorem items?_close (fuel : Nat) (cs : List Char) : items? fuel (']' :: cs) = none := by
  rcases fuel with _ | _ | fuel
  · rfl
  · rfl
  · rfl

theorem members?_close (fuel : Nat) (cs : List Char) : members? fuel ('\x7d' :: cs) = none := by
  cases fuel <;> rfl

/-- An array from its opening bracket on. -/
theorem value?_bracket (fuel : Nat) (cs : List Char) :
    value? (fuel + 1) ('[' :: cs) = match dropSpace cs with
      | ']' :: rest => some (.array [], rest)
      | rest => (items? fuel rest).map fun (items, rest) => (.array items, rest) := rfl

/-- An object from its opening brace on. -/
theorem value?_brace (fuel : Nat) (cs : List Char) :
    value? (fuel + 1) ('\x7b' :: cs) = match dropSpace cs with
      | '\x7d' :: rest => some (.object [], rest)
      | rest => (members? fuel rest).map fun (members, rest) => (.object members, rest) := rfl

theorem value?_array {fuel : Nat} {cs : List Char} {items : List Json}
    (read : items? fuel cs = some (items, rest)) :
    value? (fuel + 1) ('[' :: cs) = some (.array items, rest) := by
  rw [← items?_dropSpace] at read
  have isOpen (ds : List Char) : dropSpace cs ≠ ']' :: ds := by
    rintro closed
    rw [closed, items?_close] at read
    cases read
  simp [value?_bracket, read]

theorem value?_object {fuel : Nat} {cs : List Char} {members : List (String × Json)}
    (read : members? fuel cs = some (members, rest)) :
    value? (fuel + 1) ('\x7b' :: cs) = some (.object members, rest) := by
  rw [← members?_dropSpace] at read
  have isOpen (ds : List Char) : dropSpace cs ≠ '\x7d' :: ds := by
    rintro closed
    rw [closed, members?_close] at read
    cases read
  simp [value?_brace, read]

theorem items?_last {fuel : Nat} {cs w : List Char} {j : Json} (blank : Blank w)
    (read : value? fuel cs = some (j, w ++ ']' :: rest)) :
    items? (fuel + 1) cs = some ([j], rest) := by
  simp [items?, read, dropSpace_blank blank, dropSpace_cons (c := ']') rfl]

theorem items?_more {fuel : Nat} {cs ds w : List Char} {j : Json} {items : List Json}
    (blank : Blank w) (read : value? fuel cs = some (j, w ++ ',' :: ds))
    (later : items? fuel ds = some (items, rest)) :
    items? (fuel + 1) cs = some (j :: items, rest) := by
  simp [items?, read, later, dropSpace_blank blank, dropSpace_cons (c := ',') rfl]

theorem members?_last {fuel : Nat} {cs v w : List Char} {name : String} {j : Json}
    (before : Blank v) (after : Blank w) (read : value? fuel cs = some (j, w ++ '\x7d' :: rest)) :
    members? (fuel + 1) (stringChars name ++ (v ++ ':' :: cs)) = some ([(name, j)], rest) := by
  rw [stringChars, List.append_assoc, List.cons_append, members?, dropSpace_cons rfl]
  simp [stringAfterQuote?_escaped, dropSpace_blank before, dropSpace_cons (c := ':') rfl, read,
    dropSpace_blank after, dropSpace_cons (c := '\x7d') rfl]

theorem members?_more {fuel : Nat} {cs ds v w : List Char} {name : String} {j : Json}
    {members : List (String × Json)} (before : Blank v) (after : Blank w)
    (read : value? fuel cs = some (j, w ++ ',' :: ds))
    (later : members? fuel ds = some (members, rest)) :
    members? (fuel + 1) (stringChars name ++ (v ++ ':' :: cs)) =
      some ((name, j) :: members, rest) := by
  rw [stringChars, List.append_assoc, List.cons_append, members?, dropSpace_cons rfl]
  simp [stringAfterQuote?_escaped, dropSpace_blank before, dropSpace_cons (c := ':') rfl, read,
    dropSpace_blank after, dropSpace_cons (c := ',') rfl, later]

/-- White space does not prolong a number. -/
theorem numberEnds_blank {w : List Char} (blank : Blank w) (ends : NumberEnds rest) :
    NumberEnds (w ++ rest) := by
  cases w with
  | nil => exact ends
  | cons b w =>
    intro c first
    obtain rfl : b = c := Option.some.inj first
    have space := blank b List.mem_cons_self
    simp [isSpace] at space
    rcases space with ((rfl | rfl) | rfl) | rfl <;> decide

/-- No number goes on where a value ends, with or without white space before the mark after it. -/
theorem numberEnds_mark {w : List Char} {c : Char} (mark : c ∈ [',', ']', '\x7d']) (blank : Blank w)
    (rest : List Char) : NumberEnds (w ++ c :: rest) := by
  refine numberEnds_blank blank fun c' first => ?_
  obtain rfl : c = c' := Option.some.inj first
  simp only [List.mem_cons, List.not_mem_nil, or_false] at mark
  rcases mark with rfl | rfl | rfl <;> decide

/-- A text takes at least one step to read. -/
theorem exists_step {length fuel : Nat} (long : 0 < length) (enough : 2 * length ≤ fuel) :
    ∃ f, fuel = f + 1 ∧ 2 * length ≤ f + 1 :=
  ⟨fuel - 1, by omega, by omega⟩

theorem exists_intChars (n : Int) : ∃ c cs, intChars n = c :: cs ∧ (c = '-' ∨ c.isDigit) := by
  cases n with
  | negSucc n => exact ⟨_, _, rfl, .inl rfl⟩
  | ofNat n =>
    obtain ⟨c, cs, digits, isDigit⟩ := exists_toDigits n
    exact ⟨c, cs, digits, .inr isDigit⟩

mutual

theorem value?_of_spells {j : Json} {cs rest : List Char} {fuel : Nat} (ends : NumberEnds rest)
    (enough : 2 * cs.length ≤ fuel) :
    Spells j cs → value? fuel (cs ++ rest) = some (j, rest)
  | .null => by
    obtain ⟨fuel, rfl, -⟩ := exists_step (by decide) enough
    rfl
  | .true => by
    obtain ⟨fuel, rfl, -⟩ := exists_step (by decide) enough
    rfl
  | .false => by
    obtain ⟨fuel, rfl, -⟩ := exists_step (by decide) enough
    rfl
  | .whole (n := n) fits => by
    obtain ⟨c, ds, first, starts⟩ := exists_intChars n
    obtain ⟨fuel, rfl, -⟩ := exists_step (by rw [first]; exact Nat.succ_pos _) enough
    have read := number?_intChars fits ends
    rw [first, List.cons_append] at read
    rw [first, List.cons_append, value?_number starts, read]
  | .string s => by
    obtain ⟨fuel, rfl, -⟩ := exists_step (by simp [stringChars]) enough
    rw [stringChars, List.append_assoc, List.cons_append, value?, dropSpace_cons rfl]
    simp [stringAfterQuote?_escaped]
  | .noItems blank => by
    obtain ⟨fuel, rfl, -⟩ := exists_step (by simp) enough
    rw [List.cons_append, List.append_assoc, value?_bracket, dropSpace_blank blank]
    rfl
  | .array items => by
    obtain ⟨fuel, rfl, enough⟩ := exists_step (by simp) enough
    rw [List.length_cons] at enough
    exact value?_array (items?_of_spells (by omega) items)
  | .noMembers blank => by
    obtain ⟨fuel, rfl, -⟩ := exists_step (by simp) enough
    rw [List.cons_append, List.append_assoc, value?_brace, dropSpace_blank blank]
    rfl
  | .object members => by
    obtain ⟨fuel, rfl, enough⟩ := exists_step (by simp) enough
    rw [List.length_cons] at enough
    exact value?_object (members?_of_spells (by omega) members)
  | .after blank value => by
    rw [List.append_assoc, ← value?_dropSpace, dropSpace_blank blank, value?_dropSpace]
    rw [List.length_append] at enough
    exact value?_of_spells ends (by omega) value

theorem items?_of_spells {items : List Json} {cs rest : List Char} {fuel : Nat}
    (enough : 2 * cs.length ≤ fuel) :
    SpellsItems items cs → items? fuel (cs ++ rest) = some (items, rest)
  | .last value blank => by
    simp only [List.length_append, List.length_cons] at enough
    obtain ⟨fuel, rfl, enough⟩ := exists_step (by omega) enough
    simp only [List.append_assoc, List.cons_append, List.nil_append]
    have ends := numberEnds_mark (c := ']') (by decide) blank rest
    exact items?_last blank (value?_of_spells ends (by omega) value)
  | .more value blank items => by
    simp only [List.length_append, List.length_cons] at enough
    obtain ⟨fuel, rfl, enough⟩ := exists_step (by omega) enough
    simp only [List.append_assoc, List.cons_append]
    have ends := numberEnds_mark (c := ',') (by decide) blank
    exact items?_more blank (value?_of_spells (ends _) (by omega) value)
      (items?_of_spells (by omega) items)

theorem members?_of_spells {members : List (String × Json)} {cs rest : List Char} {fuel : Nat}
    (enough : 2 * cs.length ≤ fuel) :
    SpellsMembers members cs → members? fuel (cs ++ rest) = some (members, rest)
  | .last before value blank => by
    simp only [List.length_append, List.length_cons] at enough
    obtain ⟨fuel, rfl, enough⟩ := exists_step (by omega) enough
    simp only [List.append_assoc, List.cons_append, List.nil_append]
    have ends := numberEnds_mark (c := '\x7d') (by decide) blank rest
    exact members?_last before blank (value?_of_spells ends (by omega) value)
  | .more before value blank members => by
    simp only [List.length_append, List.length_cons] at enough
    obtain ⟨fuel, rfl, enough⟩ := exists_step (by omega) enough
    simp only [List.append_assoc, List.cons_append]
    have ends := numberEnds_mark (c := ',') (by decide) blank
    exact members?_more before blank (value?_of_spells (ends _) (by omega) value)
      (members?_of_spells (by omega) members)
  | .after blank members => by
    rw [List.append_assoc, ← members?_dropSpace, dropSpace_blank blank, members?_dropSpace]
    rw [List.length_append] at enough
    exact members?_of_spells (by omega) members

end

/-- What a text spells is what is read from it. -/
theorem read?_of_spells {j : Json} {cs w : List Char} (value : Spells j cs) (blank : Blank w) :
    read? (String.ofList (cs ++ w)) = some j := by
  have ends : NumberEnds w := by
    have ends : NumberEnds (w ++ []) := numberEnds_blank blank nofun
    rwa [List.append_nil] at ends
  have enough : 2 * cs.length ≤ 2 * (cs ++ w).length + 1 := by
    rw [List.length_append]
    omega
  have nothing : dropSpace w = [] := by
    have := dropSpace_blank blank []
    rwa [List.append_nil] at this
  rw [read?, String.toList_ofList, value?_of_spells ends enough value]
  exact if_pos nothing

/-! ## What is written -/

mutual

/-- All numbers in the value are whole ones of 64 bits. -/
def Whole : Json → Prop
  | .number (.int n) => InRange n
  | .number (.double _) => False
  | .array items => WholeItems items
  | .object members => WholeMembers members
  | _ => True

def WholeItems : List Json → Prop
  | [] => True
  | j :: rest => Whole j ∧ WholeItems rest

def WholeMembers : List (String × Json) → Prop
  | [] => True
  | (_, j) :: rest => Whole j ∧ WholeMembers rest

end

theorem wholeItems_iff {items : List Json} : WholeItems items ↔ ∀ j ∈ items, Whole j := by
  induction items with
  | nil => exact iff_of_true trivial nofun
  | cons j rest ih => rw [WholeItems, ih, List.forall_mem_cons]

theorem blank_newLine (depth : Nat) : Blank (newLine depth) := by
  intro c hc
  rcases List.mem_cons.mp hc with rfl | space
  · rfl
  · rw [List.eq_of_mem_replicate space]
    rfl

theorem blank_nil : Blank [] := nofun

theorem blank_space : Blank [' '] := by simp [Blank, isSpace]

mutual

theorem spells_indented (depth : Nat) : ∀ j : Json, Whole j → Spells j (indentedChars depth j)
  | .null, _ => .null
  | .bool true, _ => .true
  | .bool false, _ => .false
  | .number (.int _), fits => .whole fits
  | .string s, _ => .string s
  | .array [], _ => .noItems blank_nil
  | .array (j :: rest), whole => by
    obtain ⟨cs, text, spelled⟩ := spells_indentedItems depth (j :: rest) whole (by simp)
    rw [indentedItems, List.cons_append, List.cons_append, List.cons.injEq] at text
    rw [indentedChars, List.cons_append, List.cons_append, text.2]
    exact .array spelled
  | .object [], _ => .noMembers blank_nil
  | .object ((name, j) :: rest), whole => by
    obtain ⟨cs, text, spelled⟩ := spells_indentedMembers depth ((name, j) :: rest) whole (by simp)
    simp only [indentedMembers, List.cons_append, List.cons.injEq] at text
    simp only [indentedChars, List.cons_append, text.2]
    exact .object spelled

/-- What is written after a comma, or after the opening bracket. -/
theorem spells_indentedItems (depth : Nat) : ∀ items : List Json, WholeItems items → items ≠ [] →
    ∃ cs, indentedItems depth items = ',' :: cs ∧ SpellsItems items cs
  | [j], ⟨whole, _⟩, _ => by
    have item := (spells_indented (depth + 1) j whole).after (blank_newLine (depth + 1))
    exact ⟨_, by simp [indentedItems], .last item (blank_newLine depth)⟩
  | j :: next :: rest, ⟨whole, wholes⟩, _ => by
    have item := (spells_indented (depth + 1) j whole).after (blank_newLine (depth + 1))
    obtain ⟨cs, text, spelled⟩ := spells_indentedItems depth (next :: rest) wholes (by simp)
    refine ⟨_, ?_, .more item blank_nil spelled⟩
    rw [indentedItems, text]
    simp

/-- What is written after a comma, or after the opening brace. -/
theorem spells_indentedMembers (depth : Nat) :
    ∀ members : List (String × Json), WholeMembers members → members ≠ [] →
      ∃ cs, indentedMembers depth members = ',' :: cs ∧ SpellsMembers members cs
  | [(name, j)], ⟨whole, _⟩, _ => by
    have value := (spells_indented (depth + 1) j whole).after blank_space
    refine ⟨_, ?_, .after (blank_newLine (depth + 1)) (.last blank_nil value (blank_newLine depth))⟩
    simp [indentedMembers]
  | (name, j) :: next :: rest, ⟨whole, wholes⟩, _ => by
    have value := (spells_indented (depth + 1) j whole).after blank_space
    obtain ⟨cs, text, spelled⟩ := spells_indentedMembers depth (next :: rest) wholes (by simp)
    refine ⟨_, ?_, .after (blank_newLine (depth + 1)) (.more blank_nil value blank_nil spelled)⟩
    rw [indentedMembers, text]
    simp

end

mutual

theorem spells_chars : ∀ j : Json, Whole j → Spells j (chars j)
  | .null, _ => .null
  | .bool true, _ => .true
  | .bool false, _ => .false
  | .number (.int _), fits => .whole fits
  | .string s, _ => .string s
  | .array [], _ => .noItems blank_nil
  | .array (j :: rest), whole => .array (spells_itemsChars (j :: rest) whole (by simp))
  | .object [], _ => .noMembers blank_nil
  | .object (member :: rest), whole =>
    .object (spells_membersChars (member :: rest) whole (by simp))

theorem spells_itemsChars : ∀ items : List Json, WholeItems items → items ≠ [] →
    SpellsItems items (itemsChars items ++ [']'])
  | [j], ⟨whole, _⟩, _ => .last (spells_chars j whole) blank_nil
  | j :: next :: rest, ⟨whole, wholes⟩, _ => by
    have later := spells_itemsChars (next :: rest) wholes (by simp)
    have text : itemsChars (j :: next :: rest) ++ [']'] =
        chars j ++ ',' :: (itemsChars (next :: rest) ++ [']']) := List.append_assoc _ _ _
    exact text ▸ .more (spells_chars j whole) blank_nil later

theorem spells_membersChars : ∀ members : List (String × Json), WholeMembers members →
    members ≠ [] → SpellsMembers members (membersChars members ++ ['\x7d'])
  | [(name, j)], ⟨whole, _⟩, _ => by
    have text : membersChars [(name, j)] ++ ['\x7d'] =
        stringChars name ++ ':' :: (chars j ++ ['\x7d']) := List.append_assoc _ _ _
    exact text ▸ .last blank_nil (spells_chars j whole) blank_nil
  | (name, j) :: next :: rest, ⟨whole, wholes⟩, _ => by
    have later := spells_membersChars (next :: rest) wholes (by simp)
    have text : membersChars ((name, j) :: next :: rest) ++ ['\x7d'] =
        stringChars name ++ ':' ::
          (chars j ++ ',' :: (membersChars (next :: rest) ++ ['\x7d'])) := by
      simp [membersChars]
    exact text ▸ .more blank_nil (spells_chars j whole) blank_nil later

end

/-- What is written on several lines is read back. -/
theorem read?_indented {j : Json} (whole : Whole j) {w : String} (blank : Blank w.toList) :
    read? (j.indented ++ w) = some j := by
  have text : j.indented ++ w = String.ofList (j.indentedChars 0 ++ w.toList) := by
    rw [String.ofList_append, String.ofList_toList]
    rfl
  rw [text]
  exact read?_of_spells (spells_indented 0 j whole) blank

/-- What is written on one line is read back. -/
theorem read?_compact {j : Json} (whole : Whole j) : read? j.compact = some j := by
  have read := read?_of_spells (spells_chars j whole) blank_nil
  rwa [List.append_nil] at read

end QueryGate.Json
