-- Lines of TOML as they are written for a person to read: a header, or a
-- name with its value, which is a whole number or a list of texts. Each
-- line is read back as what it says, whatever lines follow it.
import Mathlib.Algebra.Ring.Int.Defs
import QueryGate.Proofs.Quoting
import QueryGate.Proofs.Spelling
import QueryGate.Toml.Grammar

namespace QueryGate.Toml

open Text Reader

variable {rest : List Char}

/-! ## What is no date -/

theorem fixedDigits_eq_none {count : Nat} {cs : List Char} (positive : 0 < count)
    (noDigit : ∀ c ∈ cs.head?, ¬ c.isDigit) : fixedDigits count cs = none := by
  unfold fixedDigits
  apply if_neg
  rintro ⟨length, all⟩
  cases cs with
  | nil => simp at length; omega
  | cons c cs =>
    rw [List.all_eq_true] at all
    have taken : c ∈ (c :: cs).take count := by
      cases count with
      | zero => omega
      | succ count => exact List.mem_cons_self
    exact noDigit c rfl (all c taken)

theorem boundedDigits_eq_some {count low high n : Nat} {cs : List Char}
    (h : boundedDigits count low high cs = some (n, rest)) : fixedDigits count cs = some (n, rest) := by
  unfold boundedDigits at h
  cases read : fixedDigits count cs with
  | none =>
    rw [bind_of_none read] at h
    cases h
  | some p =>
    obtain ⟨m, rest'⟩ := p
    rw [bind_of_some read] at h
    split at h
    · exact h
    · cases h

/-- After some of the digits up to the end of a line stands another digit, or that end. -/
theorem exists_after_fixedDigits {ds rest' : List Char} {count n : Nat} (digits : ∀ c ∈ ds, c.isDigit)
    (h : fixedDigits count (ds ++ '\n' :: rest) = some (n, rest')) :
    ∃ c cs, rest' = c :: cs ∧ (c.isDigit ∨ c = '\n') := by
  unfold fixedDigits at h
  dsimp only at h
  split at h
  case isFalse => cases h
  case isTrue taken =>
    obtain ⟨-, all⟩ := taken
    rw [List.all_eq_true] at all
    -- The end of the line is no digit, so it was not taken.
    have short : count ≤ ds.length := by
      by_contra long
      have last : ((ds ++ '\n' :: rest).take count)[ds.length]? = some '\n' := by
        rw [List.getElem?_take_of_lt (by omega)]
        simp
      exact absurd (all _ (List.mem_of_getElem? last)) (by decide)
    have left : (ds ++ '\n' :: rest).drop count = rest' := congrArg Prod.snd (Option.some.inj h)
    rw [List.drop_append_of_le_length short] at left
    cases more : ds.drop count with
    | nil =>
      rw [more] at left
      exact ⟨'\n', rest, left.symm, .inr rfl⟩
    | cons d others =>
      rw [more] at left
      have member : d ∈ ds.drop count := more ▸ List.mem_cons_self
      exact ⟨d, _, left.symm, .inl (digits d (List.mem_of_mem_drop member))⟩

/-- So no mark that separates the parts of a date stands there. -/
theorem exactly_after_fixedDigits {ds rest' : List Char} {count n : Nat} {word : String} {w : Char}
    {ws : List Char} (digits : ∀ c ∈ ds, c.isDigit)
    (h : fixedDigits count (ds ++ '\n' :: rest) = some (n, rest')) (starts : word.toList = w :: ws)
    (mark : ¬ (w.isDigit ∨ w = '\n')) : exactly word rest' = none := by
  obtain ⟨c, cs, rfl, next⟩ := exists_after_fixedDigits digits h
  apply exactly_cons_eq_none starts
  rintro rfl
  exact mark next

theorem datetime_eq_none {cs : List Char} (noDate : date cs = none) (noTime : time cs = none) :
    textOf datetime cs = none := by
  have nothing : datetime cs = none := by
    unfold datetime
    rw [orElse_of_none (bind_of_none noDate), noTime]
  unfold textOf
  rw [nothing]

theorem datetime_of_noDigit {cs : List Char} (noDigit : ∀ c ∈ cs.head?, ¬ c.isDigit) :
    textOf datetime cs = none := by
  have noHour : boundedDigits 2 0 23 cs = none :=
    bind_of_none (fixedDigits_eq_none (by decide) noDigit)
  apply datetime_eq_none
  · exact bind_of_none (fixedDigits_eq_none (by decide) noDigit)
  · exact bind_of_none (bind_of_none noHour)

theorem datetime_of_digits {ds : List Char} (digits : ∀ c ∈ ds, c.isDigit) :
    textOf datetime (ds ++ '\n' :: rest) = none := by
  have noMinute : hourAndMinute (ds ++ '\n' :: rest) = none := by
    apply bind_eq_none
    intro n rest' read
    exact bind_of_none (exactly_after_fixedDigits digits (boundedDigits_eq_some read) rfl (by decide))
  apply datetime_eq_none
  · apply bind_eq_none
    intro n rest' read
    exact bind_of_none (exactly_after_fixedDigits digits read rfl (by decide))
  · exact bind_of_none noMinute

/-! ## Whole numbers -/

theorem digitsOf_toDigits (n : Nat) :
    digitsOf Char.isDigit (Nat.toDigits 10 n ++ '\n' :: rest) =
      some (Nat.toDigits 10 n, '\n' :: rest) := by
  have digits : ∀ c ∈ Nat.toDigits 10 n, c.isDigit := fun c hc =>
    Nat.isDigit_of_mem_toDigits (by decide) (by decide) hc
  obtain ⟨c, cs, chars, -⟩ := Json.exists_toDigits n
  rw [chars] at digits ⊢
  have first : charWhere Char.isDigit (c :: cs ++ '\n' :: rest) = some (c, cs ++ '\n' :: rest) := by
    simp [charWhere, digits]
  have others : Runs (optionally (exactly "_") >>= fun _ => charWhere Char.isDigit)
      (cs.flatMap (fun c => [c]) ++ '\n' :: rest) (cs.map id) ('\n' :: rest) := by
    refine runs_flatMap (fun _ => True) (fun c hc rest _ => ?_) (by simp) (by simp) trivial rfl
    have digit : c.isDigit := digits c (List.mem_cons_of_mem _ hc)
    have noScore : exactly "_" ([c] ++ rest) = none := by
      apply exactly_cons_eq_none rfl
      rintro rfl
      exact absurd digit (by decide)
    rw [bind_of_some (optionally_of_none noScore)]
    simp [charWhere, digit]
  rw [List.map_id, List.flatMap_singleton'] at others
  unfold digitsOf
  rw [bind_of_some first, bind_of_some (repeated_of_runs others)]
  rfl

theorem wholeDigits_toDigits (n : Nat) :
    wholeDigits (Nat.toDigits 10 n ++ '\n' :: rest) = some (Nat.toDigits 10 n, '\n' :: rest) := by
  have alone : (exactly "0" >>= fun _ => charWhere fun c => c.isDigit || c == '_')
      (Nat.toDigits 10 n ++ '\n' :: rest) = none := by
    rcases Nat.eq_zero_or_pos n with rfl | positive
    · rfl
    · obtain ⟨d, ds, chars, -⟩ := Json.exists_toDigits n
      have nonzero := Json.head_toDigits_ne_zero positive ds
      rw [chars] at nonzero ⊢
      apply bind_of_none
      apply exactly_cons_eq_none rfl
      rintro rfl
      exact nonzero rfl
  unfold wholeDigits
  rw [bind_of_some (notAhead_of_none alone), digitsOf_toDigits]

/-- A sign is read off a number, if there is one, and the digits are left. -/
theorem exists_sign (n : Int) (rest : List Char) :
    ∃ negative m, sign (Json.intChars n ++ rest) = some (negative, Nat.toDigits 10 m ++ rest) ∧
      (if negative then -(m : Int) else m) = n := by
  cases n with
  | ofNat m =>
    refine ⟨false, m, ?_, rfl⟩
    obtain ⟨c, cs, chars, digit⟩ := Json.exists_toDigits m
    have noSign (q : Char) (other : ¬ q.isDigit) : c ≠ q := by
      rintro rfl
      exact other digit
    have noMinus : exactly "-" (c :: cs ++ rest) = none :=
      exactly_cons_eq_none rfl (noSign '-' (by decide))
    have noPlus : exactly "+" (c :: cs ++ rest) = none :=
      exactly_cons_eq_none rfl (noSign '+' (by decide))
    show sign (Nat.toDigits 10 m ++ rest) = _
    unfold sign
    rw [chars, orElse_of_none (bind_of_none noMinus), orElse_of_none (bind_of_none noPlus)]
    rfl
  | negSucc m => exact ⟨true, m + 1, rfl, by simp [Int.negSucc_eq]⟩

theorem decimalFloat_intChars (n : Int) : decimalFloat (Json.intChars n ++ '\n' :: rest) = none := by
  obtain ⟨negative, m, signed, -⟩ := exists_sign n ('\n' :: rest)
  have noFraction : fraction ('\n' :: rest) = none := rfl
  have noExponent : exponent ('\n' :: rest) = none := rfl
  unfold decimalFloat
  rw [bind_of_some signed, bind_of_some (wholeDigits_toDigits m),
    bind_of_some (optionally_of_none noFraction), bind_of_some (optionally_of_none noExponent)]
  rfl

theorem specialFloat_intChars (n : Int) : specialFloat (Json.intChars n ++ '\n' :: rest) = none := by
  obtain ⟨negative, m, signed, -⟩ := exists_sign n ('\n' :: rest)
  obtain ⟨c, cs, chars, digit⟩ := Json.exists_toDigits m
  rw [chars] at signed
  have noLetter (l : Char) (letter : ¬ l.isDigit) : c ≠ l := by
    rintro rfl
    exact letter digit
  have noInf : exactly "inf" (c :: cs ++ '\n' :: rest) = none :=
    exactly_cons_eq_none rfl (noLetter 'i' (by decide))
  have noNan : exactly "nan" (c :: cs ++ '\n' :: rest) = none :=
    exactly_cons_eq_none rfl (noLetter 'n' (by decide))
  unfold specialFloat
  rw [bind_of_some signed, orElse_of_none (bind_of_none noInf), bind_of_none noNan]

/-- A number in decimal digits does not start as one in another base. -/
theorem exactly_base_intChars (n : Int) {start : String} {b : Char} (starts : start.toList = ['0', b])
    (noNewLine : b ≠ '\n') : exactly start (Json.intChars n ++ '\n' :: rest) = none := by
  -- Only zero starts with a zero, and then the line ends.
  rcases eq_or_ne n 0 with rfl | nonzero
  · show exactly start ('0' :: '\n' :: rest) = none
    simp [exactly, starts, after?, noNewLine]
  · cases n with
    | negSucc m => exact exactly_cons_eq_none starts (by decide)
    | ofNat m =>
      obtain ⟨d, ds, chars, -⟩ := Json.exists_toDigits m
      have positive : 0 < m := Nat.pos_of_ne_zero fun zero => nonzero (by simp [zero])
      have leading := Json.head_toDigits_ne_zero positive ds
      rw [Json.intChars]
      rw [chars] at leading ⊢
      apply exactly_cons_eq_none starts
      rintro rfl
      exact leading rfl

/-- The whole numbers of 64 bits, with a sign. -/
def Fits64 (n : Int) : Prop := -2 ^ 63 ≤ n ∧ n < 2 ^ 63

theorem integer_intChars {n : Int} (fits : Fits64 n) :
    integer (Json.intChars n ++ '\n' :: rest) = some (.integer n, '\n' :: rest) := by
  obtain ⟨negative, m, signed, value⟩ := exists_sign n ('\n' :: rest)
  have noHex : basedInteger "0x" 16 (Json.intChars n ++ '\n' :: rest) = none :=
    bind_of_none (exactly_base_intChars n rfl (by decide))
  have noOctal : basedInteger "0o" 8 (Json.intChars n ++ '\n' :: rest) = none :=
    bind_of_none (exactly_base_intChars n rfl (by decide))
  have noBinary : basedInteger "0b" 2 (Json.intChars n ++ '\n' :: rest) = none :=
    bind_of_none (exactly_base_intChars n rfl (by decide))
  have inRange : Int64.minValue.toInt ≤ n ∧ n ≤ Int64.maxValue.toInt := by
    have low : Int64.minValue.toInt = -2 ^ 63 := by decide
    have high : Int64.maxValue.toInt = 2 ^ 63 - 1 := by decide
    unfold Fits64 at fits
    omega
  unfold integer
  rw [orElse_of_none noHex, orElse_of_none noOctal, orElse_of_none noBinary]
  unfold decimalInteger
  rw [bind_of_some signed, bind_of_some (wholeDigits_toDigits m), Json.digitsValue_toDigits, value]
  unfold asInteger
  rw [if_pos inRange]
  rfl

theorem scalar_intChars {n : Int} (fits : Fits64 n) :
    scalar (Json.intChars n ++ '\n' :: rest) = some (.integer n, '\n' :: rest) := by
  have noString : string (Json.intChars n ++ '\n' :: rest) = none := by
    obtain ⟨c, cs, chars, starts⟩ := Json.exists_intChars n
    rw [chars]
    apply string_eq_none
    apply forall_head?_cons
    constructor <;> rintro rfl <;> exact absurd starts (by decide)
  have noDate : textOf datetime (Json.intChars n ++ '\n' :: rest) = none := by
    cases n with
    | ofNat m =>
      exact datetime_of_digits fun c hc => Nat.isDigit_of_mem_toDigits (by decide) (by decide) hc
    | negSucc m => exact datetime_of_noDigit (forall_head?_cons (by decide))
  unfold scalar
  rw [orElse_of_none (bind_of_none noString), orElse_of_none (bind_of_none noDate),
    orElse_of_none (decimalFloat_intChars n), orElse_of_none (specialFloat_intChars n),
    orElse_of_some (integer_intChars fits)]

/-! ## Lists of texts -/

variable (sp : Spelling)

theorem scalar_quoted {s : String} (after : NoQuote rest) :
    scalar (sp.quoted s ++ rest) = some (.string s, rest) := by
  unfold scalar
  apply orElse_of_some
  rw [bind_of_some (string_quoted sp after)]
  rfl

theorem valueUpTo_of_scalar {cs : List Char} {v : Value} (h : scalar cs = some (v, rest))
    (levels : Nat) : valueUpTo levels cs = some (v, rest) := by
  cases levels with
  | zero => exact h
  | succ levels =>
    unfold valueUpTo
    exact orElse_of_some h

theorem scalar_bracket {c : Char} (bracket : c = '[' ∨ c = ']') (rest : List Char) :
    scalar (c :: rest) = none := by
  have noString : string (c :: rest) = none := by
    apply string_eq_none
    apply forall_head?_cons
    rcases bracket with rfl | rfl <;> decide
  have noDate : textOf datetime (c :: rest) = none := by
    apply datetime_of_noDigit
    apply forall_head?_cons
    rcases bracket with rfl | rfl <;> decide
  unfold scalar
  rw [orElse_of_none (bind_of_none noString), orElse_of_none (bind_of_none noDate)]
  rcases bracket with rfl | rfl <;> rfl

/-- One piece of the gaps between the items of an array. -/
def gapPiece : Reader Unit := (do let _ ← charWhere isBlankChar) <|> newline <|> comment

/-- The text starts with no gap, but with a mark or a text of an array, or is at its end. -/
def Solid (rest : List Char) : Prop := ∀ c ∈ rest.head?, c = '"' ∨ c = ',' ∨ c = ']'

theorem gap_of_runs {cs : List Char} {pieces : List Unit} (h : Runs gapPiece cs pieces rest) :
    gap cs = some ((), rest) :=
  bind_of_some (repeated_of_runs h)

theorem runs_gapPiece_of_solid {cs : List Char} (solid : Solid cs) : Runs gapPiece cs [] cs := by
  apply Runs.stop
  cases cs with
  | nil => rfl
  | cons c cs => rcases solid c rfl with rfl | rfl | rfl <;> rfl

/-- An item of an array, with the gaps around it. -/
def item (value : Reader Value) : Reader Value := do
  gap
  let v ← value
  gap
  return v

theorem arrayItems_of_none {value : Reader Value} {cs : List Char} (nothing : item value cs = none)
    (solid : Solid cs) : arrayItems value cs = some ([], cs) := by
  have noGap := gap_of_runs (runs_gapPiece_of_solid solid)
  refine (bind_of_some (optionally_of_none nothing)).trans ?_
  show (gap >>= fun _ => pure ([] : List Value)) cs = _
  rw [bind_of_some noGap]
  rfl

theorem arrayItems_of_runs {value : Reader Value} {v : Value} {vs : List Value} {cs middle : List Char}
    (first : item value cs = some (v, middle))
    (others : Runs (exactly "," >>= fun _ => item value) middle vs rest)
    (noComma : exactly "," rest = none) (solid : Solid rest) :
    arrayItems value cs = some (v :: vs, rest) := by
  have noGap := gap_of_runs (runs_gapPiece_of_solid solid)
  refine (bind_of_some (optionally_of_some first)).trans ?_
  show (repeated (exactly "," >>= fun _ => item value) >>= fun others =>
    optionally (exactly ",") >>= fun _ => gap >>= fun _ => pure (v :: others)) middle = _
  rw [bind_of_some (repeated_of_runs others), bind_of_some (optionally_of_none noComma),
    bind_of_some noGap]
  rfl

/-- The items of a list of texts. -/
def Spelling.items : List String → List Char
  | [] => []
  | s :: ss => sp.quoted s ++ ss.flatMap fun s => ',' :: ' ' :: sp.quoted s

def Spelling.list (ss : List String) : List Char := '[' :: (sp.items ss ++ [']'])

/-- What follows a text in a list. -/
def ItemEnds (rest : List Char) : Prop := ∃ c cs, rest = c :: cs ∧ (c = ',' ∨ c = ']')

theorem ItemEnds.solid (ends : ItemEnds rest) : Solid rest := by
  obtain ⟨c, cs, rfl, mark⟩ := ends
  exact forall_head?_cons (.inr mark)

theorem ItemEnds.noQuote (ends : ItemEnds rest) : NoQuote rest := by
  obtain ⟨c, cs, rfl, mark⟩ := ends
  apply forall_head?_cons
  rcases mark with rfl | rfl <;> decide

theorem solid_quoted (s : String) (rest : List Char) : Solid (sp.quoted s ++ rest) :=
  forall_head?_cons (.inl rfl)

/-- A text is read as an item where the gap before it is known. -/
theorem item_of_runs {s : String} {cs : List Char} {pieces : List Unit} (levels : Nat)
    (before : Runs gapPiece cs pieces (sp.quoted s ++ rest)) (ends : ItemEnds rest) :
    item (valueUpTo levels) cs = some (.string s, rest) := by
  have text : valueUpTo levels (sp.quoted s ++ rest) = some (.string s, rest) :=
    valueUpTo_of_scalar (scalar_quoted sp ends.noQuote) levels
  unfold item
  rw [bind_of_some (gap_of_runs before), bind_of_some text,
    bind_of_some (gap_of_runs (runs_gapPiece_of_solid ends.solid))]
  rfl

theorem itemEnds_close (rest : List Char) : ItemEnds (']' :: rest) := ⟨']', rest, rfl, .inr rfl⟩

theorem item_close (levels : Nat) (rest : List Char) : item (valueUpTo levels) (']' :: rest) = none := by
  have noScalar := scalar_bracket (.inr rfl : ']' = '[' ∨ ']' = ']') rest
  have noValue : valueUpTo levels (']' :: rest) = none := by
    cases levels with
    | zero => exact noScalar
    | succ levels =>
      unfold valueUpTo
      rw [orElse_of_none noScalar]
      rfl
  unfold item
  rw [bind_of_some (gap_of_runs (runs_gapPiece_of_solid (itemEnds_close rest).solid)),
    bind_of_none noValue]

theorem arrayItems_items (levels : Nat) (ss : List String) (rest : List Char) :
    arrayItems (valueUpTo levels) (sp.items ss ++ ']' :: rest) =
      some (ss.map .string, ']' :: rest) := by
  have closed := itemEnds_close rest
  cases ss with
  | nil => exact arrayItems_of_none (item_close levels rest) closed.solid
  | cons s ss =>
    have others : Runs (exactly "," >>= fun _ => item (valueUpTo levels))
        ((ss.flatMap fun s => ',' :: ' ' :: sp.quoted s) ++ ']' :: rest) (ss.map .string)
        (']' :: rest) := by
      refine runs_flatMap ItemEnds (fun s _ rest ends => ?_) (by simp)
        (fun s _ rest => ⟨',', _, rfl, .inl rfl⟩) closed rfl
      have comma : exactly "," (',' :: ' ' :: sp.quoted s ++ rest) =
          some ((), ' ' :: (sp.quoted s ++ rest)) := rfl
      have space : Runs gapPiece (' ' :: (sp.quoted s ++ rest)) [()] (sp.quoted s ++ rest) :=
        .next rfl (by simp) (runs_gapPiece_of_solid (solid_quoted sp s rest))
      rw [bind_of_some comma, item_of_runs sp levels space ends]
    have follows : ItemEnds ((ss.flatMap fun s => ',' :: ' ' :: sp.quoted s) ++ ']' :: rest) := by
      cases ss with
      | nil => exact closed
      | cons s ss => exact ⟨',', _, rfl, .inl rfl⟩
    have first := item_of_runs sp levels (runs_gapPiece_of_solid (solid_quoted sp s _)) follows
    rw [Spelling.items, List.append_assoc]
    exact arrayItems_of_runs first others rfl closed.solid

theorem valueUpTo_list (levels : Nat) (ss : List String) (rest : List Char) :
    valueUpTo (levels + 1) (sp.list ss ++ rest) = some (.array (ss.map .string), rest) := by
  have whole : sp.list ss ++ rest = '[' :: (sp.items ss ++ ']' :: rest) := by
    simp [Spelling.list]
  have opened : exactly "[" ('[' :: (sp.items ss ++ ']' :: rest)) =
      some ((), sp.items ss ++ ']' :: rest) := rfl
  have closed : exactly "]" (']' :: rest) = some ((), rest) := rfl
  unfold valueUpTo
  rw [whole, orElse_of_none (scalar_bracket (.inl rfl) _)]
  apply orElse_of_some
  rw [bind_of_some opened, bind_of_some (arrayItems_items sp levels ss rest), bind_of_some closed]
  rfl

/-! ## Entries -/

/-- What a name may stand for on a line. -/
inductive Entry where
  | number (n : Int)
  | texts (ss : List String)

def Entry.toValue : Entry → Value
  | .number n => .integer n
  | .texts ss => .array (ss.map .string)

def Entry.chars (sp : Spelling) : Entry → List Char
  | .number n => Json.intChars n
  | .texts ss => sp.list ss

/-- There are such numbers in TOML. -/
def Entry.Fits : Entry → Prop
  | .number n => Fits64 n
  | .texts _ => True

theorem value_entry {e : Entry} (fits : e.Fits) :
    value (e.chars sp ++ '\n' :: rest) = some (e.toValue, '\n' :: rest) := by
  cases e with
  | number n => exact valueUpTo_of_scalar (scalar_intChars fits) _
  | texts ss => exact valueUpTo_list sp _ ss _

theorem blanks_entry (e : Entry) (rest : List Char) :
    blanks (' ' :: (e.chars sp ++ rest)) = some ((), e.chars sp ++ rest) := by
  rw [blanks_eq, List.dropWhile_cons_of_pos rfl, ← blanks_eq]
  apply blanks_of_solid
  cases e with
  | texts ss => exact forall_head?_cons rfl
  | number n =>
    obtain ⟨c, cs, chars, starts⟩ := Json.exists_intChars n
    rw [Entry.chars, chars]
    apply forall_head?_cons
    rw [Bool.eq_false_iff]
    intro blank
    simp only [isBlankChar, Bool.or_eq_true, beq_iff_eq] at blank
    rcases blank with rfl | rfl <;> exact absurd starts (by decide)

/-! ## Lines -/

inductive Line where
  | header (name : String)
  | entry (name : String) (e : Entry)

def Line.chars (sp : Spelling) : Line → List Char
  | .header name => '[' :: (sp.name name ++ [']', '\n'])
  | .entry name e => sp.name name ++ (' ' :: '=' :: ' ' :: (e.chars sp ++ ['\n']))

def Line.statement : Line → Statement
  | .header name => .table [] name
  | .entry name e => .assign [] name e.toValue

def Line.Fits : Line → Prop
  | .header _ => True
  | .entry _ e => e.Fits

theorem statement_header (name : String) (rest : List Char) :
    statement ('[' :: (sp.name name ++ ']' :: '\n' :: rest)) = some (.table [] name, rest) := by
  have noElement : elementHeader ('[' :: (sp.name name ++ ']' :: '\n' :: rest)) = none :=
    bind_of_none (exactly_name sp (rfl : "[".toList = ['[']) (by decide) name _)
  have opened : exactly "[" ('[' :: (sp.name name ++ ']' :: '\n' :: rest)) =
      some ((), sp.name name ++ ']' :: '\n' :: rest) := rfl
  have named : key (sp.name name ++ ']' :: '\n' :: rest) = some (([], name), ']' :: '\n' :: rest) := by
    have ends : NameEnds (']' :: '\n' :: rest) := forall_head?_cons rfl
    exact key_name sp ends (by simp [isBlankChar])
  have closed : exactly "]" (']' :: '\n' :: rest) = some ((), '\n' :: rest) := rfl
  have whole : header ('[' :: (sp.name name ++ ']' :: '\n' :: rest)) =
      some (.table [] name, rest) := by
    unfold header
    rw [bind_of_some opened, bind_of_some named]
    dsimp only
    rw [bind_of_some closed, bind_of_some (restOfLine_newLine rest)]
    rfl
  have noBlanks : blanks ('[' :: (sp.name name ++ ']' :: '\n' :: rest)) =
      some ((), '[' :: (sp.name name ++ ']' :: '\n' :: rest)) := rfl
  have nonempty : emptyLine ('[' :: (sp.name name ++ ']' :: '\n' :: rest)) = none := rfl
  unfold statement
  rw [bind_of_some noBlanks, orElse_of_none nonempty, orElse_of_none noElement, orElse_of_some whole]

/-- What a line may be besides an assignment is refused at the name. -/
theorem statement_entry (name : String) {e : Entry} (fits : e.Fits) (rest : List Char) :
    statement (sp.name name ++ ' ' :: '=' :: ' ' :: (e.chars sp ++ '\n' :: rest)) =
      some (.assign [] name e.toValue, rest) := by
  generalize after : ' ' :: '=' :: ' ' :: (e.chars sp ++ '\n' :: rest) = tail
  have nonempty : emptyLine (sp.name name ++ tail) = none := by
    have noNewLine : newline (sp.name name ++ tail) = none := by
      unfold newline
      rw [orElse_of_none (exactly_name sp rfl (by decide) name tail),
        exactly_name sp rfl (by decide) name tail]
    have noComment : comment (sp.name name ++ tail) = none :=
      bind_of_none (exactly_name sp rfl (by decide) name tail)
    unfold emptyLine
    apply bind_of_none
    rw [orElse_of_none noNewLine, bind_of_none noComment]
  have noElement : elementHeader (sp.name name ++ tail) = none :=
    bind_of_none (exactly_name sp rfl (by decide) name tail)
  have noHeader : header (sp.name name ++ tail) = none :=
    bind_of_none (exactly_name sp rfl (by decide) name tail)
  subst after
  have named : key (sp.name name ++ ' ' :: '=' :: ' ' :: (e.chars sp ++ '\n' :: rest)) =
      some (([], name), '=' :: ' ' :: (e.chars sp ++ '\n' :: rest)) := by
    have ends : NameEnds (' ' :: '=' :: ' ' :: (e.chars sp ++ '\n' :: rest)) := forall_head?_cons rfl
    exact key_name sp ends (by simp [isBlankChar])
  have equals : exactly "=" ('=' :: ' ' :: (e.chars sp ++ '\n' :: rest)) =
      some ((), ' ' :: (e.chars sp ++ '\n' :: rest)) := rfl
  have space : blanks (' ' :: (e.chars sp ++ '\n' :: rest)) =
      some ((), e.chars sp ++ '\n' :: rest) := blanks_entry sp e _
  unfold statement
  rw [bind_of_some (blanks_name sp name _), orElse_of_none nonempty, orElse_of_none noElement,
    orElse_of_none noHeader]
  unfold assignment
  rw [bind_of_some named]
  dsimp only
  rw [bind_of_some equals, bind_of_some space, bind_of_some (value_entry sp fits),
    bind_of_some (restOfLine_newLine rest)]
  rfl

theorem statement_line {l : Line} (fits : l.Fits) (rest : List Char) :
    statement (l.chars sp ++ rest) = some (l.statement, rest) := by
  cases l with
  | header name =>
    rw [Line.statement, ← statement_header sp name rest]
    simp [Line.chars]
  | entry name e =>
    rw [Line.statement, ← statement_entry sp name fits rest]
    simp [Line.chars]

/-- Lines are read one after the other, up to the end. -/
theorem statements_lines {ls : List Line} (fit : ∀ l ∈ ls, l.Fits) :
    statements.whole? (ls.flatMap (Line.chars sp)) = some (ls.map Line.statement) := by
  have noMark : exactly "\ufeff" (ls.flatMap (Line.chars sp)) = none := by
    cases ls with
    | nil => rfl
    | cons l ls =>
      rw [List.flatMap_cons]
      cases l with
      | header name => rfl
      | entry name e =>
        rw [Line.chars, List.append_assoc]
        exact exactly_name sp rfl (by decide) name _
  have all : Runs statement (ls.flatMap (Line.chars sp) ++ []) (ls.map Line.statement) [] := by
    refine runs_flatMap (fun _ => True) (fun l hl rest _ => ?_) (fun l _ => ?_) (fun _ _ _ => trivial)
      trivial rfl
    · exact statement_line sp (fit l hl) rest
    · cases l with
      | header name => simp [Line.chars]
      | entry name e => simp [Line.chars]
  rw [List.append_nil] at all
  have read : statements (ls.flatMap (Line.chars sp)) = some (ls.map Line.statement, []) := by
    unfold statements
    rw [bind_of_some (optionally_of_none noMark), bind_of_some (repeated_of_runs all)]
    rfl
  unfold whole?
  rw [read]

end QueryGate.Toml
