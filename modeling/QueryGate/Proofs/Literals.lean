-- Whole numbers that are written out in a text. The digits of a number are
-- read as its literal wherever they stand, and the literal stays exact as
-- far as 64 bits hold it; beyond that it is a double.
import QueryGate.Proofs.Layout
import QueryGate.Proofs.Readers
import QueryGate.Proofs.Spelling

namespace QueryGate

open Text

namespace GraphQL

open Reader

/-! ## Literals -/

/-- The value of a whole number that is written out, with as many digits as it has. -/
def literal (n : Nat) : Value :=
  .number (.ofLiteral { negative := false, whole := Nat.toDigits 10 n })

theorem literal_of_fits {n : Nat} (fits : n < 2 ^ 64) : literal n = .number (.int n) := by
  have whole : Number.ofLiteral { negative := false, whole := Nat.toDigits 10 n } = .int n := by
    unfold Number.ofLiteral
    dsimp only
    rw [Json.digitsValue_toDigits, if_pos (by simpa [UInt64.size] using fits)]
  rw [literal, whole]

theorem literal_of_beyond {n : Nat} (beyond : 2 ^ 64 ≤ n) : ∃ x, literal n = .number (.double x) := by
  unfold literal Number.ofLiteral
  dsimp only
  rw [Json.digitsValue_toDigits, if_neg (by simpa [UInt64.size] using beyond), if_neg (by simp)]
  exact ⟨_, rfl⟩

/-- The text is at its end or goes on with what goes on with no number. -/
def LiteralEnds (rest : List Char) : Prop := ∀ c ∈ rest.head?, ¬ isNamePart c ∧ c ≠ '.'

variable {rest : List Char}

theorem literalEnds_cons {c : Char} (noName : ¬ isNamePart c) (noPoint : c ≠ '.') :
    LiteralEnds (c :: rest) := by
  intro c' hc
  obtain rfl : c = c' := Option.some.inj hc
  exact ⟨noName, noPoint⟩

theorem LiteralEnds.numberEnds (ends : LiteralEnds rest) : Json.NumberEnds rest := by
  intro c hc
  obtain ⟨noName, noPoint⟩ := ends c hc
  refine ⟨fun digit => noName (by simp [isNamePart, digit]), noPoint, ?_, ?_⟩
  · rintro rfl
    exact noName (by decide)
  · rintro rfl
    exact noName (by decide)

theorem skip_toDigits (n : Nat) (rest : List Char) :
    skip (Nat.toDigits 10 n ++ rest) = Nat.toDigits 10 n ++ rest := by
  obtain ⟨c, cs, starts, digit⟩ := Json.exists_toDigits n
  have solid : isIgnored c = false ∧ c ≠ '#' := by
    constructor
    · by_contra ignored
      simp only [isIgnored, isLineEnd, Bool.or_eq_true, beq_iff_eq, Bool.not_eq_false] at ignored
      obtain (((rfl | rfl) | rfl) | rfl) | rfl | rfl := ignored <;> exact absurd digit (by decide)
    · rintro rfl
      exact absurd digit (by decide)
  rw [starts, List.cons_append, skip, if_neg (by simp [solid.1]), if_neg solid.2]

theorem wholeDigits_toDigits (n : Nat) (ends : Json.NumberEnds rest) :
    wholeDigits (Nat.toDigits 10 n ++ rest) = some (Nat.toDigits 10 n, rest) := by
  unfold wholeDigits
  rcases Nat.eq_zero_or_pos n with rfl | positive
  · exact orElse_of_some rfl
  · obtain ⟨c, cs, starts, digit⟩ := Json.exists_toDigits n
    have noZero : c ≠ '0' := by
      rintro rfl
      exact Json.head_toDigits_ne_zero positive cs starts
    have all := Json.spanDigits_toDigits n ends
    rw [starts] at all ⊢
    rw [orElse_of_none (bind_of_none (exactly_eq_none rfl fun c' hc => ?_))]
    · simp only [spanDigits, List.cons_append, List.takeWhile_cons_of_pos digit,
        List.dropWhile_cons_of_pos digit, Prod.mk.injEq, List.cons.injEq] at all
      have first : Reader.charWhere Char.isDigit (c :: (cs ++ rest)) = some (c, cs ++ rest) := by
        simp [Reader.charWhere, digit]
      unfold digits Reader.someCharsWhile
      rw [List.cons_append, bind_of_some first, bind_of_some rfl, all.1.2, all.2]
      rfl
    · obtain rfl : c = c' := Option.some.inj hc
      exact noZero

theorem number_toDigits (n : Nat) (ends : LiteralEnds rest) :
    number (Nat.toDigits 10 n ++ rest) =
      some (.ofLiteral { negative := false, whole := Nat.toDigits 10 n }, rest) := by
  have numberEnds := ends.numberEnds
  have noSign : Reader.exactly "-" (Nat.toDigits 10 n ++ rest) = none := by
    refine exactly_eq_none rfl fun c hc => ?_
    rintro rfl
    obtain ⟨cs, h⟩ := List.head?_eq_some_iff.mp hc
    exact Json.toDigits_append_ne_minus n rest cs h
  have noFraction : fractionDigits rest = none :=
    bind_of_none (exactly_eq_none rfl fun c hc => (ends c hc).2)
  have noPower : exponent rest = none := by
    refine bind_of_none (charWhere_eq_none fun c hc => ?_)
    simp [numberEnds c hc]
  have noName : Reader.charWhere isNameStart rest = none := by
    refine charWhere_eq_none fun c hc => ?_
    have := (ends c hc).1
    simp_all [isNamePart]
  unfold number
  rw [bind_of_some (optionally_of_none noSign), bind_of_some (wholeDigits_toDigits n numberEnds),
    bind_of_some (optionally_of_none noFraction), bind_of_some (optionally_of_none noPower),
    bind_of_some (notAhead_of_none noName)]
  rfl

/-- The digits of a number are read as its literal, wherever they stand. -/
theorem value_toDigits (n : Nat) (ends : LiteralEnds rest) :
    value false (Nat.toDigits 10 n ++ rest) = some (literal n, rest) := by
  obtain ⟨c, cs, starts, digit⟩ := Json.exists_toDigits n
  have noVariable : variableName (Nat.toDigits 10 n ++ rest) = none := by
    refine bind_of_none (exactly_eq_none rfl fun c' hc => ?_)
    rw [starts] at hc
    obtain rfl : c = c' := Option.some.inj hc
    rintro rfl
    exact absurd digit (by decide)
  unfold value valueUpTo
  dsimp only
  rw [if_neg (by decide), orElse_of_none (bind_of_none noVariable), orElse_of_some]
  rw [bind_of_some (number_toDigits n ends)]
  rfl

/-! ## A query for one page -/

/-- A field with one argument, where the text starts with it after a brace. -/
def usersWith (v : Value) : Field :=
  { position := ⟨1, 2⟩, name := "users", arguments := [("first", v)] }

/-- The query for nothing else. -/
def queryWith (v : Value) : Operation := { type := .query, selections := [.field (usersWith v) []] }

section

variable {tail : List Char} {v : Value}

/-- Such a text from its opening brace on. Its value stands in `tail`, with what closes the text. -/
abbrev fromBrace (tail : List Char) : List Char := "\x7busers(first: ".toList ++ tail

abbrev fromField (tail : List Char) : List Char := "users(first: ".toList ++ tail

abbrev fromParenthesis (tail : List Char) : List Char := "(first: ".toList ++ tail

abbrev fromName (tail : List Char) : List Char := "first: ".toList ++ tail

variable (solid : skip tail = tail) (read : value false tail = some (v, ")\x7d".toList))

include solid read

theorem member_fromName :
    member (value false) (fromName tail) = some (("first", v), ")\x7d".toList) := by
  have key : token name (fromName tail) = some ("first", ": ".toList ++ tail) := rfl
  have colon : mark ":" (": ".toList ++ tail) = some ((), " ".toList ++ tail) := rfl
  have skipped : skip (" ".toList ++ tail) = tail := solid
  have given : token (value false) (" ".toList ++ tail) = some (v, ")\x7d".toList) := by
    unfold token
    rw [skipped, read]
  unfold member
  rw [bind_of_some key, bind_of_some colon, bind_of_some given]
  rfl

theorem optionalArguments_fromParenthesis :
    optionalArguments (fromParenthesis tail) = some ([("first", v)], "\x7d".toList) := by
  have start : mark "(" (fromParenthesis tail) = some ((), fromName tail) := rfl
  have no_more : member (value false) ")\x7d".toList = none := rfl
  have closing : mark ")" ")\x7d".toList = some ((), "\x7d".toList) := rfl
  have given : arguments (fromParenthesis tail) = some ([("first", v)], "\x7d".toList) := by
    unfold arguments
    rw [bind_of_some start, bind_of_some (repeatedOnce_of_last (member_fromName solid read) no_more),
      bind_of_some closing]
    rfl
  unfold optionalArguments
  rw [bind_of_some (optionally_of_some given)]
  rfl

theorem field_fromField {place : List Char → Position} (placed : place (fromField tail) = ⟨1, 2⟩)
    {selections : Reader (Position × List Selection)} (leaf : selections "\x7d".toList = none) :
    field place selections (fromField tail) = some (.field (usersWith v) [], "\x7d".toList) := by
  have start : token get (fromField tail) = some (fromField tail, fromField tail) := rfl
  have unlabelled : label (fromField tail) = none := rfl
  have named : token name (fromField tail) = some ("users", fromParenthesis tail) := rfl
  have undirected : directives "\x7d".toList = some ([], "\x7d".toList) := rfl
  unfold field
  rw [bind_of_some start, bind_of_some (optionally_of_none unlabelled), bind_of_some named,
    bind_of_some (optionalArguments_fromParenthesis solid read), bind_of_some undirected, placed,
    bind_of_some (optionally_of_none leaf)]
  rfl

theorem selectionSet_fromBrace {place : List Char → Position}
    (placed : place (fromField tail) = ⟨1, 2⟩) (opened : place (fromBrace tail) = ⟨1, 1⟩) :
    selectionSet place (fromBrace tail) = some ((⟨1, 1⟩, [.field (usersWith v) []]), []) := by
  have start : token get (fromBrace tail) = some (fromBrace tail, fromBrace tail) := rfl
  have brace : mark "\x7b" (fromBrace tail) = some ((), fromField tail) := rfl
  have closing : mark "\x7d" "\x7d".toList = some ((), []) := rfl
  have leaf (selection) : braced place selection "\x7d".toList = none := rfl
  have no_more (depth : Nat) : selectionUpTo place (depth + 1) "\x7d".toList = none := rfl
  have one (depth : Nat) : selectionUpTo place (depth + 1) (fromField tail) =
      some (.field (usersWith v) [], "\x7d".toList) := by
    unfold selectionUpTo
    exact orElse_of_some (field_fromField solid read placed (leaf _))
  unfold selectionSet braced
  rw [bind_of_some start, bind_of_some brace, bind_of_some (repeatedOnce_of_last (one _) (no_more _)),
    bind_of_some closing, opened]
  rfl

theorem definitions_fromBrace :
    definitions (place (fromBrace tail)) (fromBrace tail) =
      some ([.operation none (queryWith v)], []) := by
  have placed : place (fromBrace tail) (fromField tail) = ⟨1, 2⟩ := by
    have one : byteLength (fromBrace tail) = 1 + byteLength (fromField tail) :=
      byteLength_append ['\x7b'] _
    rw [place, one, Nat.add_sub_cancel]
    rfl
  have opened : place (fromBrace tail) (fromBrace tail) = ⟨1, 1⟩ := by
    rw [place, Nat.sub_self]
    rfl
  have start : token get (fromBrace tail) = some (fromBrace tail, fromBrace tail) := rfl
  have unnamed (place) : namedOperation place (fromBrace tail) = none := rfl
  have no_more (place) : definition place [] = none := rfl
  have bare : definition (place (fromBrace tail)) (fromBrace tail) =
      some (.operation none (queryWith v), []) := by
    unfold definition
    rw [orElse_of_none (unnamed _)]
    apply orElse_of_some
    unfold bareQuery
    rw [bind_of_some start, bind_of_some (selectionSet_fromBrace solid read placed opened), opened]
    rfl
  unfold definitions
  rw [bind_of_some (repeatedOnce_of_last bare (no_more _))]
  rfl

theorem parse_fromBrace (finite : v.isFinite = true) :
    parse (String.ofList (fromBrace tail)) = .ok ⟨.single (queryWith v), []⟩ := by
  have checked : Definition.check (.operation none (queryWith v)) = .ok () := by
    simp [Definition.check, queryWith, usersWith, maxNesting, checkSelections, checkSelection,
      checkBelow, membersFinite, finite, requireFinite]
    rfl
  have all_checked : [Definition.operation none (queryWith v)].forM Definition.check = .ok () := by
    show (Definition.check _ >>= fun _ => .ok ()) = _
    rw [checked]
    rfl
  have all := definitions_fromBrace solid read
  rw [← String.toList_ofList (l := fromBrace tail)] at all
  exact parse_of_definitions all all_checked rfl rfl

end

end GraphQL

end QueryGate
