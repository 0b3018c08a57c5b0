-- How JSON is read. White space may stand between any two tokens; a text
-- holds one value and nothing after it. A surrogate must come with its
-- other half, and a number must be one that a double can hold.
import QueryGate.Json.Value
import QueryGate.Text.Scan

namespace QueryGate

open Text

namespace Json

/-! ## Tokens -/

def isSpace (c : Char) : Bool := c == ' ' || c == '\n' || c == '\r' || c == '\t'

def dropSpace (cs : List Char) : List Char := cs.dropWhile isSpace

/-- The character after a backslash and a `u`. -/
def unicodeEscape? (cs : List Char) : Option (Char × List Char) := do
  let (unit, rest) ← hexUnit? 4 cs
  if 0xD800 ≤ unit ∧ unit ≤ 0xDBFF then
    let (low, rest) ← hexUnit? 4 (← after? ['\\', 'u'] rest)
    if 0xDC00 ≤ low ∧ low ≤ 0xDFFF then
      some (Char.ofNat (0x10000 + (unit - 0xD800) * 0x400 + (low - 0xDC00)), rest)
    else none
  else if 0xDC00 ≤ unit ∧ unit ≤ 0xDFFF then none
  else some (Char.ofNat unit, rest)

/-- The character after a backslash, and what follows it. -/
def escape? : List Char → Option (Char × List Char)
  | '"' :: rest => some ('"', rest)
  | '\\' :: rest => some ('\\', rest)
  | '/' :: rest => some ('/', rest)
  | 'b' :: rest => some ('\x08', rest)
  | 'f' :: rest => some ('\x0c', rest)
  | 'n' :: rest => some ('\n', rest)
  | 'r' :: rest => some ('\r', rest)
  | 't' :: rest => some ('\t', rest)
  | 'u' :: rest => unicodeEscape? rest
  | _ => none

/-- The characters up to the closing quote, and what follows it. Each step takes at least one
character, so the length of the text bounds their number. -/
def stringBody? : Nat → List Char → Option (List Char × List Char)
  | 0, _ => none
  | _, [] => none
  | fuel + 1, c :: rest =>
    if c = '"' then some ([], rest)
    else if c = '\\' then do
      let (e, rest) ← escape? rest
      let (cs, rest) ← stringBody? fuel rest
      some (e :: cs, rest)
    else if c.toNat < 0x20 then none
    else do
      let (cs, rest) ← stringBody? fuel rest
      some (c :: cs, rest)

/-- The text after an opening quote, and what follows its closing quote. -/
def stringAfterQuote? (cs : List Char) : Option (String × List Char) :=
  (stringBody? cs.length cs).map fun (s, rest) => (String.ofList s, rest)

/-! ## Numbers -/

/-- The whole part of a number: one zero, or digits that do not start with zero. -/
def wholePart? (cs : List Char) : Option (List Char × List Char) :=
  match spanDigits cs with
  | ([], _) => none
  | ('0' :: _ :: _, _) => none
  | parts => some parts

/-- The digits after a point, if there is a point. -/
def fractionPart? : List Char → Option (Option (List Char) × List Char)
  | '.' :: rest =>
    match spanDigits rest with
    | ([], _) => none
    | (ds, rest) => some (some ds, rest)
  | cs => some (none, cs)

/-- The exponent, if there is one. -/
def exponentPart? : List Char → Option (Option (Bool × List Char) × List Char)
  | c :: rest =>
    if c = 'e' ∨ c = 'E' then
      let (negative, rest) := spanSign rest
      match spanDigits rest with
      | ([], _) => none
      | (ds, rest) => some (some (negative, ds), rest)
    else some (none, c :: rest)
  | [] => some (none, [])

/-- A number and what follows it. -/
def number? (cs : List Char) : Option (Json × List Char) := do
  let (negative, cs) := match cs with
    | '-' :: rest => (true, rest)
    | cs => (false, cs)
  let (whole, cs) ← wholePart? cs
  let (fraction, cs) ← fractionPart? cs
  let (exponent, cs) ← exponentPart? cs
  let n := Number.ofLiteral { negative, whole, fraction, exponent }
  if n.isFinite then some (.number n, cs) else none

/-! ## Values -/

mutual

/-- A value and what follows it. Between two steps at least one character is taken. -/
def value? : Nat → List Char → Option (Json × List Char)
  | 0, _ => none
  | fuel + 1, cs =>
    match dropSpace cs with
    | '"' :: rest => (stringAfterQuote? rest).map fun (s, rest) => (.string s, rest)
    | '[' :: rest =>
      match dropSpace rest with
      | ']' :: rest => some (.array [], rest)
      | rest => (items? fuel rest).map fun (items, rest) => (.array items, rest)
    | '\x7b' :: rest =>
      match dropSpace rest with
      | '\x7d' :: rest => some (.object [], rest)
      | rest => (members? fuel rest).map fun (members, rest) => (.object members, rest)
    | 't' :: rest => (after? "rue".toList rest).map fun rest => (.bool true, rest)
    | 'f' :: rest => (after? "alse".toList rest).map fun rest => (.bool false, rest)
    | 'n' :: rest => (after? "ull".toList rest).map fun rest => (.null, rest)
    | cs => number? cs

/-- The items of an array up to its closing bracket; there is at least one. -/
def items? : Nat → List Char → Option (List Json × List Char)
  | 0, _ => none
  | fuel + 1, cs => do
    let (j, rest) ← value? fuel cs
    match dropSpace rest with
    | ']' :: rest => some ([j], rest)
    | ',' :: rest =>
      let (items, rest) ← items? fuel rest
      some (j :: items, rest)
    | _ => none

/-- The members of an object up to its closing brace; there is at least one. -/
def members? : Nat → List Char → Option (List (String × Json) × List Char)
  | 0, _ => none
  | fuel + 1, cs =>
    match dropSpace cs with
    | '"' :: rest => do
      let (name, rest) ← stringAfterQuote? rest
      match dropSpace rest with
      | ':' :: rest =>
        let (j, rest) ← value? fuel rest
        match dropSpace rest with
        | '\x7d' :: rest => some ([(name, j)], rest)
        | ',' :: rest =>
          let (members, rest) ← members? fuel rest
          some ((name, j) :: members, rest)
        | _ => none
      | _ => none
    | _ => none

end

/-- The value that a text holds. Two steps may share one character, hence twice its length. -/
def read? (text : String) : Option Json :=
  let cs := text.toList
  match value? (2 * cs.length + 1) cs with
  | some (j, rest) => if dropSpace rest = [] then some j else none
  | none => none

end Json

end QueryGate
