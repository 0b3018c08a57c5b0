-- What a backslash makes of the characters behind it: a letter, a family
-- of letters, or an edge between two letters.
import QueryGate.Pattern.Mode
import QueryGate.Text.Scan

namespace QueryGate.Pattern

/-- The smallest parts of a pattern. -/
inductive Atom where
  | letter (c : Char)
  | family
  | edge
deriving DecidableEq, Repr

/-! ## Numbers of letters -/

/-- The number that `count` hexadecimal digits denote behind the digits of `n`. -/
def hexDigits? (m : Mode) : Nat → Nat → List Char → Option (Nat × List Char)
  | 0, n, cs => some (n, cs)
  | count + 1, n, cs =>
    match m.skip cs with
    | c :: rest => (Text.hexValue? c).bind fun v => hexDigits? m count (16 * n + v) rest
    | [] => none

/-- A letter by its number. Among bytes, one of two digits is that byte, and above 7F a byte is no
letter. -/
def numbered? (m : Mode) (count : Nat) (cs : List Char) : Option (Atom × List Char) := do
  let (n, rest) ← hexDigits? m count 0 cs
  if n.isValidChar ∧ (m.unicode ∨ count ≠ 2 ∨ n < 0x80) then
    some (.letter (Char.ofNat n), rest)
  else none

/-! ## Families -/

/-- The general categories that have a name of one letter. -/
def categoryNames : List Char := ['c', 'l', 'm', 'n', 'p', 's', 'z']

/-- A family of all letters of a general category. Among bytes there are no categories. -/
def category? (m : Mode) (cs : List Char) : Option (Atom × List Char) :=
  match m.skip cs with
  | c :: rest => if m.unicode && categoryNames.contains c.toLower then some (.family, rest) else none
  | [] => none

/-! ## Escapes -/

/-- The letters that stand for control characters. -/
def control? (c : Char) : Option Char :=
  match c with
  | 'a' => some '\x07'
  | 't' => some '\t'
  | 'n' => some '\n'
  | 'v' => some '\x0b'
  | 'f' => some '\x0c'
  | 'r' => some '\r'
  | _ => none

/-- An ASCII character that is neither a letter nor a digit stands for itself behind a backslash. -/
def isSelfEscape (c : Char) : Bool := c.toNat < 0x80 && !c.isAlphanum

/-- Reads what follows a backslash. An edge of a word is known among bytes only, and what is not one of a
family is a letter only among characters. -/
def escape? (m : Mode) : List Char → Option (Atom × List Char)
  | [] => none
  | c :: rest =>
    match c with
    | 'x' => numbered? m 2 rest
    | 'u' => numbered? m 4 rest
    | 'U' => numbered? m 8 rest
    | 'p' | 'P' => category? m rest
    | 'd' | 's' | 'w' => some (.family, rest)
    | 'D' | 'S' | 'W' => if m.unicode then some (.family, rest) else none
    | 'b' | 'B' | '<' | '>' => if m.unicode then none else some (.edge, rest)
    | 'A' | 'z' => some (.edge, rest)
    | c =>
      match control? c with
      | some control => some (.letter control, rest)
      | none => if isSelfEscape c then some (.letter c, rest) else none

end QueryGate.Pattern
