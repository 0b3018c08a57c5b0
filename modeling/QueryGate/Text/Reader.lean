-- Readers of texts. A reader takes some characters off the front of a
-- text and gives a value, or it refuses the text; of two readers in a
-- choice the second is tried where the first refuses, from the same
-- place, and a choice once made is never taken back.
import QueryGate.Text.Scan

namespace QueryGate.Text

abbrev Reader (α : Type) := StateT (List Char) Option α

namespace Reader

variable {α β : Type}

/-- Takes exactly `word`. -/
def exactly (word : String) : Reader Unit := fun cs => (after? word.toList cs).map fun rest => ((), rest)

/-- Takes one character of a kind. -/
def charWhere (p : Char → Bool) : Reader Char
  | c :: rest => if p c then some (c, rest) else none
  | [] => none

/-- Takes characters of a kind for as long as there are any. -/
def charsWhile (p : Char → Bool) : Reader (List Char) := fun cs =>
  some (cs.takeWhile p, cs.dropWhile p)

/-- As `charsWhile`, and refuses a text that starts with none. -/
def someCharsWhile (p : Char → Bool) : Reader (List Char) := do
  let c ← charWhere p
  let cs ← charsWhile p
  return c :: cs

/-- What `r` gives, or nothing where it refuses. -/
def optionally (r : Reader α) : Reader (Option α) := fun cs =>
  match r cs with
  | some (a, rest) => some (some a, rest)
  | none => some (none, cs)

/-- Refuses what `r` would read, and takes nothing. -/
def notAhead (r : Reader α) : Reader Unit := fun cs =>
  match r cs with
  | some _ => none
  | none => some ((), cs)

/-- Refuses what `r` would refuse, and takes nothing. -/
def ahead (r : Reader α) : Reader Unit := fun cs =>
  match r cs with
  | some _ => some ((), cs)
  | none => none

/-- Reads with `r` until it refuses, at most `limit` times. -/
def repeatedUpTo (r : Reader α) : Nat → Reader (List α)
  | 0 => pure []
  | limit + 1 => fun cs =>
    match r cs with
    | some (a, rest) => (repeatedUpTo r limit rest).map fun (as, rest) => (a :: as, rest)
    | none => some ([], cs)

/-- Reads with `r` until it refuses. Every reader that is repeated takes at least one character, so the
length of the text bounds how often it does. -/
def repeated (r : Reader α) : Reader (List α) := fun cs => repeatedUpTo r cs.length cs

/-- As `repeated`, and refuses a text that `r` refuses. -/
def repeatedOnce (r : Reader α) : Reader (List α) := do
  let a ← r
  let as ← repeated r
  return a :: as

/-- The value of a text that `r` reads to its end. -/
def whole? (r : Reader α) (text : List Char) : Option α :=
  match r text with
  | some (a, []) => some a
  | _ => none

end Reader

end QueryGate.Text
