-- How a pattern is read: whether it is about characters or about bytes,
-- and whether white space in it counts. A pattern can switch both, for
-- the rest of a group or for a group of its own.
import QueryGate.Text.Blank

namespace QueryGate.Pattern

structure Mode where
  /-- The pattern is about characters of all scripts; if not, its classes are about bytes. -/
  unicode : Bool := true
  /-- White space and comments in the pattern are left out. -/
  spaced : Bool := false
deriving DecidableEq, Repr

/-! ## White space -/

/-- The text behind white space and comments. A comment runs from a number sign to the end of its line;
the flag says that the text starts inside one. -/
def afterSpace : Bool → List Char → List Char
  | _, [] => []
  | true, c :: rest => afterSpace (c != '\n') rest
  | false, c :: rest =>
    if Text.isBlank c then afterSpace false rest
    else if c == '#' then afterSpace true rest
    else c :: rest

/-- The text that is read next. -/
def Mode.skip (m : Mode) (cs : List Char) : List Char :=
  if m.spaced then afterSpace false cs else cs

theorem afterSpace_length_le (commented : Bool) (cs : List Char) :
    (afterSpace commented cs).length ≤ cs.length := by
  fun_induction afterSpace commented cs <;> simp_all <;> omega

theorem Mode.skip_length_le (m : Mode) (cs : List Char) : (m.skip cs).length ≤ cs.length := by
  unfold Mode.skip
  split
  · exact afterSpace_length_le false cs
  · exact Nat.le_refl _

/-- The first character that is no white space, also inside a comment. The flag says that the number
sign of a comment has been passed. -/
def firstVisible? : Bool → List Char → Option Char
  | _, [] => none
  | commented, c :: rest =>
    if Text.isBlank c then firstVisible? commented rest
    else if c == '#' && !commented then firstVisible? true rest
    else some c

/-- The character that a look ahead finds. -/
def Mode.peek? (m : Mode) (cs : List Char) : Option Char :=
  if m.spaced then (firstVisible? false cs).or cs.head? else cs.head?

/-! ## Switches -/

/-- The letters of a switch, and the dash behind which they turn off. -/
def isSwitchText (text : List Char) : Bool :=
  text.all ['i', 'm', 's', 'U', 'u', 'R', 'x', '-'].contains && text.Nodup &&
    text.getLast? != some '-'

/-- What one letter of a switch does to a setting. -/
def switched (text : List Char) (letter : Char) (setting : Bool) : Bool :=
  if (text.takeWhile (· != '-')).contains letter then true
  else setting && !text.contains letter

def Mode.switch (m : Mode) (text : List Char) : Mode :=
  { unicode := switched text 'u' m.unicode, spaced := switched text 'x' m.spaced }

end QueryGate.Pattern
