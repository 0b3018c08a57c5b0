-- Regular expressions, as far as their form goes: whether a text is one
-- that an automaton can be made of. Braces are not known here, and a text
-- with one outside a class is refused.
import QueryGate.Pattern.Bracket
import QueryGate.Text.Letters

namespace QueryGate.Pattern

/-- One piece of a sequence: how deeply things are nested in it, and whether it can be repeated. -/
structure Piece where
  depth : Nat := 0
  repeatable : Bool := true
deriving DecidableEq, Repr

/-- How deeply things are nested in a sequence. Two or more pieces are nested in their list. -/
def sequenceDepth : List Piece → Nat
  | [] => 0
  | [p] => p.depth
  | ps => (ps.map (·.depth)).foldl max 0 + 1

/-- A group that has not been closed yet, or the whole pattern. -/
structure Group where
  /-- What holds again behind the group. -/
  outside : Mode
  /-- How deeply things are nested in the alternatives before the last one. -/
  alternatives : List Nat := []
  /-- The last alternative, the last piece first. -/
  pieces : List Piece := []

def Group.add (g : Group) (p : Piece) : Group := { g with pieces := p :: g.pieces }

def Group.alternate (g : Group) : Group :=
  { g with alternatives := sequenceDepth g.pieces :: g.alternatives, pieces := [] }

/-- How deeply things are nested in what has been read of a group. -/
def Group.depth (g : Group) : Nat :=
  match g.alternatives with
  | [] => sequenceDepth g.pieces
  | ds => ds.foldl max (sequenceDepth g.pieces) + 1

/-- Repeats the last piece. There has to be one, and a switch is none. -/
def Group.repeatLast? (g : Group) : Option Group :=
  match g.pieces with
  | p :: ps =>
    if p.repeatable then some { g with pieces := { depth := p.depth + 1 } :: ps } else none
  | [] => none

/-! ## Parentheses -/

/-- What a parenthesis opens. -/
inductive Opening where
  | group
  | named (name : List Char)
  | switched (m : Mode)
  | switch (m : Mode)

/-- A name starts with a letter or an underscore and goes on with letters, numbers and a few marks. -/
def isGroupName : List Char → Bool
  | [] => false
  | c :: rest =>
    (c == '_' || Text.isLetter c) &&
      rest.all fun c => ['_', '.', '[', ']'].contains c || Text.isLetterOrNumber c

/-- Reads the name of a group and the angle bracket behind it. -/
def groupName? (cs : List Char) : Option (Opening × List Char) :=
  match cs.span (· != '>') with
  | (name, _ :: rest) => if isGroupName name then some (.named name, rest) else none
  | (_, []) => none

/-- Reads a switch: for the rest of the group that it is in, where it says something, or for a group of
its own. -/
def switch? (m : Mode) (cs : List Char) : Option (Opening × List Char) :=
  let (text, rest) := cs.span fun c => c != ':' && c != ')'
  if isSwitchText text then
    match rest with
    | ':' :: rest => some (.switched (m.switch text), rest)
    | ')' :: rest => if text.isEmpty then none else some (.switch (m.switch text), rest)
    | _ => none
  else none

/-- Reads what stands behind an opening parenthesis. There is no looking ahead or back. -/
def opening? (m : Mode) (cs : List Char) : Option (Opening × List Char) :=
  match m.skip cs with
  | '?' :: 'P' :: '<' :: rest => groupName? rest
  | '?' :: '<' :: rest => groupName? rest
  | '?' :: rest => switch? m rest
  | rest => some (.group, rest)

/-! ## Patterns -/

/-- How deeply things may be nested in a pattern. -/
def nestingLimit : Nat := 250

/-- Reads to the end of the pattern, with the groups around the current one and the names of those so
far, and gives how deeply things are nested. Every step takes a character, which `fuel` bounds. -/
def patternIn? : Nat → Mode → Group → List Group → List (List Char) → List Char → Option Nat
  | 0, _, _, _, _, _ => none
  | fuel + 1, m, g, outer, names, cs =>
    let goOn := fun g rest => patternIn? fuel m g outer names rest
    match m.skip cs with
    | [] => if outer.isEmpty then some g.depth else none
    | '(' :: rest =>
      match opening? m rest with
      | none => none
      | some (.group, rest) => patternIn? fuel m { outside := m } (g :: outer) names rest
      | some (.named name, rest) =>
        if names.contains name then none
        else patternIn? fuel m { outside := m } (g :: outer) (name :: names) rest
      | some (.switched inside, rest) =>
        patternIn? fuel inside { outside := m } (g :: outer) names rest
      | some (.switch m, rest) => patternIn? fuel m (g.add { repeatable := false }) outer names rest
    | ')' :: rest =>
      match outer with
      | [] => none
      | around :: outer =>
        patternIn? fuel g.outside (around.add { depth := g.depth + 1 }) outer names rest
    | '|' :: rest => goOn g.alternate rest
    | '[' :: rest => do
      let (c, rest) ← class? m rest
      goOn (g.add { depth := c.depth }) rest
    | '?' :: rest | '*' :: rest | '+' :: rest => do
      let g ← g.repeatLast?
      goOn g (if rest.head? == some '?' then rest.drop 1 else rest)
    | '\x7b' :: _ => none
    | '\\' :: rest => do
      let (_, rest) ← escape? m rest
      goOn (g.add {}) rest
    | '.' :: rest => if m.unicode then goOn (g.add {}) rest else none
    | _ :: rest => goOn (g.add {}) rest

/-- The text is a regular expression. -/
def isPattern (cs : List Char) : Bool :=
  (patternIn? (cs.length + 1) {} { outside := {} } [] [] cs).any (· ≤ nestingLimit)

end QueryGate.Pattern
