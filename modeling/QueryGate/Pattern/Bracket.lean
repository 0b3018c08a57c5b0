-- Classes of letters in brackets. A class has members, ranges and other
-- classes in it, and two classes can be intersected or taken from each
-- other. Among bytes a class must keep to ASCII, since no byte above it
-- is a letter by itself.
import QueryGate.Pattern.Escape

namespace QueryGate.Pattern

/-- What matters of a class: how deeply things are nested in it, and whether it goes beyond ASCII. What
goes beyond ASCII at all has everything beyond ASCII. -/
structure Class where
  depth : Nat := 0
  beyond : Bool := false
deriving DecidableEq, Repr

/-- The members of a class that have been read: how many, and what they are together. -/
structure Members where
  count : Nat := 0
  all : Class := {}
deriving DecidableEq, Repr

def Members.add (ms : Members) (c : Class) : Members :=
  { count := ms.count + 1
    all := { depth := max ms.all.depth c.depth, beyond := ms.all.beyond || c.beyond } }

/-- Two or more members are nested in their list. -/
def Members.toClass (ms : Members) : Class :=
  if ms.count ≤ 1 then ms.all else { ms.all with depth := ms.all.depth + 1 }

inductive Operator where
  | intersection
  | difference
  | symmetricDifference
deriving DecidableEq, Repr

def Operator.beyond (op : Operator) (a b : Bool) : Bool :=
  match op with
  | .intersection => a && b
  | .difference => a && !b
  | .symmetricDifference => a != b

/-- A bracket that has not been closed yet. -/
structure Bracket where
  negated : Bool := false
  /-- What stands before the last operator. -/
  left : Option (Class × Operator) := none
  members : Members := {}
deriving DecidableEq, Repr

/-- The class that has been read since the bracket was opened. -/
def Bracket.read (b : Bracket) : Class :=
  let right := b.members.toClass
  match b.left with
  | none => right
  | some (left, op) =>
    { depth := max left.depth right.depth + 1, beyond := op.beyond left.beyond right.beyond }

def Bracket.operate (b : Bracket) (op : Operator) : Bracket :=
  { b with left := some (b.read, op), members := {} }

def Bracket.add (b : Bracket) (c : Class) : Bracket := { b with members := b.members.add c }

/-- The class of a bracket. Among bytes it is refused if it goes beyond ASCII. -/
def Bracket.close? (b : Bracket) (m : Mode) : Option Class :=
  if !m.unicode && (b.read.beyond != b.negated) then none else some { depth := b.read.depth + 1 }

/-! ## Members -/

/-- The classes that go by a name. -/
def classNames : List String :=
  ["alnum", "alpha", "ascii", "blank", "cntrl", "digit", "graph", "lower", "print", "punct",
    "space", "upper", "word", "xdigit"]

/-- Reads a class by its name, from behind the bracket that opens it. -/
def namedClass? (m : Mode) : List Char → Option (Class × List Char)
  | ':' :: cs =>
    let negated := cs.head? == some '^'
    let cs := if negated then cs.drop 1 else cs
    match cs.dropWhile (· != ':') with
    | ':' :: ']' :: rest =>
      if classNames.contains (String.ofList (cs.takeWhile (· != ':'))) then
        some ({ beyond := negated && !m.unicode }, rest)
      else none
    | _ => none
  | _ => none

/-- Reads one member or one end of a range. -/
def member? (m : Mode) : List Char → Option (Atom × List Char)
  | '\\' :: rest => escape? m rest
  | c :: rest => some (.letter c, rest)
  | [] => none

/-- The atom may be a member. Among bytes no letter beyond ASCII may. -/
def Atom.isMember (a : Atom) (m : Mode) : Bool :=
  match a with
  | .letter c => m.unicode || c.toNat < 0x80
  | .family => true
  | .edge => false

/-- Reads a member or a range, and gives what follows. A dash makes a range unless another dash or the
end of the class follows it. -/
def range? (m : Mode) (cs : List Char) : Option (List Char) := do
  let (a, rest) ← member? m cs
  guard (a.isMember m)
  match m.skip rest with
  | [] => none
  | '-' :: after =>
    if m.peek? after == some ']' || m.peek? after == some '-' then some ('-' :: after)
    else
      let (b, rest) ← member? m (m.skip after)
      guard (b.isMember m)
      match a, b with
      | .letter x, .letter y => if x ≤ y then some rest else none
      | _, _ => none
  | rest => some rest

/-! ## Classes -/

/-- Takes up the dashes that a class starts with. -/
def leadingDashes (m : Mode) (b : Bracket) : List Char → Bracket × List Char
  | '-' :: rest => leadingDashes m (b.add {}) (m.skip rest)
  | cs => (b, cs)
termination_by cs => cs.length
decreasing_by exact Nat.lt_succ_of_le (m.skip_length_le rest)

/-- Opens a bracket, from behind it. A bracket that would close the class at once is a member. -/
def openBracket (m : Mode) (cs : List Char) : Bracket × List Char :=
  let cs := m.skip cs
  let negated := cs.head? == some '^'
  let cs := if negated then m.skip (cs.drop 1) else cs
  match leadingDashes m { negated } cs with
  | (b, ']' :: rest) => if b.members.count = 0 then (b.add {}, m.skip rest) else (b, ']' :: rest)
  | opened => opened

/-- Reads to the end of the outermost bracket, with the brackets around the current one. Every step takes
a character, which `fuel` bounds. -/
def classIn? (m : Mode) : Nat → Bracket → List Bracket → List Char → Option (Class × List Char)
  | 0, _, _, _ => none
  | fuel + 1, b, outer, cs =>
    match m.skip cs with
    | [] => none
    | ']' :: rest => do
      let c ← b.close? m
      match outer with
      | [] => some (c, rest)
      | around :: outer => classIn? m fuel (around.add c) outer rest
    | '[' :: rest =>
      match namedClass? m rest with
      | some (c, rest) => classIn? m fuel (b.add c) outer rest
      | none =>
        let (inner, rest) := openBracket m rest
        classIn? m fuel inner (b :: outer) rest
    | '&' :: '&' :: rest => classIn? m fuel (b.operate .intersection) outer rest
    | '-' :: '-' :: rest => classIn? m fuel (b.operate .difference) outer rest
    | '~' :: '~' :: rest => classIn? m fuel (b.operate .symmetricDifference) outer rest
    | cs => do
      let rest ← range? m cs
      classIn? m fuel (b.add {}) outer rest

/-- Reads a class, from behind the bracket that opens it. -/
def class? (m : Mode) (cs : List Char) : Option (Class × List Char) :=
  let (b, rest) := openBracket m cs
  classIn? m (cs.length + 1) b [] rest

end QueryGate.Pattern
