-- Which lines of the log are written. A filter is a list of directives
-- with commas between them; of those that are about a line, the most
-- specific one decides. A directive names a target, a span in brackets
-- with a field in braces, and behind an equals sign a level.
import QueryGate.Log.Journal
import QueryGate.Pattern.Grammar
import QueryGate.Text.Blank
import QueryGate.Text.Unsigned

namespace QueryGate.Command

open Log

/-- How much is let through: nothing at zero, everything at five. -/
abbrev Verbosity := Nat

def verbosityOf : Level → Verbosity
  | .error => 1
  | .warn => 2
  | .info => 3
  | .debug => 4

/-- A field that lines are to have, and whether it is to have a certain value. -/
structure FieldFilter where
  name : String
  valued : Bool := false
deriving DecidableEq, Repr

/-- A directive lets lines through whose target starts with its own and that have its field. -/
structure Directive where
  target : Option String := none
  span : Option String := none
  field : Option FieldFilter := none
  verbosity : Verbosity := 5
deriving DecidableEq, Repr

abbrev LogFilter := List Directive

/-- Why a text is no filter. Where a place that is looked up falls inside a character, reading breaks
off for good. -/
inductive FilterFault where
  | malformed
  | insideCharacter
deriving DecidableEq, Repr

/-! ## Places -/

/-- The text behind the first bytes, if they end with a character. -/
def dropBytes? : Nat → List Char → Option (List Char)
  | 0, cs => some cs
  | _ + 1, [] => none
  | n + 1, c :: cs => if c.utf8Size ≤ n + 1 then dropBytes? (n + 1 - c.utf8Size) cs else none

/-- The first bytes of a text, if they end with a character. -/
def takeBytes? : Nat → List Char → Option (List Char)
  | 0, _ => some []
  | _ + 1, [] => none
  | n + 1, c :: cs =>
    if c.utf8Size ≤ n + 1 then (takeBytes? (n + 1 - c.utf8Size) cs).map (c :: ·) else none

/-- The text from one place on. -/
def textFrom (text : List Char) (start : Nat) : Except FilterFault (List Char) :=
  match dropBytes? start text with
  | some cs => .ok cs
  | none => .error .insideCharacter

/-- The text from one place to another. -/
def textBetween (text : List Char) (start stop : Nat) : Except FilterFault (List Char) := do
  match takeBytes? (stop - start) (← textFrom text start) with
  | some cs => return cs
  | none => throw .insideCharacter

/-- The characters of a text with their places, counted in bytes. -/
def placed : Nat → List Char → List (Nat × Char)
  | _, [] => []
  | n, c :: cs => (n, c) :: placed (n + c.utf8Size) cs

/-! ## Levels and fields -/

def lowerCase (text : String) : String := String.ofList (text.toList.map Char.toLower)

/-- A level is a number up to five, or a word in any case. -/
def verbosity? (cs : List Char) : Option Verbosity :=
  match Text.unsigned? cs with
  | some n => if n ≤ 5 then some n.toNat else none
  | none =>
    match lowerCase (String.ofList cs) with
    | "off" => some 0
    | "error" => some 1
    | "warn" => some 2
    | "info" => some 3
    | "debug" => some 4
    | "trace" => some 5
    | _ => none

/-- Digits on at least one side of a point that may be left out, and perhaps an exponent. -/
def isDecimal (cs : List Char) : Bool :=
  let (whole, rest) := Text.spanDigits cs
  let (places, rest) := match rest with
    | '.' :: rest => Text.spanDigits rest
    | rest => ([], rest)
  let exponent := match rest with
    | [] => true
    | c :: rest =>
      let digits := (Text.spanSign rest).2
      (c == 'e' || c == 'E') && !digits.isEmpty && digits.all Char.isDigit
  (!whole.isEmpty || !places.isEmpty) && exponent

/-- The text of a number, signed or not. -/
def isNumber (cs : List Char) : Bool :=
  let unsigned := (Text.spanSign cs).2
  isDecimal unsigned || ["inf", "infinity", "nan"].contains (lowerCase (String.ofList unsigned))

/-- Reads a field. Its value is a number or a pattern; what follows a second equals sign is passed
over. -/
def FieldFilter.ofText (cs : List Char) : Except FilterFault FieldFilter :=
  let name := String.ofList (cs.takeWhile (· != '='))
  match cs.dropWhile (· != '=') with
  | [] => if cs.isEmpty then .error .malformed else .ok { name }
  | _ :: rest =>
    let value := rest.takeWhile (· != '=')
    if isNumber value || Pattern.isPattern value then .ok { name, valued := true }
    else .error .malformed

/-! ## Reading filters -/

/-- How far a directive has been read. The numbers are the places where a part starts. -/
inductive Progress where
  | nothing
  | head
  | span (start : Nat)
  | field (start : Nat)
  | afterField
  | afterSpan
  | level (start : Nat)
deriving DecidableEq, Repr

/-- A character that a level or a target can start with. -/
def isHeadStart (c : Char) : Bool := ['-', ':', '_'].contains c || Text.isLetterOrNumber c

/-- Reads on by one character of a directive's text. Only the marks between the parts are looked at; a
part is cut out of the text at its end. -/
def Directive.step (text : List Char) (read : Directive × Progress) (next : Nat × Char) :
    Except FilterFault (Directive × Progress) := do
  let (d, progress) := read
  let (place, c) := next
  match progress with
  | .nothing =>
    if c == '[' then return (d, .span (place + 1))
    else if isHeadStart c then return (d, .head)
    else throw .malformed
  | .head =>
    if c == '=' || c == '[' then
      let target := String.ofList (← textBetween text 0 place)
      let progress := if c == '=' then Progress.level (place + 1) else .span (place + 1)
      return ({ d with target := some target }, progress)
    else return (d, .head)
  | .span start =>
    if c == ']' then
      return ({ d with span := some (String.ofList (← textBetween text start place)) }, .afterSpan)
    else if c == '\x7b' then
      let name := String.ofList (← textBetween text start place)
      return ({ d with span := if name.isEmpty then none else some name }, .field (place + 1))
    else return (d, .span start)
  | .field start =>
    if c == '\x7d' then
      let field ← FieldFilter.ofText (← textBetween text start place)
      return ({ d with field := some field }, .afterField)
    else return (d, .field start)
  | .afterField => if c == ']' then return (d, .afterSpan) else throw .malformed
  | .afterSpan => if c == '=' then return (d, .level (place + 1)) else throw .malformed
  | .level start => return (d, .level start)

/-- What a directive is when its text has ended. A head that is no level is a target, and an equals sign
with nothing behind it says no level. -/
def Directive.finish (text : List Char) : Directive × Progress → Except FilterFault Directive
  | (d, .head) =>
    match verbosity? text with
    | some verbosity => return { d with verbosity }
    | none => return { d with target := some (String.ofList text) }
  | (d, .level start) => do
    let level ← textFrom text start
    if level.isEmpty then return d
    match verbosity? level with
    | some verbosity => return { d with verbosity }
    | none => throw .malformed
  | (d, .afterSpan) => return d
  | _ => throw .malformed

/-- Reads a directive. White space around it is passed over when the places of its parts are found, but
not when the parts are cut out, so white space in front shifts them. -/
def Directive.ofText (cs : List Char) : Except FilterFault Directive := do
  let read ← (placed 0 (Text.trim cs)).foldlM (Directive.step cs) ({}, .nothing)
  Directive.finish cs read

/-- The filter that a text describes. Nothing between two commas does not count. -/
def LogFilter.ofText (text : String) : Except FilterFault LogFilter :=
  ((text.splitOn ",").filter (!·.isEmpty)).mapM fun part => Directive.ofText part.toList

/-! ## Using filters -/

/-- The more specific of two directives about the same line: the one with a target, or with the longer
one, or with a field, or with the field that comes later by name; of two that are alike, the second. -/
def moreSpecific (a b : Directive) : Directive :=
  let weight := fun (d : Directive) => d.target.elim 0 fun t => t.utf8ByteSize + 1
  if weight a ≠ weight b then (if weight a < weight b then b else a)
  else
    match a.field, b.field with
    | some x, some y => if y.name < x.name then a else b
    | some _, none => a
    | none, _ => b

/-- The directive is about lines of a target with these fields. One about a span, or about the value of
a field, is about no line by itself. -/
def Directive.concerns (d : Directive) (target : String) (fields : List String) : Bool :=
  d.span.isNone && (d.target.all fun t => t.toList.isPrefixOf target.toList) &&
    d.field.all fun f => !f.valued && fields.contains f.name

/-- A line is let through. A filter without directives lets errors through. -/
def LogFilter.allows (f : LogFilter) (level : Level) (target : String) (fields : List String) : Bool :=
  match f.filter (·.concerns target fields) with
  | [] => f.isEmpty && verbosityOf level ≤ 1
  | d :: rest => verbosityOf level ≤ (rest.foldl moreSpecific d).verbosity

end QueryGate.Command
