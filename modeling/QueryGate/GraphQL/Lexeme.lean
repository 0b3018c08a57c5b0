-- The smallest parts of a document's text: names, numbers, strings, and
-- what may stand between them. Commas count as white space, and nothing
-- at all need stand between two parts.
import QueryGate.Decimal.Number
import QueryGate.Text.Reader

namespace QueryGate.GraphQL

open Text

/-! ## Between the parts -/

def isLineEnd (c : Char) : Bool := c == '\n' || c == '\r'

/-- White space. The byte order mark is part of it, wherever it stands. -/
def isIgnored (c : Char) : Bool := c == ' ' || c == ',' || c == '\t' || c == '\ufeff' || isLineEnd c

mutual

/-- The text after any white space and comments. -/
def skip : List Char → List Char
  | [] => []
  | c :: rest => if isIgnored c then skip rest else if c = '#' then skipComment rest else c :: rest

/-- The text after a comment, which reaches to the end of its line. -/
def skipComment : List Char → List Char
  | [] => []
  | c :: rest => if isLineEnd c then skip rest else skipComment rest

end

/-- Reads with `r` after white space and comments. -/
def token {α : Type} (r : Reader α) : Reader α := fun cs => r (skip cs)

/-- Takes the exact text `word`, whatever follows it. -/
def mark (word : String) : Reader Unit := token (Reader.exactly word)

/-! ## Names and numbers -/

def isNameStart (c : Char) : Bool := c.isAlpha || c == '_'

def isNamePart (c : Char) : Bool := isNameStart c || c.isDigit

def name : Reader String := do
  let c ← Reader.charWhere isNameStart
  let cs ← Reader.charsWhile isNamePart
  return String.ofList (c :: cs)

def digits : Reader (List Char) := Reader.someCharsWhile Char.isDigit

/-- A zero, or digits that do not start with one. -/
def wholeDigits : Reader (List Char) :=
  (do Reader.exactly "0"; return ['0']) <|> digits

def fractionDigits : Reader (List Char) := do
  Reader.exactly "."
  digits

/-- The sign and digits of a power of ten. -/
def exponent : Reader (Bool × List Char) := do
  let _ ← Reader.charWhere fun c => c == 'E' || c == 'e'
  let negative ← (do Reader.exactly "-"; return true) <|> (do Reader.exactly "+"; return false)
    <|> return false
  return (negative, ← digits)

/-- A number with no letter right after it. -/
def number : Reader Number := do
  let sign ← Reader.optionally (Reader.exactly "-")
  let whole ← wholeDigits
  let fraction ← Reader.optionally fractionDigits
  let power ← Reader.optionally exponent
  Reader.notAhead (Reader.charWhere isNameStart)
  return Number.ofLiteral { negative := sign.isSome, whole, fraction, exponent := power }

/-! ## Strings -/

/-- The character that a backslash and a letter stand for. -/
def simpleEscape : Char → Option Char
  | '"' => some '"'
  | '\\' => some '\\'
  | '/' => some '/'
  | 'b' => some '\x08'
  | 'f' => some '\x0c'
  | 'n' => some '\n'
  | 'r' => some '\r'
  | 't' => some '\t'
  | _ => none

def fourDigits : Reader Nat := hexUnit? 4

/-- Four hexadecimal digits that denote a character; the halves of surrogate pairs do not. -/
def unicodeEscape : Reader Char := do
  let n ← fourDigits
  if 0xD800 ≤ n ∧ n ≤ 0xDFFF then failure else return Char.ofNat n

def letterEscape : Reader Char := do
  let c ← Reader.charWhere fun c => (simpleEscape c).isSome
  return (simpleEscape c).getD c

def escape : Reader Char := do
  Reader.exactly "\\"
  letterEscape <|> (do Reader.exactly "u"; unicodeEscape)

def stringChar : Reader Char :=
  Reader.charWhere (fun c => !(c == '"' || c == '\\' || isLineEnd c)) <|> escape

/-- A string on one line. -/
def lineString : Reader String := do
  Reader.exactly "\""
  let cs ← Reader.repeated stringChar
  Reader.exactly "\""
  return String.ofList cs

/-! ## Block strings -/

/-- The lines of a text, ended by a line feed, a carriage return, or both together. -/
def splitLines : List Char → List (List Char)
  | [] => [[]]
  | '\r' :: '\n' :: rest => [] :: splitLines rest
  | c :: rest =>
    if isLineEnd c then [] :: splitLines rest
    else match splitLines rest with
      | [] => [[c]]
      | line :: lines => (c :: line) :: lines

def isIndent (c : Char) : Bool := c == ' ' || c == '\t'

/-- How far a line is indented, unless it holds nothing else. -/
def indentOf? (line : List Char) : Option Nat :=
  if line.all isIndent then none else some (line.takeWhile isIndent).length

/-- A line without its first `indent` characters, if it has as many. -/
def unindent (indent : Nat) (line : List Char) : List Char :=
  if indent ≤ line.length then line.drop indent else line

/-- The text of a block string. The indentation that all lines but the first share is taken off, and
lines without content are taken off at both ends. -/
def blockText (cs : List Char) : List Char :=
  let lines := splitLines cs
  let indent := ((lines.drop 1).filterMap indentOf?).min?.getD 0
  let unindented := lines.take 1 ++ (lines.drop 1).map (unindent indent)
  let isBare := fun (line : List Char) => line.all isIndent
  let kept := ((unindented.dropWhile isBare).reverse.dropWhile isBare).reverse
  ['\n'].intercalate kept

/-- One character of a block string. Only three quotes can be escaped, and they keep their backslash. -/
def blockChar : Reader (List Char) :=
  (do Reader.exactly "\\\"\"\""; return ['\\', '"', '"', '"']) <|>
  (do Reader.notAhead (Reader.exactly "\"\"\""); return [← Reader.charWhere fun _ => true])

/-- A string between triple quotes. -/
def blockString : Reader String := do
  Reader.exactly "\"\"\""
  let cs ← Reader.repeated blockChar
  Reader.exactly "\"\"\""
  return String.ofList (blockText cs.flatten)

def string : Reader String := blockString <|> lineString

end QueryGate.GraphQL
