-- The smallest parts of TOML: blanks, comments, strings and keys.
import QueryGate.Text.Reader

namespace QueryGate.Toml

open Text

/-! ## Between the parts -/

def isBlankChar (c : Char) : Bool := c == ' ' || c == '\t'

/-- A character that no comment or string excludes: every one but the controls other than the tab. -/
def isPlain (c : Char) : Bool := c == '\t' || (0x20 ≤ c.toNat && c.toNat != 0x7F)

def blanks : Reader Unit := do
  let _ ← Reader.charsWhile isBlankChar

/-- A line feed, or a carriage return and a line feed. -/
def newline : Reader Unit := Reader.exactly "\n" <|> Reader.exactly "\r\n"

def comment : Reader Unit := do
  Reader.exactly "#"
  let _ ← Reader.charsWhile isPlain

def endOfText : Reader Unit := fun cs => if cs.isEmpty then some ((), []) else none

/-- What may follow something on its line: blanks, a comment, and the end of the line. -/
def restOfLine : Reader Unit := do
  blanks
  let _ ← Reader.optionally comment
  newline <|> endOfText

/-- Blanks, comments and new lines, as they may stand between the items of an array. -/
def gap : Reader Unit := do
  let _ ← Reader.repeated ((do let _ ← Reader.charWhere isBlankChar) <|> newline <|> comment)

/-! ## Escapes -/

/-- The character that a backslash and a letter stand for. -/
def simpleEscape : Char → Option Char
  | 'b' => some '\x08'
  | 't' => some '\t'
  | 'n' => some '\n'
  | 'f' => some '\x0c'
  | 'r' => some '\r'
  | '"' => some '"'
  | '\\' => some '\\'
  | _ => none

def letterEscape : Reader Char := do
  let c ← Reader.charWhere fun c => (simpleEscape c).isSome
  return (simpleEscape c).getD c

/-- The character of a number written in so many hexadecimal digits, if there is one. -/
def numberedChar (count : Nat) : Reader Char := fun cs =>
  match hexUnit? count cs with
  | some (n, rest) => if n.isValidChar then some (Char.ofNat n, rest) else none
  | none => none

def escape : Reader Char := do
  Reader.exactly "\\"
  letterEscape <|> (do Reader.exactly "u"; numberedChar 4) <|> (do Reader.exactly "U"; numberedChar 8)

/-! ## Strings on one line -/

def basicChar : Reader Char :=
  Reader.charWhere (fun c => isPlain c && c != '"' && c != '\\') <|> escape

def basicString : Reader String := do
  Reader.exactly "\""
  let cs ← Reader.repeated basicChar
  Reader.exactly "\""
  return String.ofList cs

def isLiteral (c : Char) : Bool := isPlain c && c != '\''

/-- A string without escapes. -/
def literalString : Reader String := do
  Reader.exactly "'"
  let cs ← Reader.charsWhile isLiteral
  Reader.exactly "'"
  return String.ofList cs

/-! ## Strings on several lines -/

/-- One or two quotes that do not end a string, since something else follows them. -/
def innerQuotes (quote : Char) : Reader (List Char) :=
  let one := String.ofList [quote]
  let two := String.ofList [quote, quote]
  let other := Reader.ahead (Reader.charWhere (· != quote))
  (do Reader.exactly two; other; return [quote, quote]) <|>
  (do Reader.exactly one; other; return [quote])

/-- The three quotes at the end of a string. Up to two more before them belong to the string. -/
def closingQuotes (quote : Char) : Reader (List Char) :=
  let three := String.ofList [quote, quote, quote]
  (do Reader.exactly (String.ofList [quote, quote] ++ three); return [quote, quote]) <|>
  (do Reader.exactly (String.ofList [quote] ++ three); return [quote]) <|>
  (do Reader.exactly three; return [])

/-- A string between triple quotes, made of pieces. A new line right after the first quotes does not
count. -/
def tripleQuoted (quote : Char) (piece : Reader (List Char)) : Reader String := do
  Reader.exactly (String.ofList [quote, quote, quote])
  let _ ← Reader.optionally newline
  let pieces ← Reader.repeated (piece <|> innerQuotes quote)
  let final ← closingQuotes quote
  return String.ofList (pieces.flatten ++ final)

def newlinePiece : Reader (List Char) := do
  newline
  return ['\n']

/-- A backslash at the end of a line, with all blanks and new lines after it. -/
def lineContinuation : Reader (List Char) := do
  Reader.exactly "\\"
  blanks
  newline
  let _ ← Reader.repeated ((do let _ ← Reader.charWhere isBlankChar) <|> newline)
  return []

def basicPiece : Reader (List Char) :=
  lineContinuation <|> (do return [← basicChar]) <|> newlinePiece

def literalPiece : Reader (List Char) :=
  (do return [← Reader.charWhere isLiteral]) <|> newlinePiece

def multiLineBasic : Reader String := tripleQuoted '"' basicPiece

def multiLineLiteral : Reader String := tripleQuoted '\'' literalPiece

/-- A string of any of the four kinds. -/
def string : Reader String := multiLineBasic <|> basicString <|> multiLineLiteral <|> literalString

/-! ## Keys -/

def isBareKeyChar (c : Char) : Bool := c.isAlphanum || c == '-' || c == '_'

def simpleKey : Reader String :=
  basicString <|> literalString <|> (do return String.ofList (← Reader.someCharsWhile isBareKeyChar))

/-- A name of a key, with the blanks around it. -/
def keyPart : Reader String := do
  blanks
  let name ← simpleKey
  blanks
  return name

/-- The levels of tables and arrays that may lie within each other, and the names that a key may
have, each one less than this. -/
def nestingLimit : Nat := 128

/-- A key: the names before its last dot, and the name after it. -/
def key : Reader (List String × String) := do
  let first ← keyPart
  let others ← Reader.repeated (do Reader.exactly "."; keyPart)
  let names := first :: others
  if names.length < nestingLimit then return (names.dropLast, names.getLast?.getD first) else failure

end QueryGate.Toml
