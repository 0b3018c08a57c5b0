-- How JSON is written: compact, on one line without spaces, or indented
-- with two spaces a level. Strings are written the same way in both.
import QueryGate.Json.Value
import QueryGate.Decimal.Layout

namespace QueryGate

namespace Json

/-! ## Strings and numbers -/

/-- Two lower case hexadecimal digits of a number below 256. -/
def hexPair (n : Nat) : List Char := [Nat.digitChar (n / 16), Nat.digitChar (n % 16)]

/-- One character as it stands between the quotes: only the quote, the backslash and the control
characters below the space are escaped. -/
def escapedChar (c : Char) : List Char :=
  match c with
  | '"' => ['\\', '"']
  | '\\' => ['\\', '\\']
  | '\x08' => ['\\', 'b']
  | '\x0c' => ['\\', 'f']
  | '\n' => ['\\', 'n']
  | '\r' => ['\\', 'r']
  | '\t' => ['\\', 't']
  | c => if c.toNat < 0x20 then ['\\', 'u', '0', '0'] ++ hexPair c.toNat else [c]

def stringChars (s : String) : List Char :=
  '"' :: s.toList.flatMap escapedChar ++ ['"']

/-- Doubles are written plainly from five zeros after the point to sixteen digits before it, and
always with a point. -/
def doubleLayout : DecimalLayout := ⟨fun lead => -5 ≤ lead && lead ≤ 15, true⟩

def intChars : Int → List Char
  | .ofNat n => Nat.toDigits 10 n
  | .negSucc n => '-' :: Nat.toDigits 10 (n + 1)

def numberChars : Number → List Char
  | .int n => intChars n
  | .double d => doubleLayout.ofDouble d

/-! ## Compact text -/

mutual

def chars : Json → List Char
  | .null => "null".toList
  | .bool true => "true".toList
  | .bool false => "false".toList
  | .number n => numberChars n
  | .string s => stringChars s
  | .array items => '[' :: itemsChars items ++ [']']
  | .object members => '\x7b' :: membersChars members ++ ['\x7d']

/-- The items with commas between them. -/
def itemsChars : List Json → List Char
  | [] => []
  | [j] => chars j
  | j :: rest => chars j ++ ',' :: itemsChars rest

/-- The members with commas between them. -/
def membersChars : List (String × Json) → List Char
  | [] => []
  | [(name, j)] => stringChars name ++ ':' :: chars j
  | (name, j) :: rest => stringChars name ++ ':' :: chars j ++ ',' :: membersChars rest

end

/-- The text of a value on one line. -/
def compact (j : Json) : String := String.ofList j.chars

/-! ## Indented text -/

/-- A new line with `depth` levels of indentation. -/
def newLine (depth : Nat) : List Char := '\n' :: List.replicate (2 * depth) ' '

mutual

/-- The text of a value that stands `depth` levels deep. Empty arrays and objects stay closed. -/
def indentedChars (depth : Nat) : Json → List Char
  | .array [] => ['[', ']']
  | .array (j :: rest) =>
    '[' :: newLine (depth + 1) ++ indentedChars (depth + 1) j ++ indentedItems depth rest
  | .object [] => ['\x7b', '\x7d']
  | .object ((name, j) :: rest) =>
    '\x7b' :: newLine (depth + 1) ++ stringChars name ++ [':', ' '] ++
      indentedChars (depth + 1) j ++ indentedMembers depth rest
  | j => chars j

/-- What follows the first item of an array, to its closing bracket. -/
def indentedItems (depth : Nat) : List Json → List Char
  | [] => newLine depth ++ [']']
  | j :: rest =>
    ',' :: newLine (depth + 1) ++ indentedChars (depth + 1) j ++ indentedItems depth rest

/-- What follows the first member of an object, to its closing brace. -/
def indentedMembers (depth : Nat) : List (String × Json) → List Char
  | [] => newLine depth ++ ['\x7d']
  | (name, j) :: rest =>
    ',' :: newLine (depth + 1) ++ stringChars name ++ [':', ' '] ++
      indentedChars (depth + 1) j ++ indentedMembers depth rest

end

/-- The text of a value on several lines. -/
def indented (j : Json) : String := String.ofList (j.indentedChars 0)

end Json

end QueryGate
