-- The values of TOML that hold no others, strings apart: whole numbers of
-- 64 bits, floats, dates and times.
import QueryGate.Decimal.Number
import QueryGate.Toml.Lexeme
import QueryGate.Toml.Value

namespace QueryGate.Toml

open Text

/-! ## Digits -/

/-- Digits of a kind. One underscore may stand between two of them. -/
def digitsOf (p : Char → Bool) : Reader (List Char) := do
  let first ← Reader.charWhere p
  let others ← Reader.repeated (do
    let _ ← Reader.optionally (Reader.exactly "_")
    Reader.charWhere p)
  return first :: others

/-- The digits of a whole number: zero alone, or digits that do not start with zero. -/
def wholeDigits : Reader (List Char) := do
  Reader.notAhead (do Reader.exactly "0"; Reader.charWhere fun c => c.isDigit || c == '_')
  digitsOf Char.isDigit

def sign : Reader Bool :=
  (do Reader.exactly "-"; return true) <|> (do Reader.exactly "+"; return false) <|> return false

/-! ## Whole numbers -/

/-- A whole number, if it fits 64 bits with a sign. -/
def asInteger (n : Int) : Reader Value :=
  if Int64.minValue.toInt ≤ n ∧ n ≤ Int64.maxValue.toInt then return .integer n else failure

/-- The number that digits denote in a base. -/
def valueInBase (base : Nat) (cs : List Char) : Nat :=
  cs.foldl (fun n c => base * n + (hexValue? c).getD 0) 0

/-- A number in another base, which its first two characters tell. -/
def basedInteger (start : String) (base : Nat) : Reader Value := do
  Reader.exactly start
  let cs ← digitsOf fun c => (hexValue? c).any (· < base)
  asInteger (valueInBase base cs)

def decimalInteger : Reader Value := do
  let negative ← sign
  let n := digitsValue (← wholeDigits)
  asInteger (if negative then -(n : Int) else n)

/-- The start of a number in another base is not the number zero. -/
def integer : Reader Value :=
  basedInteger "0x" 16 <|> basedInteger "0o" 8 <|> basedInteger "0b" 2 <|> decimalInteger

/-! ## Floats -/

def fraction : Reader (List Char) := do
  Reader.exactly "."
  digitsOf Char.isDigit

def exponent : Reader (Bool × List Char) := do
  let _ ← Reader.charWhere fun c => c == 'e' || c == 'E'
  let negative ← sign
  return (negative, ← digitsOf Char.isDigit)

/-- A float with a fraction, an exponent, or both. One that is too large is refused; one that is too
small becomes the negative infinity. -/
def decimalFloat : Reader Value := do
  let negative ← sign
  let whole ← wholeDigits
  let fraction ← Reader.optionally fraction
  let exponent ← Reader.optionally exponent
  if fraction.isNone && exponent.isNone then failure
  let digits := fraction.getD []
  let d := Double.ofDecimal negative (digitsValue (whole ++ digits))
    (Number.exponentValue exponent - digits.length)
  if d.isInfinite && !negative then failure
  return .float d

/-- An infinity, or what is not a number. -/
def specialFloat : Reader Value := do
  let negative ← sign
  (do Reader.exactly "inf"; return .float (Double.ofSignAndBits negative Double.infinityBits)) <|>
  (do Reader.exactly "nan"; return .float (Double.ofSignAndBits negative 0x7FF8000000000000))

/-! ## Dates and times -/

/-- A number of exactly so many digits. -/
def fixedDigits (count : Nat) : Reader Nat := fun cs =>
  let ds := cs.take count
  if ds.length = count ∧ ds.all Char.isDigit then some (digitsValue ds, cs.drop count) else none

/-- As `fixedDigits`, for a number within bounds. -/
def boundedDigits (count low high : Nat) : Reader Nat := do
  let n ← fixedDigits count
  if low ≤ n ∧ n ≤ high then return n else failure

/-- A date. Every month may have up to 31 days. -/
def date : Reader Unit := do
  let _ ← fixedDigits 4
  Reader.exactly "-"
  let _ ← boundedDigits 2 1 12
  Reader.exactly "-"
  let _ ← boundedDigits 2 1 31

def hourAndMinute : Reader Unit := do
  let _ ← boundedDigits 2 0 23
  Reader.exactly ":"
  let _ ← boundedDigits 2 0 59

/-- A time of day. A minute may have a leap second. -/
def time : Reader Unit := do
  hourAndMinute
  Reader.exactly ":"
  let _ ← boundedDigits 2 0 60
  let _ ← Reader.optionally (do Reader.exactly "."; Reader.someCharsWhile Char.isDigit)

def offset : Reader Unit :=
  (do let _ ← Reader.charWhere fun c => c == 'Z' || c == 'z') <|>
  (do
    let _ ← Reader.charWhere fun c => c == '+' || c == '-'
    hourAndMinute)

/-- A time after a date, with the offset it may have. -/
def timeOfDate : Reader Unit := do
  let _ ← Reader.charWhere fun c => c == 'T' || c == 't' || c == ' '
  time
  let _ ← Reader.optionally offset

/-- A date, a date and a time, or a time. -/
def datetime : Reader Unit :=
  (do
    date
    let _ ← Reader.optionally timeOfDate) <|>
  time

/-! ## All of them -/

/-- The characters that a reader takes. -/
def textOf (r : Reader Unit) : Reader String := fun cs =>
  match r cs with
  | some (_, rest) => some (String.ofList (cs.take (cs.length - rest.length)), rest)
  | none => none

def boolean : Reader Value :=
  (do Reader.exactly "true"; return .boolean true) <|>
  (do Reader.exactly "false"; return .boolean false)

/-- A value that holds no others. What is tried first takes most of the text. -/
def scalar : Reader Value :=
  (do return .string (← string)) <|>
  (do return .datetime (← textOf datetime)) <|>
  decimalFloat <|> specialFloat <|> integer <|> boolean

end QueryGate.Toml
