-- What a request can see and change besides its own values: the clock, a
-- supply of fresh identifiers, the span it runs in, and the journal of
-- what was logged. Nothing else is shared between two requests.
import QueryGate.Json.Value
import QueryGate.Log.Span

namespace QueryGate.Log

inductive Level where
  | error
  | warn
  | info
  | debug
deriving DecidableEq, Repr, Inhabited

def Level.text : Level → String
  | .error => "ERROR"
  | .warn => "WARN"
  | .info => "INFO"
  | .debug => "DEBUG"

/-- A line of the log, with the spans around it. -/
structure Event where
  level : Level
  message : String
  fields : List (String × String)
  spans : List Frame
deriving DecidableEq, Repr, Inhabited

/-- An entry of the journal: a line of the log, or what someone asked for by a request wrote down of
having been asked. -/
inductive Entry where
  | event (e : Event)
  | note (content : Json)
deriving Inhabited

/-- The surroundings of a request. The clock counts nanoseconds; the journal starts with its oldest
entry. -/
structure World where
  now : Nat := 0
  ids : Nat → String
  issued : Nat := 0
  current : Span := .disabled
  journal : List Entry := []

abbrev Run := StateM World

namespace Run

variable {α : Type}

def write (e : Entry) : Run Unit := modify fun w => { w with journal := w.journal ++ [e] }

/-- Writes a line of the log in a span. -/
def log (span : Span) (level : Level) (message : String) (fields : List (String × String)) :
    Run Unit :=
  write (.event ⟨level, message, fields, span.path⟩)

def note (content : Json) : Run Unit := write (.note content)

def now : Run Nat := return (← get).now

/-- Lets time pass. -/
def advance (nanoseconds : Nat) : Run Unit :=
  modify fun w => { w with now := w.now + nanoseconds }

/-- An identifier that was not issued before. -/
def freshId : Run String := do
  let w ← get
  set { w with issued := w.issued + 1 }
  return w.ids w.issued

/-- The span that the request runs in. -/
def currentSpan : Run Span := return (← get).current

def setCurrentSpan (span : Span) : Run Unit := modify fun w => { w with current := span }

/-- What `act` gives from now on an empty journal, and that journal, oldest entry first. -/
def recorded (act : Run α) : Run (α × List Entry) := do
  modify fun w => { w with journal := [] }
  let a ← act
  return (a, (← get).journal)

end Run

/-! ## Entries as JSON -/

def fieldsJson (fields : List (String × String)) : Json :=
  .object (fields.map fun (name, text) => (name, .string text))

/-- Every span has the same level. -/
def Frame.toJson (f : Frame) : Json :=
  .object [("name", .string f.name), ("level", .string Level.info.text), ("fields", fieldsJson f.fields)]

def Entry.toJson : Entry → Json
  | .event e =>
    .object [("level", .string e.level.text), ("message", .string e.message),
      ("fields", fieldsJson e.fields), ("spans", .array (e.spans.map Frame.toJson))]
  | .note content => content

end QueryGate.Log
