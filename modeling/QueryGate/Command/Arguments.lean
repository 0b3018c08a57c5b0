-- The arguments of the command. They are read from left to right, and the
-- first one that asks for the version or for help, or that is wrong,
-- decides.
import QueryGate.Text.Unsigned

namespace QueryGate.Command

structure Arguments where
  query : Option String := none
  config : Option String := none
  maxDepth : Option UInt64 := none
  maxCost : Option UInt64 := none
  logLevel : Option String := none
deriving DecidableEq, Repr

/-- What the arguments ask for. -/
inductive Invocation where
  | measure (arguments : Arguments)
  | showVersion
  | showHelp
  | wrong
deriving DecidableEq, Repr

/-! ## Single options -/

/-- The options that take a value. -/
inductive OptionName where
  | config
  | maxDepth
  | maxCost
  | logLevel
deriving DecidableEq, Repr

/-- What the name of an option stands for. -/
inductive Named where
  | valued (option : OptionName)
  | version
  | help
deriving DecidableEq, Repr

def longName? : String → Option Named
  | "config" => some (.valued .config)
  | "max-depth" => some (.valued .maxDepth)
  | "max-cost" => some (.valued .maxCost)
  | "log-level" => some (.valued .logLevel)
  | "version" => some .version
  | "help" => some .help
  | _ => none

def shortName? : Char → Option Named
  | 'c' => some (.valued .config)
  | 'V' => some .version
  | 'h' => some .help
  | _ => none

namespace Arguments

/-- Gives a part a value once. -/
def setOnce {α : Type} (part : Option α) (value : Option α) : Option (Option α) :=
  if part.isSome || value.isNone then none else some value

/-- A path, which is not empty. -/
def path? (text : String) : Option String := if text.isEmpty then none else some text

/-- Gives an option its value. No option is given twice, and each has values that it takes. -/
def set (a : Arguments) (option : OptionName) (text : String) : Option Arguments :=
  match option with
  | .config => (setOnce a.config (path? text)).map fun config => { a with config }
  | .maxDepth =>
    (setOnce a.maxDepth (Text.unsigned? text.toList)).map fun maxDepth => { a with maxDepth }
  | .maxCost =>
    (setOnce a.maxCost (Text.unsigned? text.toList)).map fun maxCost => { a with maxCost }
  | .logLevel => (setOnce a.logLevel (some text)).map fun logLevel => { a with logLevel }

/-- Takes the file of the query. There is one at most. -/
def setQuery (a : Arguments) (text : String) : Option Arguments :=
  (setOnce a.query (path? text)).map fun query => { a with query }

/-- All that is left are files. -/
def takeFiles (a : Arguments) : List String → Invocation
  | [] => .measure a
  | file :: rest =>
    match a.setQuery file with
    | some a => takeFiles a rest
    | none => .wrong

end Arguments

/-! ## Reading arguments -/

/-- One argument by its form. An option may carry its value with it. -/
inductive Form where
  | file (text : String)
  | endOfOptions
  | option (name : Option Named) (attached : Option String)
deriving DecidableEq, Repr

/-- The name before the first equals sign, and the value after it. -/
def splitValue (cs : List Char) : List Char × Option String :=
  match cs.span (· != '=') with
  | (name, []) => (name, none)
  | (name, _ :: value) => (name, some (String.ofList value))

/-- The value behind a short name, if anything is there. An equals sign before it does not count. -/
def attachedValue : List Char → Option String
  | [] => none
  | '=' :: value => some (String.ofList value)
  | value => some (String.ofList value)

/-- A dash alone is a file. -/
def formOf (argument : String) : Form :=
  match argument.toList with
  | ['-', '-'] => .endOfOptions
  | '-' :: '-' :: cs =>
    let (name, value) := splitValue cs
    .option (longName? (String.ofList name)) value
  | '-' :: c :: cs =>
    match shortName? c with
    | some (.valued option) => .option (some (.valued option)) (attachedValue cs)
    | named => .option named none
  | _ => .file argument

/-- Reads the arguments after those that gave `a`. A value that looks like an option must be attached. -/
def Arguments.read (a : Arguments) : List String → Invocation
  | [] => .measure a
  | argument :: rest =>
    match formOf argument with
    | .endOfOptions => a.takeFiles rest
    | .file text =>
      match a.setQuery text with
      | some a => Arguments.read a rest
      | none => .wrong
    | .option none _ => .wrong
    | .option (some .version) none => .showVersion
    | .option (some .help) none => .showHelp
    | .option (some .version) (some _) => .wrong
    | .option (some .help) (some _) => .wrong
    | .option (some (.valued option)) (some value) =>
      match a.set option value with
      | some a => Arguments.read a rest
      | none => .wrong
    | .option (some (.valued option)) none =>
      match rest with
      | [] => .wrong
      | value :: rest =>
        match formOf value with
        | .file text =>
          match a.set option text with
          | some a => Arguments.read a rest
          | none => .wrong
        | _ => .wrong

/-- What a list of arguments asks for. -/
def readArguments (arguments : List String) : Invocation := Arguments.read {} arguments

end QueryGate.Command
