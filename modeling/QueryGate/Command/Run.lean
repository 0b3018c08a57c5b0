-- The command: it measures the document of a text and says whether the
-- gateway would let it run. Everything that it reads is given to it, and
-- what it answers is a value.
import QueryGate.Command.Arguments
import QueryGate.Command.LogFilter
import QueryGate.Config.Loading
import QueryGate.GraphQL.Parse
import QueryGate.Json.Text

namespace QueryGate.Command

open Analysis GraphQL Log

/-- What the command can read. -/
structure Surroundings where
  arguments : List String
  input : ByteArray
  files : FileReader
  environment : Config.Environment

/-- What the command answers: its exit code, its output, the lines of its log, and what made it fail. -/
structure Report where
  code : Nat
  output : String := ""
  log : List String := []
  error : Option String := none
deriving DecidableEq, Repr

/-! ## The log -/

/-- The name that all lines of the log go by. -/
def logTarget : String := "graphql_admission"

/-- The variable that holds a log filter. -/
def logVariable : String := "RUST_LOG"

/-- The filter of the environment, if there is one that is well formed, or else that of the
arguments. -/
def chosenFilter (a : Arguments) (env : Config.Environment) : Except FilterFault LogFilter :=
  match (env.lookup logVariable).map LogFilter.ofText with
  | none | some (.error .malformed) => LogFilter.ofText (a.logLevel.getD "warn")
  | some result => result

/-- A line of the log, if the filter lets it through. -/
def logLine (f : LogFilter) (level : Level) (message : String) (fields : List (String × String)) :
    List String :=
  if f.allows level logTarget ("message" :: fields.map (·.1)) then
    let texts := fields.map fun (name, text) => " " ++ name ++ "=" ++ text
    [level.text ++ " " ++ logTarget ++ ": " ++ message ++ String.join texts]
  else []

/-! ## What is measured -/

/-- The configuration with the limits of the arguments. -/
def Arguments.override (a : Arguments) (c : Config) : Config :=
  { c with limits :=
    { maxDepth := a.maxDepth.getD c.limits.maxDepth, maxCost := a.maxCost.getD c.limits.maxCost } }

/-- The configuration that counts: that of the file or the default one, with the limits that the
environment sets, and over them those of the arguments. -/
def Arguments.effectiveConfig (a : Arguments) (files : FileReader) (env : Config.Environment) :
    Except ConfigError Config := do
  let base ← match a.config with
    | some path => Config.load files path
    | none => pure {}
  let c ← base.withEnvironment env
  return a.override c

/-- The text of the query, or what is told when it cannot be read. -/
def Arguments.queryText (a : Arguments) (s : Surroundings) : Except String String :=
  match a.query with
  | some path => (s.files path).mapError fun _ => "Failed to read query from " ++ path
  | none => (decodeText s.input).mapError fun _ => "Failed to read query from stdin"

/-! ## Running -/

/-- The command cannot do its work. -/
def failed (log : List String) (error : String) : Report := { code := 1, log, error := some error }

/-- The verdict is printed, and the exit code says whether the document may run. -/
def reportVerdict (f : LogFilter) (log : List String) (v : Verdict) : Report :=
  let line := if v.valid then
    logLine f .info "Query admitted" [("depth", toString v.depth), ("cost", wordText v.cost)]
  else logLine f .warn "Query would be rejected" [("errors", Text.quotedList v.errors)]
  { code := if v.valid then 0 else 1, output := v.toJson.indented ++ "\n", log := log ++ line }

/-- Measures, with the arguments that were given. -/
def measure (a : Arguments) (s : Surroundings) : Report :=
  match chosenFilter a s.environment with
  | .error .malformed => failed [] "Invalid log level"
  | .error .insideCharacter => { code := 101 }
  | .ok f =>
    match a.effectiveConfig s.files s.environment with
    | .error e => failed [] e.message
    | .ok c =>
      let log := logLine f .debug "Loaded configuration" [("config", c.describe)]
      match a.queryText s with
      | .error e => failed log e
      | .ok text =>
        match parse text with
        | .error _ => failed log "Failed to parse GraphQL document"
        | .ok d => reportVerdict f log (c.cost.validate d c.limits)

def versionText : String := "graphql-admission 0.1.0\n"

def helpText : String :=
  String.intercalate "\n" [
    "Measure a GraphQL document's depth and estimated cost, and check whether the gateway would admit it",
    "",
    "Usage: graphql-admission [OPTIONS] [QUERY]",
    "",
    "Arguments:",
    "  [QUERY]  File containing the GraphQL document. Read from `stdin` if not provided",
    "",
    "Options:",
    "  -c, --config <CONFIG>        Path to a TOML file configuring limits and the cost model",
    "      --max-depth <MAX_DEPTH>  Override the maximum depth (takes precedence over the config file and",
    "                               environment)",
    "      --max-cost <MAX_COST>    Override the maximum cost (takes precedence over the config file and",
    "                               environment)",
    "      --log-level <LOG_LEVEL>  Default log filter, used when `RUST_LOG` is not set [default: warn]",
    "  -h, --help                   Print help",
    "  -V, --version                Print version",
    ""]

/-- Runs the command. -/
def run (s : Surroundings) : Report :=
  match readArguments s.arguments with
  | .wrong => { code := 2 }
  | .showVersion => { code := 0, output := versionText }
  | .showHelp => { code := 0, output := helpText }
  | .measure a => measure a s

/-- The first line of a text. A line ends at a line feed, together with one carriage return before
it. -/
def firstLine (text : String) : String :=
  let line := text.toList.takeWhile (· != '\n')
  String.ofList (if line.getLast? == some '\r' then line.dropLast else line)

/-- The first line of what made the command fail. -/
def Report.headline (r : Report) : Option String := r.error.map firstLine

end QueryGate.Command
