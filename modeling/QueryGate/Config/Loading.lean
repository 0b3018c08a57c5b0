-- Where a configuration comes from: a file, if there is one, and then two
-- variables of the environment that each override one limit. A variable
-- that is there must hold a number; nothing else of the configuration
-- changes.
import QueryGate.Config.Decoding
import QueryGate.Config.Files
import QueryGate.Text.Blank
import QueryGate.Text.Unsigned

namespace QueryGate

/-- Why there is no configuration. -/
inductive ConfigError where
  | unreadable (path : String) (problem : ReadProblem)
  | malformed
  | invalidOverride (name value : String)
deriving DecidableEq, Repr

/-- What is told of an error; of TOML that cannot be read no more than that. -/
def ConfigError.message : ConfigError → String
  | .unreadable path problem => "Failed to read config file " ++ path ++ ": " ++ problem.message
  | .malformed => "Failed to parse config"
  | .invalidOverride name value =>
    "Invalid value for " ++ name ++ ": " ++ Text.quoted value ++
      " is not a non-negative integer"

namespace Config

/-! ## Files -/

def ofToml (text : String) : Except ConfigError Config :=
  match ofToml? text with
  | some c => .ok c
  | none => .error .malformed

/-- The configuration in a file. -/
def load (files : FileReader) (path : String) : Except ConfigError Config :=
  match files path with
  | .error problem => .error (.unreadable path problem)
  | .ok text => ofToml text

/-! ## The environment -/

/-- The variable that overrides the greatest depth. -/
def depthVariable : String := "GRAPHQL_DEPTH_LIMIT"

/-- The variable that overrides the greatest cost. -/
def costVariable : String := "GRAPHQL_COST_LIMIT"

/-- The values of variables, if they are set. -/
abbrev Lookup := String → Option String

/-- The number in a variable. White space around it does not count. -/
def override? (lookup : Lookup) (name : String) : Except ConfigError (Option UInt64) :=
  match lookup name with
  | none => .ok none
  | some value =>
    match Text.unsigned? (Text.trim value.toList) with
    | some n => .ok (some n)
    | none => .error (.invalidOverride name value)

/-- The configuration with the limits that the variables set. The variable of the depth is read
first. -/
def withOverrides (c : Config) (lookup : Lookup) : Except ConfigError Config := do
  let depth ← override? lookup depthVariable
  let cost ← override? lookup costVariable
  return { c with limits :=
    { maxDepth := depth.getD c.limits.maxDepth, maxCost := cost.getD c.limits.maxCost } }

/-- The variables of a process, each with the bytes of its value. -/
abbrev Environment := List (String × ByteArray)

/-- A variable whose value is not UTF-8 counts as not set. -/
def Environment.lookup (env : Environment) : Lookup := fun name =>
  (List.lookup name env).bind String.fromUTF8?

/-- As `withOverrides`, with the variables of a process. -/
def withEnvironment (c : Config) (env : Environment) : Except ConfigError Config :=
  c.withOverrides env.lookup

end Config

end QueryGate
