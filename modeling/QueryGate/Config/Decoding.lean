-- A configuration from the TOML that describes it. What the text does not
-- say stays as it is by default, and what it says besides is ignored. An
-- array in the place of a table gives its values in a fixed order; a date
-- in the place of a table gives none.
import QueryGate.Config.Settings
import QueryGate.Toml.Document

namespace QueryGate.Config

open Analysis Toml

/-! ## Single values -/

/-- Whole numbers that are not negative. Those of TOML are never above 2^63. -/
def word? : Value → Option UInt64
  | .integer n => if 0 ≤ n then some (UInt64.ofNat n.toNat) else none
  | _ => none

def text? : Value → Option String
  | .string s => some s
  | _ => none

def texts? : Value → Option (List String)
  | .array items => items.mapM text?
  | _ => none

/-- The value of an entry, or the default where there is no entry. -/
def orDefault {α : Type} (entry : Option Value) (read : Value → Option α) (default : α) : Option α :=
  match entry with
  | none => some default
  | some v => read v

/-! ## Tables -/

/-- How the entries of a table are found: by their names, or by their places in an array. -/
def entries? : Value → Option (String → Nat → Option Value)
  | .table members => some fun name _ => members.lookup name
  | .array items => some fun _ place => items[place]?
  | .datetime _ => some fun _ _ => none
  | _ => none

def limits? (v : Value) : Option Limits := do
  let entry ← entries? v
  let maxDepth ← orDefault (entry "max-depth" 0) word? ({} : Limits).maxDepth
  let maxCost ← orDefault (entry "max-cost" 1) word? ({} : Limits).maxCost
  some { maxDepth, maxCost }

def cost? (v : Value) : Option CostModel := do
  let entry ← entries? v
  let connectionBaseCost ←
    orDefault (entry "connection-base-cost" 0) word? ({} : CostModel).connectionBaseCost
  let unboundedListMultiplier ←
    orDefault (entry "unbounded-list-multiplier" 1) word? ({} : CostModel).unboundedListMultiplier
  let paginationArguments ←
    orDefault (entry "pagination-arguments" 2) texts? ({} : CostModel).paginationArguments
  some { connectionBaseCost, unboundedListMultiplier, paginationArguments }

def ofMembers? (members : Members) : Option Config := do
  let limits ← orDefault (members.lookup "limits") limits? {}
  let cost ← orDefault (members.lookup "cost") cost? {}
  some { limits, cost }

/-- The configuration that a text describes. -/
def ofToml? (text : String) : Option Config := (Toml.read? text).bind ofMembers?

end QueryGate.Config
