-- Whether a document may run. Both quantities are measured, whether or
-- not the first is over its limit, and each one over its limit has a
-- message; the limits themselves are allowed.
import QueryGate.Analysis.Cost
import QueryGate.Analysis.Depth
import QueryGate.Json.Value

namespace QueryGate.Analysis

open GraphQL

structure Limits where
  maxDepth : UInt64 := 10
  maxCost : UInt64 := 1000
deriving DecidableEq, Repr

/-- What became of measuring a document against limits. -/
structure Verdict where
  valid : Bool
  depth : Nat
  cost : UInt64
  maxDepth : UInt64
  maxCost : UInt64
  errors : List String
deriving DecidableEq, Repr

/-! ## The messages -/

/-- What is told of a quantity over its limit. -/
def exceeds (quantity : String) (measured allowed : Nat) : String :=
  "Query " ++ quantity ++ " of " ++ toString measured ++ " exceeds maximum allowed " ++ quantity ++
    " of " ++ toString allowed

def depthErrors (depth : Nat) (limits : Limits) : List String :=
  if limits.maxDepth.toNat < depth then [exceeds "depth" depth limits.maxDepth.toNat] else []

def costErrors (cost : UInt64) (limits : Limits) : List String :=
  if limits.maxCost < cost then [exceeds "cost" cost.toNat limits.maxCost.toNat] else []

/-! ## The verdict -/

/-- The verdict on what was measured. -/
def Verdict.ofMeasured (depth : Nat) (cost : UInt64) (limits : Limits) : Verdict :=
  let errors := depthErrors depth limits ++ costErrors cost limits
  { valid := errors.isEmpty, depth, cost, maxDepth := limits.maxDepth, maxCost := limits.maxCost,
    errors }

/-- The verdict on a document, its cost estimated with the weights of `m`. -/
def CostModel.validate (m : CostModel) (d : Document) (limits : Limits) : Verdict :=
  .ofMeasured (depth d) (m.estimate d) limits

/-- The verdict under the weights that nobody changed. -/
def validateQuery (d : Document) (limits : Limits) : Verdict := CostModel.validate {} d limits

def Verdict.toJson (v : Verdict) : Json :=
  .object [("valid", .bool v.valid), ("depth", .nat v.depth), ("cost", .word v.cost),
    ("maxDepth", .word v.maxDepth), ("maxCost", .word v.maxCost), ("errors", .strings v.errors)]

end QueryGate.Analysis
