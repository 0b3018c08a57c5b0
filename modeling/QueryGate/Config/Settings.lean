-- The configuration of a gateway: the limits that documents are held to
-- and the weights that their cost is estimated with.
import QueryGate.Analysis.Verdict
import QueryGate.Text.Quoted

namespace QueryGate

open Analysis

structure Config where
  limits : Limits := {}
  cost : CostModel := {}
deriving DecidableEq, Repr

/-! ## As text -/

/-- A record as text: its name and its members. -/
def recordText (name : String) (members : List (String × String)) : String :=
  name ++ " \x7b " ++ String.intercalate ", " (members.map fun (key, text) => key ++ ": " ++ text) ++
    " \x7d"

def wordText (n : UInt64) : String := toString n.toNat

namespace Config

/-- The weights as text, as a record of a given name. -/
def costText (name : String) (m : CostModel) : String :=
  recordText name [("connection_base_cost", wordText m.connectionBaseCost),
    ("unbounded_list_multiplier", wordText m.unboundedListMultiplier),
    ("pagination_arguments", Text.quotedList m.paginationArguments)]

def limitsText (l : Limits) : String :=
  recordText "Limits" [("max_depth", wordText l.maxDepth), ("max_cost", wordText l.maxCost)]

/-- The whole configuration on one line, for the log. -/
def describe (c : Config) : String :=
  recordText "GatewayConfig"
    [("limits", limitsText c.limits), ("cost", costText "CostConfig" c.cost)]

/-- The weights on one line, as the estimate is made with them. -/
def describeModel (c : Config) : String := costText "CostModel" c.cost

/-- The configuration with the names that its file uses. -/
def toJson (c : Config) : Json :=
  .object [
    ("limits", .object [("max-depth", .word c.limits.maxDepth), ("max-cost", .word c.limits.maxCost)]),
    ("cost", .object [("connection-base-cost", .word c.cost.connectionBaseCost),
      ("unbounded-list-multiplier", .word c.cost.unboundedListMultiplier),
      ("pagination-arguments", .strings c.cost.paginationArguments)])]

end Config

end QueryGate
