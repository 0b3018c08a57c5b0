-- The fields that are written in a document, each with its own cost.
import QueryGate.Analysis.Cost

namespace QueryGate.Analysis

open GraphQL

mutual

/-- The fields written in a selection, a field before those below it. Spreads are not followed. -/
def fieldsIn : Selection → List Field
  | .field f selections => f :: fieldsInAll selections
  | .spread _ _ => []
  | .inline _ selections => fieldsInAll selections

def fieldsInAll : List Selection → List Field
  | [] => []
  | s :: rest => fieldsIn s ++ fieldsInAll rest

end

/-- The selections of all definitions, operations first, both in the order of their names. An operation
without a name is alone. -/
def bodiesByName (d : Document) : List (List Selection) :=
  let operations := d.operationList.mergeSort fun a b => a.1.getD "" ≤ b.1.getD ""
  let fragments := d.fragments.mergeSort fun a b => a.1 ≤ b.1
  operations.map (·.2.selections) ++ fragments.map (·.2.selections)

/-- All fields written in a document with their costs. -/
def CostModel.fieldCosts (m : CostModel) (d : Document) : List (String × UInt64) :=
  ((bodiesByName d).flatMap fieldsInAll).map fun f => (f.name, m.fieldCost f)

end QueryGate.Analysis
