-- What a document is estimated to cost. The schema is not known here, so
-- a field is taken for a list when its name sounds like one, and its page
-- size is read from its arguments. What is below a field is added to its
-- cost, and not multiplied by its page size.
import QueryGate.Analysis.Saturating
import QueryGate.Analysis.Walk

namespace QueryGate.Analysis

open GraphQL

/-- The weights that an estimate is made with. The arguments that give a page size stand in order of
priority. -/
structure CostModel where
  connectionBaseCost : UInt64 := 10
  unboundedListMultiplier : UInt64 := 10
  paginationArguments : List String := ["first", "last"]
deriving DecidableEq, Repr

/-- The name ends in `s` or in `Connection`. -/
def isListLike (name : String) : Bool :=
  ['s'].isSuffixOf name.toList || "Connection".toList.isSuffixOf name.toList

namespace CostModel

/-- The page size that a value states: it must be written out, and whole. -/
def statedSize? : Value → Option UInt64
  | .number n => n.unsigned?
  | _ => none

/-- The page size that a field asks for. An argument that states none leaves it to the next one. -/
def pageSize? (m : CostModel) (f : Field) : Option UInt64 :=
  m.paginationArguments.findSome? fun arg => (f.argument? arg).bind statedSize?

/-- The cost of a field alone. -/
def fieldCost (m : CostModel) (f : Field) : UInt64 :=
  if isListLike f.name then
    Saturating.mul m.connectionBaseCost ((m.pageSize? f).getD m.unboundedListMultiplier)
  else 1

def costMeasure (m : CostModel) : Measure UInt64 where
  nothing := 0
  field := fun f below => Saturating.add (m.fieldCost f) below
  beside := Saturating.add

/-- The cost of a document: of all its operations together. -/
def estimate (m : CostModel) (d : Document) : UInt64 := m.costMeasure.document d

end CostModel

/-- The cost under the weights that nobody changed. -/
def estimateCost (d : Document) : UInt64 := CostModel.estimate {} d

end QueryGate.Analysis
