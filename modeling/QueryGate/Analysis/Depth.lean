-- How deep a document is: the deepest nesting of fields, over all its
-- operations. A field that holds nothing has depth one; spreads and
-- inline fragments add no level of their own.
import QueryGate.Analysis.Walk

namespace QueryGate.Analysis

open GraphQL

def depthMeasure : Measure Nat where
  nothing := 0
  field := fun _ below => 1 + below
  beside := max

def depth (d : Document) : Nat := depthMeasure.document d

end QueryGate.Analysis
