-- Spans say what a log line belongs to. A span lies inside another one,
-- and a line carries the whole path, from the outermost span inwards. A
-- disabled span has no path: what lies in it lies in nothing.
namespace QueryGate.Log

/-- One span of a path: its name and the fields it was opened with. -/
structure Frame where
  name : String
  fields : List (String × String) := []
deriving DecidableEq, Repr, Inhabited

inductive Span where
  | disabled
  | opened (outer : List Frame) (frame : Frame)
deriving DecidableEq, Repr, Inhabited

namespace Span

/-- The spans around a line in this span, the outermost first. -/
def path : Span → List Frame
  | .disabled => []
  | .opened outer frame => outer ++ [frame]

/-- A new span inside this one. -/
def child (parent : Span) (name : String) (fields : List (String × String)) : Span :=
  .opened parent.path ⟨name, fields⟩

/-- A new span inside none. -/
def root (name : String) (fields : List (String × String)) : Span := .opened [] ⟨name, fields⟩

/-- The name, unless the span is disabled. -/
def name? : Span → Option String
  | .disabled => none
  | .opened _ frame => some frame.name

end Span

end QueryGate.Log
