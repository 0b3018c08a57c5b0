-- What an operation asks for: its fields, with fragments in place of
-- their spreads and without the selections that directives leave out.
-- Which those are depends on the values of the request alone; a variable
-- that the request gives no value counts as false, whatever its default.
import QueryGate.GraphQL.Document
import QueryGate.Json.Value

namespace QueryGate.Engine

open GraphQL

/-- A field, and what is asked of what it comes to. -/
inductive Wanted where
  | field (f : Field) (inner : List Wanted)

/-! ## Directives -/

/-- The truth of a condition. What is no boolean is false. -/
def holds (values : List (String × Json)) : Value → Bool
  | .boolean b => b
  | .var name => match values.lookup name with
    | some (.bool b) => b
    | _ => false
  | _ => false

/-- Whether a directive leaves its selection in. One without a condition does. -/
def keeps (values : List (String × Json)) (d : Directive) : Bool :=
  match d.name, d.arguments.lookup "if" with
  | "skip", some condition => !holds values condition
  | "include", some condition => holds values condition
  | _, _ => true

/-! ## Selections -/

mutual

/-- What a selection asks for, when `body` says what a fragment asks for. -/
def wanted (values : List (String × Json)) (body : String → List Wanted) :
    Selection → List Wanted
  | .field f selections =>
    if f.directives.all (keeps values) then [.field f (wantedAll values body selections)] else []
  | .spread name directives => if directives.all (keeps values) then body name else []
  | .inline f selections =>
    if f.directives.all (keeps values) then wantedAll values body selections else []

def wantedAll (values : List (String × Json)) (body : String → List Wanted) :
    List Selection → List Wanted
  | [] => []
  | s :: rest => wanted values body s ++ wantedAll values body rest

end

/-- What a fragment asks for, with fragments at most `levels` deep. -/
def wantedOfFragment (d : Document) (values : List (String × Json)) : Nat → String → List Wanted
  | 0, _ => []
  | levels + 1, name =>
    wantedAll values (wantedOfFragment d values levels) ((d.body? name).getD [])

/-- What an operation asks for. Fragments of a valid document do not go in circles, so no more lie within
each other than there are. -/
def wantedOfOperation (d : Document) (values : List (String × Json)) (o : Operation) :
    List Wanted :=
  wantedAll values (wantedOfFragment d values d.fragments.length) o.selections

/-- The fields that a subscription is to: those that stand in its selection themselves. -/
def subscribedFields (values : List (String × Json)) (o : Operation) : List Field :=
  o.selections.filterMap fun
    | .field f _ => if f.directives.all (keeps values) then some f else none
    | _ => none

end QueryGate.Engine
