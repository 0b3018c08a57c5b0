-- What a client is answered: data, and errors with the places they come
-- from. A part of an error that is empty is left out of the answer.
import QueryGate.GraphQL.Document
import QueryGate.Json.Text

namespace QueryGate.Answer

open GraphQL

/-- A step on the way to a value of a response: a key of an object or a place in a list. -/
inductive PathSegment where
  | key (name : String)
  | index (n : Nat)
deriving DecidableEq, Repr, Inhabited

structure ServerError where
  message : String
  locations : List Position := []
  path : List PathSegment := []
  extensions : List (String × Json) := []
deriving Inhabited

structure Response where
  data : Json := .null
  errors : List ServerError := []
deriving Inhabited

def Response.hasErrors (r : Response) : Bool := !r.errors.isEmpty

/-! ## As JSON -/

def positionJson (p : Position) : Json := .object [("line", .nat p.line), ("column", .nat p.column)]

def PathSegment.toJson : PathSegment → Json
  | .key name => .string name
  | .index n => .nat n

def pathJson (path : List PathSegment) : Json := .array (path.map PathSegment.toJson)

/-- A member that is left out when there is nothing in it. -/
def unlessEmpty {α : Type} (name : String) (content : List α) (json : Json) : List (String × Json) :=
  if content.isEmpty then [] else [(name, json)]

def ServerError.toJson (e : ServerError) : Json :=
  .object ([("message", .string e.message)] ++
    unlessEmpty "locations" e.locations (.array (e.locations.map positionJson)) ++
    unlessEmpty "path" e.path (pathJson e.path) ++
    unlessEmpty "extensions" e.extensions (.object e.extensions))

def Response.toJson (r : Response) : Json :=
  .object ([("data", r.data)] ++
    unlessEmpty "errors" r.errors (.array (r.errors.map ServerError.toJson)))

/-! ## Summaries -/

/-- An error's message and path. The path is there even when it is empty. -/
def ServerError.summary (e : ServerError) : Json :=
  .object [("message", .string e.message), ("path", pathJson e.path)]

/-- The messages and paths of errors, as JSON text on one line. -/
def summarize (errors : List ServerError) : String :=
  (Json.array (errors.map ServerError.summary)).compact

end QueryGate.Answer
