-- How a request can fail: its document was rejected, or its execution
-- failed and says why, with the causes of the causes.
import QueryGate.Analysis.Verdict
import QueryGate.Answer.Response
import QueryGate.Text.Quoted

namespace QueryGate.Answer

open Analysis

/-- A document is over a limit. Of the messages of the verdict only the first is told, of its
measurements all. -/
structure Rejection where
  message : String
  depth : Nat
  cost : UInt64
  maxDepth : UInt64
  maxCost : UInt64
deriving DecidableEq, Repr, Inhabited

/-- The message of a rejection that nothing explains. -/
def unexplained : String := "Query complexity exceeds the configured limits"

def Rejection.ofVerdict (v : Verdict) : Rejection :=
  { message := v.errors.head?.getD unexplained, depth := v.depth, cost := v.cost,
    maxDepth := v.maxDepth, maxCost := v.maxCost }

/-- The status that a transport answers a rejection with. -/
def Rejection.status (_ : Rejection) : Nat := 400

inductive Failure where
  | rejected (r : Rejection)
  | execution (message : String) (causes : List String)
deriving DecidableEq, Repr, Inhabited

/-! ## The answer to the client -/

def Rejection.toServerError (r : Rejection) : ServerError where
  message := r.message
  extensions := [("code", .string "QUERY_COMPLEXITY_EXCEEDED"), ("depth", .nat r.depth),
    ("cost", .word r.cost), ("maxDepth", .word r.maxDepth), ("maxCost", .word r.maxCost)]

/-- A client sees a failed execution as an internal error, without a path, since no field failed. -/
def Failure.toServerError : Failure → ServerError
  | .rejected r => r.toServerError
  | .execution message _ => { message, extensions := [("code", .string "INTERNAL_SERVER_ERROR")] }

def Failure.toResponse (f : Failure) : Response := { errors := [f.toServerError] }

/-! ## Texts -/

/-- The message alone. -/
def Failure.display : Failure → String
  | .rejected r => r.message
  | .execution message _ => message

/-- The lines of a text, ended by line feeds alone; a text without any is one line. -/
def lines (cs : List Char) : List (List Char) :=
  match cs with
  | [] => [[]]
  | c :: rest =>
    if c = '\n' then [] :: lines rest
    else match lines rest with
      | [] => [[c]]
      | line :: more => (c :: line) :: more

/-- A cause with `first` before its first line and `others` before every other. -/
def indentedCause (first others : String) (cause : String) : String :=
  first ++ String.intercalate ("\n" ++ others) ((lines cause.toList).map String.ofList)

/-- A number with spaces before it, five wide. -/
def paddedNumber (n : Nat) : String :=
  let text := toString n
  String.ofList (List.replicate (5 - text.length) ' ') ++ text

/-- The causes, one after the other. They are numbered when there is more than one. -/
def causeTexts : List String → List String
  | [cause] => [indentedCause "    " "    " cause]
  | causes => causes.zipIdx.map fun (cause, n) =>
      indentedCause (paddedNumber n ++ ": ") "       " cause

/-- A message with its causes below it. -/
def chainText (message : String) (causes : List String) : String :=
  if causes.isEmpty then message
  else message ++ "\n\nCaused by:" ++ String.join ((causeTexts causes).map ("\n" ++ ·))

def Rejection.describe (r : Rejection) : String :=
  "ComplexityError \x7b message: " ++ Text.quoted r.message ++ ", depth: " ++ toString r.depth ++
    ", cost: " ++ toString r.cost.toNat ++ ", max_depth: " ++ toString r.maxDepth.toNat ++
    ", max_cost: " ++ toString r.maxCost.toNat ++ " \x7d"

/-- All that is known of a failure, for the log. -/
def Failure.describe : Failure → String
  | .rejected r => "Rejected(" ++ r.describe ++ ")"
  | .execution message causes => "Execution(" ++ chainText message causes ++ ")"

/-! ## As JSON -/

def Failure.kind : Failure → String
  | .rejected _ => "Rejected"
  | .execution .. => "Execution"

def Failure.status? : Failure → Option Nat
  | .rejected r => some r.status
  | .execution .. => none

/-- Everything that can be seen of a failure. -/
def Failure.toJson (f : Failure) : Json :=
  .object [("kind", .string f.kind), ("status", (f.status?.map Json.nat).getD .null),
    ("display", .string f.display), ("debug", .string f.describe),
    ("response", f.toResponse.toJson)]

end QueryGate.Answer
