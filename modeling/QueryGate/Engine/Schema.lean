-- The schema that the engine serves: users with friends, fields that take
-- time, fields that fail, and two subscriptions. Every user there could
-- be exists; users are told apart by their numbers.
--
--   type Query {
--     hello: String!  user(id: Int!): User!  users(first: Int): [User!]!
--     broken(message: String): Boolean  wait(us: Int!): Int!
--   }
--   type User { id: Int!  name: String!  friends(first: Int): [User!]!  secret: String }
--   type Mutation { touch(n: Int!): Int! }
--   type Subscription { tick(count: Int): Int!  items: [Int!]! }
import QueryGate.Log.Journal

namespace QueryGate.Engine

open Log

/-- What a selection can be about. -/
inductive Node where
  | query
  | mutation
  | subscription
  | user (id : Int)
deriving DecidableEq, Repr, Inhabited

/-- What a field comes to: a value, or things to select from. -/
inductive Resolved where
  | leaf (value : Json)
  | one (node : Node)
  | many (nodes : List Node)
deriving Inhabited

/-- The arguments of a field, by name. -/
abbrev Given := List (String × Json)

/-- Resolving a field may take time, and may fail with a message. -/
abbrev Resolving := ExceptT String Run

def Node.typeName : Node → String
  | .query => "Query"
  | .mutation => "Mutation"
  | .subscription => "Subscription"
  | .user _ => "User"

/-! ## Arguments -/

def intOr (given : Given) (name : String) (default : Int) : Int :=
  match given.lookup name with
  | some (.number (.int n)) => n
  | _ => default

def textOr (given : Given) (name : String) (default : String) : String :=
  match given.lookup name with
  | some (.string s) => s
  | _ => default

def intJson (n : Int) : Json := .number (.int n)

/-- The users from a number on, two of them unless the arguments say how many. -/
def usersFrom (start : Int) (given : Given) : List Node :=
  (List.range (intOr given "first" 2).toNat).map fun (k : Nat) => .user (start + k)

/-! ## Fields -/

def resolveQuery (given : Given) : String → Resolving Resolved
  | "hello" => return .leaf (.string "world")
  | "user" => return .one (.user (intOr given "id" 0))
  | "users" => return .many (usersFrom 0 given)
  | "broken" => throw (textOr given "message" "Resolver failed")
  | "wait" => do
    let microseconds := intOr given "us" 0
    Run.advance (microseconds.toNat * 1000)
    return .leaf (intJson microseconds)
  | _ => return .leaf .null

def resolveUser (id : Int) (given : Given) : String → Resolving Resolved
  | "id" => return .leaf (intJson id)
  | "name" => return .leaf (.string ("user-" ++ toString id))
  | "friends" => return .many (usersFrom (id + 1) given)
  | "secret" => throw ("secret of " ++ toString id ++ " denied")
  | _ => return .leaf .null

def resolveMutation (given : Given) : String → Resolving Resolved
  | "touch" => return .leaf (intJson (intOr given "n" 0))
  | _ => return .leaf .null

/-- What a field of a node comes to. -/
def resolve (node : Node) (name : String) (given : Given) : Resolving Resolved :=
  if name = "__typename" then return .leaf (.string node.typeName)
  else match node with
    | .query => resolveQuery given name
    | .mutation => resolveMutation given name
    | .user id => resolveUser id given name
    | .subscription => return .leaf .null

/-- Resolving the field of a node lets others go on meanwhile. -/
def isWaiting (node : Node) (name : String) : Bool := node == .query && name == "wait"

/-- The values of a field that can be subscribed to, one for each event. -/
def events? (name : String) (given : Given) : Option (List Json) :=
  match name with
  | "tick" => some ((List.range (intOr given "count" 2).toNat).map fun k => .nat (k + 1))
  | "items" => some [.array [.nat 1], .array [.nat 2]]
  | _ => none

end QueryGate.Engine
