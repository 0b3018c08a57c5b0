-- Documents can be compared. Values and selections hold lists of
-- themselves, so their equality is computed along both at once; all that
-- is built from them follows.
import QueryGate.GraphQL.Parse

namespace QueryGate.GraphQL

/-! ## Values -/

mutual

def Value.same : Value → Value → Bool
  | .var a, .var b => a == b
  | .number m, .number n => m == n
  | .string a, .string b => a == b
  | .boolean a, .boolean b => a == b
  | .null, .null => true
  | .enum a, .enum b => a == b
  | .list items, .list items' => Value.sameItems items items'
  | .object members, .object members' => Value.sameMembers members members'
  | _, _ => false

def Value.sameItems : List Value → List Value → Bool
  | [], [] => true
  | v :: items, v' :: items' => Value.same v v' && Value.sameItems items items'
  | _, _ => false

def Value.sameMembers : List (String × Value) → List (String × Value) → Bool
  | [], [] => true
  | (key, v) :: members, (key', v') :: members' =>
    key == key' && Value.same v v' && Value.sameMembers members members'
  | _, _ => false

end

mutual

theorem Value.same_iff : ∀ v v' : Value, v.same v' = true ↔ v = v'
  | .list items, v' => by
    cases v' <;> simp [Value.same, Value.sameItems_iff items]
  | .object members, v' => by
    cases v' <;> simp [Value.same, Value.sameMembers_iff members]
  | .var _, v' | .number _, v' | .string _, v' | .boolean _, v' | .null, v' | .enum _, v' => by
    cases v' <;> simp [Value.same]

theorem Value.sameItems_iff : ∀ items items' : List Value,
    Value.sameItems items items' = true ↔ items = items'
  | [], items' => by cases items' <;> simp [Value.sameItems]
  | v :: items, items' => by
    cases items' <;> simp [Value.sameItems, Value.same_iff v, Value.sameItems_iff items]

theorem Value.sameMembers_iff : ∀ members members' : List (String × Value),
    Value.sameMembers members members' = true ↔ members = members'
  | [], members' => by cases members' <;> simp [Value.sameMembers]
  | (key, v) :: members, members' => by
    cases members' <;>
      simp [Value.sameMembers, Value.same_iff v, Value.sameMembers_iff members, Prod.ext_iff]

end

instance : DecidableEq Value := fun v v' => decidable_of_iff _ (Value.same_iff v v')

deriving instance DecidableEq for Directive
deriving instance DecidableEq for Field
deriving instance DecidableEq for InlineFragment

/-! ## Selections -/

mutual

def Selection.same : Selection → Selection → Bool
  | .field f below, .field f' below' => f == f' && Selection.sameAll below below'
  | .spread name directives, .spread name' directives' => name == name' && directives == directives'
  | .inline fragment below, .inline fragment' below' =>
    fragment == fragment' && Selection.sameAll below below'
  | _, _ => false

def Selection.sameAll : List Selection → List Selection → Bool
  | [], [] => true
  | s :: rest, s' :: rest' => Selection.same s s' && Selection.sameAll rest rest'
  | _, _ => false

end

mutual

theorem Selection.same_iff : ∀ s s' : Selection, s.same s' = true ↔ s = s'
  | .field _ below, s' => by cases s' <;> simp [Selection.same, Selection.sameAll_iff below]
  | .spread _ _, s' => by cases s' <;> simp [Selection.same]
  | .inline _ below, s' => by cases s' <;> simp [Selection.same, Selection.sameAll_iff below]

theorem Selection.sameAll_iff : ∀ all all' : List Selection,
    Selection.sameAll all all' = true ↔ all = all'
  | [], all' => by cases all' <;> simp [Selection.sameAll]
  | s :: rest, all' => by
    cases all' <;> simp [Selection.sameAll, Selection.same_iff s, Selection.sameAll_iff rest]

end

instance : DecidableEq Selection := fun s s' => decidable_of_iff _ (Selection.same_iff s s')

/-! ## Documents -/

deriving instance DecidableEq for VariableDefinition
deriving instance DecidableEq for Operation
deriving instance DecidableEq for Fragment
deriving instance DecidableEq for Operations
deriving instance DecidableEq for Document
deriving instance DecidableEq for Definition

/-- Whether a text is that of a document. -/
instance (text : String) (d : Document) : Decidable (parse text = .ok d) :=
  decidable_of_iff ((parse text).toOption = some d) (by cases parse text <;> simp [Except.toOption])

end QueryGate.GraphQL
