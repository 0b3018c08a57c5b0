-- Limits in the environment of a process, where a value is whatever bytes
-- were put there. The bytes of a text are taken for a number or refused;
-- bytes that are the UTF-8 of no text count as if they had not been put
-- there.
import QueryGate.Proofs.Overrides
import QueryGate.Proofs.Tables

namespace QueryGate.Config

open Text

/-! ## The two limits -/

/-- The limits that a variable of the environment can override. -/
inductive Limit where
  | depth
  | cost

def Limit.variable : Limit → String
  | .depth => depthVariable
  | .cost => costVariable

/-- The limit in a configuration. -/
def Limit.of : Limit → Config → UInt64
  | .depth, c => c.limits.maxDepth
  | .cost, c => c.limits.maxCost

variable {c c' : Config} {env : Environment} {lookup lookup' : Lookup} {limit : Limit}

/-- The configuration was refused for what one of the two variables holds. -/
def RefusedOverride (result : Except ConfigError Config) : Prop :=
  ∃ (limit : Limit) (value : String), result = .error (.invalidOverride limit.variable value)

theorem refusedOverride_of_error {error : ConfigError} (h : c.withOverrides lookup = .error error) :
    RefusedOverride (c.withOverrides lookup) := by
  rw [h]
  rcases withOverrides_eq_error_iff.mp h with ⟨value, -, -, rfl⟩ | ⟨-, value, -, -, rfl⟩
  · exact ⟨.depth, value, rfl⟩
  · exact ⟨.cost, value, rfl⟩

theorem exists_ok_or_refusedOverride (c : Config) (lookup : Lookup) :
    (∃ c', c.withOverrides lookup = .ok c') ∨ RefusedOverride (c.withOverrides lookup) := by
  cases h : c.withOverrides lookup with
  | ok c' => exact .inl ⟨c', rfl⟩
  | error error => exact .inr (h ▸ refusedOverride_of_error h)

theorem acceptable_of_ok (h : c.withOverrides lookup = .ok c') (limit : Limit) :
    Acceptable lookup limit.variable := by
  obtain ⟨⟨depth, cost⟩, -⟩ := withOverrides_eq_ok_iff.mp h
  cases limit with
  | depth => exact numeric_iff.mp depth
  | cost => exact numeric_iff.mp cost

theorem sets_of_ok (h : c.withOverrides lookup = .ok c') (limit : Limit) :
    Sets lookup limit.variable (limit.of c) (limit.of c') := by
  obtain ⟨⟨depth, cost⟩, rfl⟩ := withOverrides_eq_ok_iff.mp h
  cases limit with
  | depth => exact sets_number? depth _
  | cost => exact sets_number? cost _

/-- Only what the two variables are looked up as matters. -/
theorem withOverrides_congr (same : ∀ limit : Limit, lookup limit.variable = lookup' limit.variable) :
    c.withOverrides lookup = c.withOverrides lookup' := by
  have depth : lookup depthVariable = lookup' depthVariable := same .depth
  have cost : lookup costVariable = lookup' costVariable := same .cost
  simp only [withOverrides, override?, depth, cost]

/-! ## Bytes -/

/-- The bytes are the UTF-8 of a text. -/
def IsText (bytes : ByteArray) : Prop := ∃ text : String, text.toUTF8 = bytes

/-- The bytes are the UTF-8 of a text that denotes the number. -/
def BytesDenote (bytes : ByteArray) (n : Nat) : Prop :=
  ∃ text : String, text.toUTF8 = bytes ∧ Denotes text n

theorem fromUTF8?_eq_some_iff {bytes : ByteArray} {text : String} :
    String.fromUTF8? bytes = some text ↔ text.toUTF8 = bytes := by
  constructor
  · intro h
    unfold String.fromUTF8? at h
    split at h
    · obtain rfl := Option.some.inj h
      rfl
    · cases h
  · rintro rfl
    exact fromUTF8?_toUTF8 text

theorem fromUTF8?_eq_none {bytes : ByteArray} (bad : ¬ IsText bytes) :
    String.fromUTF8? bytes = none :=
  Option.eq_none_iff_forall_ne_some.mpr fun text h => bad ⟨text, fromUTF8?_eq_some_iff.mp h⟩

theorem bytesDenote_toUTF8 {text : String} {n : Nat} : BytesDenote text.toUTF8 n ↔ Denotes text n := by
  constructor
  · rintro ⟨text', same, denotes⟩
    have : some text' = some text := by
      rw [← fromUTF8?_toUTF8 text', ← fromUTF8?_toUTF8 text, same]
    obtain rfl := Option.some.inj this
    exact denotes
  · exact fun denotes => ⟨text, rfl, denotes⟩

/-! ## The environment without a variable -/

/-- The environment in which the limit's variable is not set. -/
def Environment.without (env : Environment) (limit : Limit) : Environment :=
  env.filter fun v => v.1 ≠ limit.variable

theorem Limit.variable_injective {limit limit' : Limit} (h : limit.variable = limit'.variable) :
    limit = limit' := by
  cases limit <;> cases limit' <;> first | rfl | exact absurd h (by decide)

/-- A variable that is looked up in vain can as well be taken out. -/
theorem withEnvironment_without (unset : env.lookup limit.variable = none) :
    c.withEnvironment env = c.withEnvironment (env.without limit) := by
  refine withOverrides_congr fun limit' => ?_
  by_cases h : limit' = limit
  · rw [h, unset]
    unfold Environment.lookup Environment.without
    rw [lookup_filter_self]
    rfl
  · have other : limit'.variable ≠ limit.variable := fun same => h (Limit.variable_injective same)
    unfold Environment.lookup Environment.without
    rw [lookup_filter_of_ne other]

/-! ## The whole of it -/

/-- A limit that is set to the bytes of a text is taken as the number that these denote, and no
configuration comes out where they denote none, or where the other variable is at fault. A limit that
is set to other bytes is ignored: all is as if its variable was not there. -/
theorem only_what_is_no_text_is_ignored (c : Config) (env : Environment) (limit : Limit)
    {bytes : ByteArray} (set : List.lookup limit.variable env = some bytes) :
    (IsText bytes →
      ((∃ c', c.withEnvironment env = .ok c' ∧
          ∀ n, BytesDenote bytes n ↔ n = (limit.of c').toNat) ∨
        RefusedOverride (c.withEnvironment env)) ∧
      ((¬ ∃ n, BytesDenote bytes n) → RefusedOverride (c.withEnvironment env))) ∧
    (¬ IsText bytes →
      c.withEnvironment env = c.withEnvironment (env.without limit) ∧
      ∀ c', c.withEnvironment env = .ok c' → limit.of c' = limit.of c) := by
  constructor
  · rintro ⟨text, rfl⟩
    have found : env.lookup limit.variable = some text := by
      rw [Environment.lookup, set, Option.bind_some, fromUTF8?_toUTF8]
    simp only [bytesDenote_toUTF8]
    rcases exists_ok_or_refusedOverride c env.lookup with ⟨c', taken⟩ | refused
    · have denotes := (sets_of_ok taken limit).2 text found
      refine ⟨.inl ⟨c', taken, denotes⟩, fun nothing => ?_⟩
      exact absurd (acceptable_of_ok taken limit text found) nothing
    · exact ⟨.inr refused, fun _ => refused⟩
  · intro bad
    have unset : env.lookup limit.variable = none := by
      rw [Environment.lookup, set, Option.bind_some, fromUTF8?_eq_none bad]
    exact ⟨withEnvironment_without unset, fun c' taken => (sets_of_ok taken limit).1 unset⟩

/-- Of the two limits one is set to a number with a white space of three bytes before it, and the other
to a digit with a byte after it that stands in no text. -/
theorem one_limit_taken_and_one_ignored :
    let number := "\u3000+7".toUTF8
    let noText : ByteArray := ⟨#[0x35, 0xFF]⟩
    let env : Environment :=
      [("GRAPHQL_DEPTH_LIMIT", number), ("GRAPHQL_COST_LIMIT", noText)]
    let c : Config := { limits := { maxDepth := 7 } }
    List.lookup "GRAPHQL_DEPTH_LIMIT" env = some number ∧ IsText number ∧
    List.lookup "GRAPHQL_COST_LIMIT" env = some noText ∧ ¬ IsText noText ∧
    Config.withEnvironment {} env = .ok c ∧ (∀ n, BytesDenote number n ↔ n = 7) ∧
    Config.withEnvironment {} env = Config.withEnvironment {} (env.without .cost) := by
  intro number noText env c
  have isText : IsText number := ⟨_, rfl⟩
  have bad : ¬ IsText noText := by
    rintro ⟨text, same⟩
    have none : String.fromUTF8? noText = none := by decide +kernel
    rw [fromUTF8?_eq_some_iff.mpr same] at none
    cases none
  have depth : List.lookup Limit.depth.variable env = some number := rfl
  have cost : List.lookup Limit.cost.variable env = some noText := rfl
  have taken : Config.withEnvironment {} env = .ok c := by decide +kernel
  have ignored := (only_what_is_no_text_is_ignored {} env .cost cost).2 bad
  refine ⟨depth, isText, cost, bad, taken, ?_, ignored.1⟩
  rcases ((only_what_is_no_text_is_ignored {} env .depth depth).1 isText).1 with
    ⟨c', taken', denotes⟩ | ⟨_, _, refused⟩
  · obtain rfl := Except.ok.inj (taken.symm.trans taken')
    exact denotes
  · rw [taken] at refused
    cases refused

/-- A digit with a byte after it that is in no text: the limit is set, to nothing that is a number,
and the configuration comes out as it was. -/
theorem a_limit_that_is_no_text_is_ignored :
    let bytes : ByteArray := ⟨#[0x35, 0xFF]⟩
    let env : Environment := [("GRAPHQL_DEPTH_LIMIT", bytes)]
    List.lookup "GRAPHQL_DEPTH_LIMIT" env = some bytes ∧ (¬ ∃ n, BytesDenote bytes n) ∧
      Config.withEnvironment {} env = .ok {} := by
  intro bytes env
  have bad : String.fromUTF8? bytes = none := by decide +kernel
  refine ⟨rfl, ?_, ?_⟩
  · rintro ⟨n, text, same, -⟩
    rw [fromUTF8?_eq_some_iff.mpr same] at bad
    cases bad
  · decide +kernel

end QueryGate.Config
