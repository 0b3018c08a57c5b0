-- What a configuration file states, key by key. A file is one of a
-- configuration if its tables are tables and all that it states of the
-- known keys is of the right kind; each key that it does not state has its
-- default.
import QueryGate.Config.Loading

namespace QueryGate.Config

open Analysis

/-! ## Entries -/

/-- The value under a key of one of the tables, or at a place where the table is an array. -/
def valueAt? (members : Toml.Members) (table key : String) (place : Nat) : Option Toml.Value := do
  let entry ← entries? (← members.lookup table)
  entry key place

/-- What is there can be read. -/
def Readable {α : Type} (value : Option Toml.Value) (read : Toml.Value → Option α) : Prop :=
  ∀ v ∈ value, (read v).isSome

/-- All that the members of a file state of a configuration is of the right kind. -/
structure Fit (members : Toml.Members) : Prop where
  limits : Readable (members.lookup "limits") entries?
  maxDepth : Readable (valueAt? members "limits" "max-depth" 0) word?
  maxCost : Readable (valueAt? members "limits" "max-cost" 1) word?
  cost : Readable (members.lookup "cost") entries?
  connectionBaseCost : Readable (valueAt? members "cost" "connection-base-cost" 0) word?
  unboundedListMultiplier : Readable (valueAt? members "cost" "unbounded-list-multiplier" 1) word?
  paginationArguments : Readable (valueAt? members "cost" "pagination-arguments" 2) texts?

/-- What a file states under a key of one of its tables. Where no file is named, nothing is stated. -/
def stated? {α : Type} (files : FileReader) (file : Option String) (table key : String) (place : Nat)
    (read : Toml.Value → Option α) : Option α := do
  let path ← file
  let text ← (files path).toOption
  let members ← Toml.read? text
  read (← valueAt? members table key place)

/-- The configuration that the named file describes, or the default one where no file is named. -/
structure Described (files : FileReader) (file : Option String) (c : Config) : Prop where
  fits : ∀ path ∈ file, ∃ text members,
    files path = .ok text ∧ Toml.read? text = some members ∧ Fit members
  maxDepth : c.limits.maxDepth = (stated? files file "limits" "max-depth" 0 word?).getD 10
  maxCost : c.limits.maxCost = (stated? files file "limits" "max-cost" 1 word?).getD 1000
  connectionBaseCost : c.cost.connectionBaseCost =
    (stated? files file "cost" "connection-base-cost" 0 word?).getD 10
  unboundedListMultiplier : c.cost.unboundedListMultiplier =
    (stated? files file "cost" "unbounded-list-multiplier" 1 word?).getD 10
  paginationArguments : c.cost.paginationArguments =
    (stated? files file "cost" "pagination-arguments" 2 texts?).getD ["first", "last"]

/-! ## Loading -/

theorem readable_none {α : Type} (read : Toml.Value → Option α) : Readable none read := nofun

theorem readable_some {α : Type} {v : Toml.Value} {read : Toml.Value → Option α} {a : α}
    (h : read v = some a) : Readable (some v) read := by
  rintro _ ⟨⟩
  rw [h]
  rfl

theorem orDefault_eq_some_iff {α : Type} {value : Option Toml.Value} {read : Toml.Value → Option α}
    {default a : α} :
    orDefault value read default = some a ↔
      Readable value read ∧ a = (value.bind read).getD default := by
  cases value with
  | none => simp [orDefault, readable_none, eq_comm]
  | some v =>
    rw [orDefault, Option.bind_some]
    cases h : read v with
    | none => simp [Readable, h]
    | some b => simp [readable_some h, eq_comm]

variable {members : Toml.Members}

theorem valueAt?_of_lookup_eq_none {table : String} (absent : members.lookup table = none)
    (key : String) (place : Nat) : valueAt? members table key place = none := by
  rw [valueAt?, absent]
  rfl

theorem valueAt?_of_entries? {table : String} {v : Toml.Value}
    {entry : String → Nat → Option Toml.Value} (found : members.lookup table = some v)
    (entries : entries? v = some entry) (key : String) (place : Nat) :
    valueAt? members table key place = entry key place := by
  simp only [valueAt?, found, entries, Option.bind_eq_bind, Option.bind_some]

theorem limits_eq_some_iff {l : Limits} :
    orDefault (members.lookup "limits") limits? {} = some l ↔
      Readable (members.lookup "limits") entries? ∧
      (Readable (valueAt? members "limits" "max-depth" 0) word? ∧
        l.maxDepth = ((valueAt? members "limits" "max-depth" 0).bind word?).getD 10) ∧
      Readable (valueAt? members "limits" "max-cost" 1) word? ∧
        l.maxCost = ((valueAt? members "limits" "max-cost" 1).bind word?).getD 1000 := by
  cases found : members.lookup "limits" with
  | none =>
    simp only [valueAt?_of_lookup_eq_none found, readable_none, true_and]
    constructor
    · rintro ⟨⟩
      exact ⟨rfl, rfl⟩
    · rintro ⟨depth, cost⟩
      exact congrArg some (congr (congrArg Limits.mk depth) cost).symm
  | some v =>
    cases entries : entries? v with
    | none => simp [orDefault, limits?, Readable, entries]
    | some entry =>
      simp only [valueAt?_of_entries? found entries, readable_some entries, true_and]
      simp only [orDefault, limits?, entries, Option.bind_eq_bind, Option.bind_some,
        Option.bind_eq_some_iff, Option.some.injEq]
      constructor
      · rintro ⟨depth, isDepth, cost, isCost, rfl⟩
        exact ⟨orDefault_eq_some_iff.mp isDepth, orDefault_eq_some_iff.mp isCost⟩
      · rintro ⟨isDepth, isCost⟩
        exact ⟨_, orDefault_eq_some_iff.mpr isDepth, _, orDefault_eq_some_iff.mpr isCost, rfl⟩

theorem cost_eq_some_iff {m : CostModel} :
    orDefault (members.lookup "cost") cost? {} = some m ↔
      Readable (members.lookup "cost") entries? ∧
      (Readable (valueAt? members "cost" "connection-base-cost" 0) word? ∧
        m.connectionBaseCost =
          ((valueAt? members "cost" "connection-base-cost" 0).bind word?).getD 10) ∧
      (Readable (valueAt? members "cost" "unbounded-list-multiplier" 1) word? ∧
        m.unboundedListMultiplier =
          ((valueAt? members "cost" "unbounded-list-multiplier" 1).bind word?).getD 10) ∧
      Readable (valueAt? members "cost" "pagination-arguments" 2) texts? ∧
        m.paginationArguments =
          ((valueAt? members "cost" "pagination-arguments" 2).bind texts?).getD ["first", "last"] := by
  cases found : members.lookup "cost" with
  | none =>
    simp only [valueAt?_of_lookup_eq_none found, readable_none, true_and]
    constructor
    · rintro ⟨⟩
      exact ⟨rfl, rfl, rfl⟩
    · rintro ⟨base, unbounded, pages⟩
      exact congrArg some (congr (congr (congrArg CostModel.mk base) unbounded) pages).symm
  | some v =>
    cases entries : entries? v with
    | none => simp [orDefault, cost?, Readable, entries]
    | some entry =>
      simp only [valueAt?_of_entries? found entries, readable_some entries, true_and]
      simp only [orDefault, cost?, entries, Option.bind_eq_bind, Option.bind_some,
        Option.bind_eq_some_iff, Option.some.injEq]
      constructor
      · rintro ⟨base, isBase, unbounded, isUnbounded, pages, isPages, rfl⟩
        exact ⟨orDefault_eq_some_iff.mp isBase, orDefault_eq_some_iff.mp isUnbounded,
          orDefault_eq_some_iff.mp isPages⟩
      · rintro ⟨isBase, isUnbounded, isPages⟩
        exact ⟨_, orDefault_eq_some_iff.mpr isBase, _, orDefault_eq_some_iff.mpr isUnbounded, _,
          orDefault_eq_some_iff.mpr isPages, rfl⟩

theorem ofMembers?_eq_some_iff {c : Config} :
    ofMembers? members = some c ↔
      orDefault (members.lookup "limits") limits? {} = some c.limits ∧
        orDefault (members.lookup "cost") cost? {} = some c.cost := by
  simp only [ofMembers?, Option.bind_eq_bind, Option.bind_eq_some_iff, Option.some.injEq]
  constructor
  · rintro ⟨limits, isLimits, cost, isCost, rfl⟩
    exact ⟨isLimits, isCost⟩
  · rintro ⟨isLimits, isCost⟩
    exact ⟨_, isLimits, _, isCost, rfl⟩

variable {files : FileReader}

theorem stated?_of_read {path text : String} (readable : files path = .ok text)
    (isToml : Toml.read? text = some members) {α : Type} (table key : String) (place : Nat)
    (read : Toml.Value → Option α) :
    stated? files (some path) table key place read = (valueAt? members table key place).bind read := by
  simp only [stated?, readable, isToml, Except.toOption, Option.bind_eq_bind, Option.bind_some]

theorem load_eq_ok_iff_decoded {path : String} {c : Config} :
    load files path = .ok c ↔
      ∃ text members, files path = .ok text ∧ Toml.read? text = some members ∧
        ofMembers? members = some c := by
  unfold load ofToml ofToml?
  cases files path with
  | error problem => simp
  | ok text =>
    simp only [Except.ok.injEq, exists_and_left, exists_eq_left', ← Option.bind_eq_some_iff]
    cases (Toml.read? text).bind ofMembers? <;> simp

theorem load_eq_ok_iff {path : String} {c : Config} :
    load files path = .ok c ↔ Described files (some path) c := by
  rw [load_eq_ok_iff_decoded]
  constructor
  · rintro ⟨text, members, readable, isToml, decoded⟩
    obtain ⟨isLimits, isCost⟩ := ofMembers?_eq_some_iff.mp decoded
    obtain ⟨limits, ⟨depthFits, depth⟩, costFits, cost⟩ := limits_eq_some_iff.mp isLimits
    obtain ⟨weights, ⟨baseFits, base⟩, ⟨unboundedFits, unbounded⟩, pagesFit, pages⟩ :=
      cost_eq_some_iff.mp isCost
    have stated {α : Type} := @stated?_of_read members files path text readable isToml α
    refine ⟨?_, ?_, ?_, ?_, ?_, ?_⟩
    · rintro _ ⟨⟩
      exact ⟨text, members, readable, isToml,
        ⟨limits, depthFits, costFits, weights, baseFits, unboundedFits, pagesFit⟩⟩
    all_goals rw [stated]; assumption
  · intro described
    obtain ⟨text, members, readable, isToml, fit⟩ := described.fits path rfl
    have stated {α : Type} := @stated?_of_read members files path text readable isToml α
    refine ⟨text, members, readable, isToml, ofMembers?_eq_some_iff.mpr ⟨?_, ?_⟩⟩
    · refine limits_eq_some_iff.mpr ⟨fit.limits, ⟨fit.maxDepth, ?_⟩, fit.maxCost, ?_⟩
      · rw [← stated, described.maxDepth]
      · rw [← stated, described.maxCost]
    · refine cost_eq_some_iff.mpr ⟨fit.cost, ⟨fit.connectionBaseCost, ?_⟩,
        ⟨fit.unboundedListMultiplier, ?_⟩, fit.paginationArguments, ?_⟩
      · rw [← stated, described.connectionBaseCost]
      · rw [← stated, described.unboundedListMultiplier]
      · rw [← stated, described.paginationArguments]

/-- Where no file is named, the configuration is the default one. -/
theorem described_none_iff {c : Config} : Described files none c ↔ c = {} := by
  constructor
  · intro h
    obtain ⟨⟨_, _⟩, ⟨_, _, _⟩⟩ := c
    obtain ⟨-, rfl, rfl, rfl, rfl, rfl⟩ := h
    rfl
  · rintro rfl
    exact ⟨nofun, rfl, rfl, rfl, rfl, rfl⟩

end QueryGate.Config
