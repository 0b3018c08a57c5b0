-- What the command says of a document is what the gateway does with it.
-- The command has four places to take a limit from and five ways to have
-- no answer; where it has one, it is the verdict of a gateway with the
-- same configuration, printed so that it can be read back.
import QueryGate.Command.Run
import QueryGate.Proofs.InFlight
import QueryGate.Proofs.Spelling
import QueryGate.Proofs.Stated
import QueryGate.Proofs.Tables
import QueryGate.Proofs.Taking

namespace QueryGate

open Analysis GraphQL Serving

namespace Config

variable {c c' : Config}

/-! ## Variables -/

/-- The number that a variable holds, if it is set. -/
def number? (lookup : Lookup) (name : String) : Option UInt64 :=
  (lookup name).bind fun value => Text.unsigned? (Text.trim value.toList)

/-- A variable holds a number, if it is set. -/
def Numeric (lookup : Lookup) (name : String) : Prop :=
  ∀ value ∈ lookup name, (Text.unsigned? (Text.trim value.toList)).isSome

instance (lookup : Lookup) (name : String) : Decidable (Numeric lookup name) :=
  inferInstanceAs
    (Decidable (∀ value ∈ lookup name, (Text.unsigned? (Text.trim value.toList)).isSome))

theorem override?_eq_ok_iff {lookup : Lookup} {name : String} {n : Option UInt64} :
    override? lookup name = .ok n ↔ Numeric lookup name ∧ n = number? lookup name := by
  unfold override? Numeric number?
  cases lookup name with
  | none => simp [eq_comm (a := n)]
  | some value =>
    cases h : Text.unsigned? (Text.trim value.toList) <;> simp [h, eq_comm (a := n)]

/-- The configuration with the limits of both variables. -/
def overridden (c : Config) (lookup : Lookup) : Config :=
  { c with limits :=
    { maxDepth := (number? lookup depthVariable).getD c.limits.maxDepth
      maxCost := (number? lookup costVariable).getD c.limits.maxCost } }

theorem withOverrides_eq_ok_iff {lookup : Lookup} :
    c.withOverrides lookup = .ok c' ↔
      (Numeric lookup depthVariable ∧ Numeric lookup costVariable) ∧ c' = c.overridden lookup := by
  simp only [withOverrides, bind_eq_ok_iff, override?_eq_ok_iff]
  constructor
  · rintro ⟨_, ⟨depth, rfl⟩, _, ⟨cost, rfl⟩, same⟩
    exact ⟨⟨depth, cost⟩, (Except.ok.inj same).symm⟩
  · rintro ⟨⟨depth, cost⟩, rfl⟩
    exact ⟨_, ⟨depth, rfl⟩, _, ⟨cost, rfl⟩, rfl⟩

theorem fromUTF8?_toUTF8 (text : String) : String.fromUTF8? text.toUTF8 = some text := by
  rw [String.fromUTF8?, String.toUTF8_eq_toByteArray, dif_pos text.isValidUTF8]
  rfl

/-- The environment in which the variables have texts as their values. -/
def Environment.ofTexts (texts : List (String × String)) : Environment :=
  texts.map fun (name, text) => (name, text.toUTF8)

theorem Environment.lookup_ofTexts (texts : List (String × String)) :
    (Environment.ofTexts texts).lookup = (texts.lookup ·) := by
  funext name
  have found := lookup_map (l := texts) id String.toUTF8 (k := name) fun _ _ same => same
  change (List.lookup (id name) (texts.map fun p => (id p.1, p.2.toUTF8))).bind _ = _
  rw [found]
  cases texts.lookup name with
  | none => rfl
  | some text => exact fromUTF8?_toUTF8 text

end Config

/-! ## Verdicts as JSON -/

namespace Json

def bool? : Json → Option Bool
  | .bool b => some b
  | _ => none

def nat? : Json → Option Nat
  | .number (.int n) => if 0 ≤ n then some n.toNat else none
  | _ => none

def word? : Json → Option UInt64
  | .number n => n.unsigned?
  | _ => none

def text? : Json → Option String
  | .string s => some s
  | _ => none

def texts? : Json → Option (List String)
  | .array items => items.mapM text?
  | _ => none

theorem bool?_bool (b : Bool) : (bool b).bool? = some b := by
  simp [bool?]

theorem nat?_nat (n : Nat) : (nat n).nat? = some n := by
  simp [nat, nat?]

theorem word?_word (n : UInt64) : (word n).word? = some n := by
  have small : (0 : Int) ≤ n.toNat ∧ (n.toNat : Int) < UInt64.size :=
    ⟨by omega, Int.ofNat_lt.mpr n.toNat_lt⟩
  rw [word, nat, word?, Number.unsigned?, if_pos small]
  simp

theorem texts?_strings (texts : List String) : (strings texts).texts? = some texts := by
  rw [strings, texts?]
  induction texts with
  | nil => rfl
  | cons text rest ih =>
    rw [List.map_cons, List.mapM_cons, ih]
    rfl

theorem wholeItems_strings (texts : List String) : WholeItems (texts.map .string) := by
  rw [wholeItems_iff, List.forall_mem_map]
  exact fun _ _ => trivial

end Json

namespace Analysis

/-- The verdict that a value of JSON tells. -/
def Verdict.ofJson? (j : Json) : Option Verdict := do
  let valid ← (j.member? "valid").bind Json.bool?
  let depth ← (j.member? "depth").bind Json.nat?
  let cost ← (j.member? "cost").bind Json.word?
  let maxDepth ← (j.member? "maxDepth").bind Json.word?
  let maxCost ← (j.member? "maxCost").bind Json.word?
  let errors ← (j.member? "errors").bind Json.texts?
  some { valid, depth, cost, maxDepth, maxCost, errors }

theorem bind_of_member? {α : Type} {j m : Json} {name : String} {read : Json → Option α} {a : α}
    (found : j.member? name = some m) (value : read m = some a) :
    (j.member? name).bind read = some a := by
  rw [found, Option.bind_some, value]

theorem Verdict.ofJson?_toJson (v : Verdict) : ofJson? v.toJson = some v := by
  have valid : v.toJson.member? "valid" = some (.bool v.valid) := by
    simp [Verdict.toJson, Json.member?]
  have depth : v.toJson.member? "depth" = some (.nat v.depth) := by
    simp [Verdict.toJson, Json.member?, List.lookup_cons]
  have cost : v.toJson.member? "cost" = some (.word v.cost) := by
    simp [Verdict.toJson, Json.member?, List.lookup_cons]
  have maxDepth : v.toJson.member? "maxDepth" = some (.word v.maxDepth) := by
    simp [Verdict.toJson, Json.member?, List.lookup_cons]
  have maxCost : v.toJson.member? "maxCost" = some (.word v.maxCost) := by
    simp [Verdict.toJson, Json.member?, List.lookup_cons]
  have errors : v.toJson.member? "errors" = some (.strings v.errors) := by
    simp [Verdict.toJson, Json.member?, List.lookup_cons]
  rw [ofJson?, bind_of_member? valid (Json.bool?_bool _), bind_of_member? depth (Json.nat?_nat _),
    bind_of_member? cost (Json.word?_word _), bind_of_member? maxDepth (Json.word?_word _),
    bind_of_member? maxCost (Json.word?_word _), bind_of_member? errors (Json.texts?_strings _)]
  rfl

/-- A verdict whose depth is a whole number of 64 bits is read back from what is printed. -/
theorem Verdict.read_printed (v : Verdict) (small : v.depth < UInt64.size) :
    (Json.read? (v.toJson.indented ++ "\n")).bind ofJson? = some v := by
  have whole : Json.Whole v.toJson :=
    ⟨trivial, Json.inRange_ofNat small, Json.inRange_ofNat v.cost.toNat_lt,
      Json.inRange_ofNat v.maxDepth.toNat_lt, Json.inRange_ofNat v.maxCost.toNat_lt,
      Json.wholeItems_strings v.errors, trivial⟩
  have blank : Json.Blank "\n".toList := by simp [Json.Blank, Json.isSpace]
  rw [Json.read?_indented whole blank, Option.bind_some, ofJson?_toJson]

end Analysis

/-! ## What the command answers -/

namespace Command

open Config

/-- The text that is asked about: that of the named file, or what comes in where none is named. -/
inductive Asked (s : Surroundings) : Option String → String → Prop
  | byInput {text : String} : String.fromUTF8? s.input = some text → Asked s none text
  | byFile {path text : String} : s.files path = .ok text → Asked s (some path) text

/-- All that an answer takes: a configuration, numbers in the variables that are set, and a text that
has a document. -/
structure Answerable (a : Arguments) (s : Surroundings) (lookup : Lookup) (base : Config)
    (text : String) (d : Document) : Prop where
  described : Described s.files a.config base
  depthNumeric : Numeric lookup depthVariable
  costNumeric : Numeric lookup costVariable
  asked : Asked s a.query text
  parses : parse text = .ok d

variable {a : Arguments} {s : Surroundings} {f : LogFilter} {base c : Config} {text : String}
  {d : Document}

theorem effectiveConfig_eq_ok_iff {files : FileReader} {env : Environment} :
    a.effectiveConfig files env = .ok c ↔
      ∃ base, Described files a.config base ∧
        (Numeric env.lookup depthVariable ∧ Numeric env.lookup costVariable) ∧
        c = a.override (base.overridden env.lookup) := by
  cases file : a.config with
  | none =>
    simp only [Arguments.effectiveConfig, file, pure_bind, bind_eq_ok_iff, withEnvironment,
      withOverrides_eq_ok_iff]
    constructor
    · rintro ⟨_, ⟨numeric, rfl⟩, same⟩
      exact ⟨{}, described_none_iff.mpr rfl, numeric, (Except.ok.inj same).symm⟩
    · rintro ⟨_, described, numeric, rfl⟩
      obtain rfl := described_none_iff.mp described
      exact ⟨_, ⟨numeric, rfl⟩, rfl⟩
  | some path =>
    simp only [Arguments.effectiveConfig, file, bind_eq_ok_iff, load_eq_ok_iff, withEnvironment,
      withOverrides_eq_ok_iff]
    constructor
    · rintro ⟨base, described, _, ⟨numeric, rfl⟩, same⟩
      exact ⟨base, described, numeric, (Except.ok.inj same).symm⟩
    · rintro ⟨base, described, numeric, rfl⟩
      exact ⟨base, described, _, ⟨numeric, rfl⟩, rfl⟩

theorem mapError_eq_ok_iff {ε ε' α : Type} {x : Except ε α} {f : ε → ε'} {a : α} :
    x.mapError f = .ok a ↔ x = .ok a := by
  cases x <;> simp [Except.mapError]

theorem decodeText_eq_ok_iff {bytes : ByteArray} :
    decodeText bytes = .ok text ↔ String.fromUTF8? bytes = some text := by
  unfold decodeText
  cases String.fromUTF8? bytes <;> simp

theorem queryText_eq_ok_iff : a.queryText s = .ok text ↔ Asked s a.query text := by
  cases file : a.query with
  | none =>
    simp only [Arguments.queryText, file, mapError_eq_ok_iff, decodeText_eq_ok_iff]
    exact ⟨.byInput, fun | .byInput here => here⟩
  | some path =>
    simp only [Arguments.queryText, file, mapError_eq_ok_iff]
    exact ⟨.byFile, fun | .byFile here => here⟩

/-- The configuration that counts, made of that of the file, the variables and the arguments. -/
def Arguments.effective (a : Arguments) (lookup : Lookup) (base : Config) : Config :=
  a.override (base.overridden lookup)

theorem measure_of_answerable (level : chosenFilter a s.environment = .ok f)
    (h : Answerable a s s.environment.lookup base text d) :
    let c := a.effective s.environment.lookup base
    ∃ log, measure a s = reportVerdict f log (c.cost.validate d c.limits) := by
  have config : a.effectiveConfig s.files s.environment = .ok _ :=
    effectiveConfig_eq_ok_iff.mpr ⟨base, h.described, ⟨h.depthNumeric, h.costNumeric⟩, rfl⟩
  have query := queryText_eq_ok_iff.mpr h.asked
  simp only [measure, level, config, query, h.parses]
  exact ⟨_, rfl⟩

theorem measure_of_not_answerable (level : chosenFilter a s.environment = .ok f)
    (h : ¬ ∃ base text d, Answerable a s s.environment.lookup base text d) :
    ∃ log error, measure a s = failed log error := by
  unfold measure
  rw [level]
  dsimp only
  split
  · exact ⟨_, _, rfl⟩
  · rename_i c config
    split
    · exact ⟨_, _, rfl⟩
    · rename_i text query
      split
      · exact ⟨_, _, rfl⟩
      · rename_i d parses
        obtain ⟨base, described, ⟨depth, cost⟩, -⟩ := effectiveConfig_eq_ok_iff.mp config
        exact absurd ⟨base, text, d, described, depth, cost, queryText_eq_ok_iff.mp query, parses⟩ h

/-- A limit is that of the arguments, or else that of the environment, or else that of the file, or
else the default. -/
theorem effective_limits (lookup : Lookup) (h : Described s.files a.config base) :
    (a.effective lookup base).limits.maxDepth =
        ((a.maxDepth.or (number? lookup depthVariable)).or
          (stated? s.files a.config "limits" "max-depth" 0 word?)).getD 10 ∧
      (a.effective lookup base).limits.maxCost =
        ((a.maxCost.or (number? lookup costVariable)).or
          (stated? s.files a.config "limits" "max-cost" 1 word?)).getD 1000 := by
  have layers {flag set stated : Option UInt64} {default : UInt64} :
      flag.getD (set.getD (stated.getD default)) = ((flag.or set).or stated).getD default := by
    cases flag <;> cases set <;> rfl
  simp only [Arguments.effective, Arguments.override, overridden, h.maxDepth, h.maxCost, layers,
    and_self]

/-- A gateway lets a document run where the verdict on it is good, whatever is logged by then. -/
theorem check_eq_ok_iff (c : Config) (d : Document) (w : Log.World) :
    (((GatewayState.ofConfig c.limits c.cost).check d).run w).1 = .ok () ↔
      (c.cost.validate d c.limits).valid = true := by
  have judged : ((GatewayState.ofConfig c.limits c.cost).check d).run w = _ :=
    (standardJudge c.limits c.cost).check_run d w
  by_cases valid : (c.cost.validate d c.limits).valid = true
  · rw [judged.trans (if_pos valid)]
    exact iff_of_true rfl valid
  · rw [judged.trans (if_neg valid)]
    exact iff_of_false nofun valid

theorem reportVerdict_code (log : List String) (v : Verdict) :
    (reportVerdict f log v).code = if v.valid then 0 else 1 := rfl

/-- Under a well-formed level of the log and an environment of texts, a verdict is printed just where
there is an answer, and nothing but a failure is told elsewhere. What is printed is the verdict under
the limits of the arguments, the environment, the file and the defaults, in this order for each limit,
and the weights of the file and the defaults; it can be read back, and the exit code is what a gateway
of that configuration says of the document. A text of 2^64 characters or more could be deeper than the
numbers that are read back. -/
theorem the_command_predicts_the_gateway {texts : List (String × String)}
    (asked : readArguments s.arguments = .measure a)
    (level : chosenFilter a s.environment = .ok f)
    (isText : s.environment = .ofTexts texts) :
    ((∃ v : Verdict, (run s).output = v.toJson.indented ++ "\n") ↔
      ∃ base text d, Answerable a s (texts.lookup ·) base text d) ∧
    ((¬ ∃ base text d, Answerable a s (texts.lookup ·) base text d) →
      (run s).output = "" ∧ (run s).code ≠ 0) ∧
    ∀ base text d, Answerable a s (texts.lookup ·) base text d → ∃ c : Config,
      c.limits.maxDepth = ((a.maxDepth.or (number? (texts.lookup ·) depthVariable)).or
        (stated? s.files a.config "limits" "max-depth" 0 word?)).getD 10 ∧
      c.limits.maxCost = ((a.maxCost.or (number? (texts.lookup ·) costVariable)).or
        (stated? s.files a.config "limits" "max-cost" 1 word?)).getD 1000 ∧
      c.cost = base.cost ∧
      c.cost.connectionBaseCost =
        (stated? s.files a.config "cost" "connection-base-cost" 0 word?).getD 10 ∧
      c.cost.unboundedListMultiplier =
        (stated? s.files a.config "cost" "unbounded-list-multiplier" 1 word?).getD 10 ∧
      c.cost.paginationArguments =
        (stated? s.files a.config "cost" "pagination-arguments" 2 texts?).getD ["first", "last"] ∧
      (run s).output = (c.cost.validate d c.limits).toJson.indented ++ "\n" ∧
      (text.length < UInt64.size →
        (Json.read? (run s).output).bind Verdict.ofJson? = some (c.cost.validate d c.limits)) ∧
      (∀ w, (run s).code = 0 ↔
        (((GatewayState.ofConfig c.limits c.cost).check d).run w).1 = .ok ()) ∧
      ((run s).code = 0 ∨ (run s).code = 1) := by
  have ran : run s = measure a s := by rw [run, asked]
  have lookup : s.environment.lookup = (texts.lookup ·) := by
    rw [isText, Environment.lookup_ofTexts]
  rw [ran, ← lookup]
  refine ⟨⟨?_, ?_⟩, ?_, ?_⟩
  · rintro ⟨v, printed⟩
    by_contra nothing
    obtain ⟨log, error, failure⟩ := measure_of_not_answerable level nothing
    rw [failure] at printed
    simp [failed] at printed
  · rintro ⟨base, text, d, h⟩
    obtain ⟨log, told⟩ := measure_of_answerable level h
    exact ⟨_, by rw [told, reportVerdict]⟩
  · intro nothing
    obtain ⟨log, error, failure⟩ := measure_of_not_answerable level nothing
    rw [failure]
    exact ⟨rfl, Nat.one_ne_zero⟩
  · intro base text d h
    obtain ⟨log, told⟩ := measure_of_answerable level h
    obtain ⟨depth, cost⟩ := effective_limits s.environment.lookup h.described
    have weights := h.described
    refine ⟨a.effective s.environment.lookup base, depth, cost, rfl, weights.connectionBaseCost,
      weights.unboundedListMultiplier, weights.paginationArguments, ?_, ?_, ?_, ?_⟩
    · rw [told, reportVerdict]
    · intro short
      have small := Nat.lt_of_le_of_lt (depth_le_length h.parses) short
      rw [told]
      exact Verdict.read_printed _ small
    · intro w
      rw [told, reportVerdict_code, check_eq_ok_iff]
      simp
    · rw [told, reportVerdict_code]
      split
      · exact .inl rfl
      · exact .inr rfl

/-- One limit is that of the arguments and not the one of the file, the other one that of the
environment, and the weights are those of the file. The document exceeds both, and the gateway turns
away what the command says it does. -/
theorem refused_in_advance :
    let text := "limits = \x7bmax-depth = 3\x7d\n[cost]\nconnection-base-cost = 4\n" ++
      "unbounded-list-multiplier = 3\n"
    let files : FileReader := fun path => if path = "gate.toml" then .ok text else .error .notFound
    let s : Surroundings :=
      { arguments := ["--max-depth", "0", "-c", "gate.toml", "--log-level", "2"]
        input := "\x7bas\x7d".toUTF8
        files
        environment := .ofTexts [("GRAPHQL_COST_LIMIT", " 11 ")] }
    let a : Arguments := { config := some "gate.toml", maxDepth := some 0, logLevel := some "2" }
    let cost : CostModel := { connectionBaseCost := 4, unboundedListMultiplier := 3 }
    let o : Operation :=
      { type := .query, selections := [.field { position := ⟨1, 2⟩, name := "as" } []] }
    let d : Document := ⟨.single o, []⟩
    let limits : Limits := { maxDepth := 0, maxCost := 11 }
    readArguments s.arguments = .measure a ∧
    chosenFilter a s.environment = .ok [{ verbosity := 2 }] ∧
    Answerable a s ([("GRAPHQL_COST_LIMIT", " 11 ")].lookup ·) ⟨{ maxDepth := 3 }, cost⟩
      "\x7bas\x7d" d ∧
    (Json.read? (run s).output).bind Verdict.ofJson? = some
      { valid := false, depth := 1, cost := 12, maxDepth := 0, maxCost := 11
        errors := ["Query depth of 1 exceeds maximum allowed depth of 0",
          "Query cost of 12 exceeds maximum allowed cost of 11"] } ∧
    (run s).code = 1 ∧ ∀ w, (((GatewayState.ofConfig limits cost).check d).run w).1 ≠ .ok () := by
  intro text files s a cost o d limits
  have asked : readArguments s.arguments = .measure a := by decide +kernel
  have level : chosenFilter a s.environment = .ok [{ verbosity := 2 }] := by
    have unset : s.environment.lookup logVariable = none := by decide +kernel
    have parts : "2".splitOn "," = ["2"] := by
      -- Splitting goes by well-founded recursion, which is unfolded where there is no comma.
      rw [String.splitOn, if_neg (by decide), String.splitOnAux, if_neg (by decide),
        if_neg (by decide), String.splitOnAux, if_pos (by decide)]
      decide
    rw [chosenFilter, unset, Option.map_none]
    show LogFilter.ofText "2" = _
    rw [LogFilter.ofText, parts]
    decide +kernel
  have loaded : load files "gate.toml" = .ok ⟨{ maxDepth := 3 }, cost⟩ := by
    have readable : files "gate.toml" = .ok text := if_pos rfl
    have described : ofToml? text = some ⟨{ maxDepth := 3 }, cost⟩ := by decide +kernel
    rw [load, readable]
    show ofToml text = _
    rw [ofToml, described]
  have answerable : Answerable a s ([("GRAPHQL_COST_LIMIT", " 11 ")].lookup ·)
      ⟨{ maxDepth := 3 }, cost⟩ "\x7bas\x7d" d :=
    { described := load_eq_ok_iff.mp loaded
      depthNumeric := by decide +kernel
      costNumeric := by decide +kernel
      asked := .byInput (fromUTF8?_toUTF8 "\x7bas\x7d")
      parses := rfl }
  obtain ⟨c, maxDepth, maxCost, weights, -, -, -, -, read, accepted, code⟩ :=
    (the_command_predicts_the_gateway asked level rfl).2.2 _ _ _ answerable
  have effective : c = ⟨limits, cost⟩ := by
    have set : number? ([("GRAPHQL_COST_LIMIT", " 11 ")].lookup ·) costVariable = some 11 := by
      decide +kernel
    rw [set] at maxCost
    obtain ⟨⟨_, _⟩, _⟩ := c
    exact congr (congrArg Config.mk (congr (congrArg Limits.mk maxDepth) maxCost)) weights
  subst effective
  have depth_d : depth d = 1 := by
    simp [depth, Measure.document_eq, d, o, Document.operationList, Operations.toList,
      depthMeasure]
  have cost_d : cost.estimate d = 12 := by
    simp [CostModel.estimate, Measure.document_eq, d, o, Document.operationList,
      Operations.toList, CostModel.costMeasure]
    decide
  have verdict : cost.validate d limits =
      { valid := false, depth := 1, cost := 12, maxDepth := 0, maxCost := 11
        errors := ["Query depth of 1 exceeds maximum allowed depth of 0",
          "Query cost of 12 exceeds maximum allowed cost of 11"] } := by
    rw [CostModel.validate, depth_d, cost_d]
    decide +kernel
  have refused (w : Log.World) : (((GatewayState.ofConfig limits cost).check d).run w).1 ≠ .ok () :=
    (check_eq_ok_iff ⟨limits, cost⟩ d w).not.mpr (by simp [verdict])
  have exit : (run s).code = 1 :=
    code.resolve_left fun zero => refused ⟨0, fun _ => "", 0, .disabled, []⟩ ((accepted _).mp zero)
  exact ⟨asked, level, answerable, verdict ▸ read (by decide), exit, refused⟩

end Command

end QueryGate
