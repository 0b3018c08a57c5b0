-- Configuration files that set some of the keys. Whatever else a file
-- holds, and in whatever order, the keys that it shows are taken from it
-- and all others are what they are by default. A file that shows every key
-- of a configuration brings the whole of it back.
import Mathlib.Data.Set.Insert
import QueryGate.Config.Loading
import QueryGate.Proofs.Sheets

namespace QueryGate.Config

open Toml

/-! ## Keys -/

/-- What a file can set. -/
inductive Key where
  | maxDepth
  | maxCost
  | connectionBaseCost
  | unboundedListMultiplier
  | paginationArguments
deriving DecidableEq

/-- The table that a key stands in. -/
def Key.table : Key → String
  | .maxDepth | .maxCost => "limits"
  | .connectionBaseCost | .unboundedListMultiplier | .paginationArguments => "cost"

def Key.name : Key → String
  | .maxDepth => "max-depth"
  | .maxCost => "max-cost"
  | .connectionBaseCost => "connection-base-cost"
  | .unboundedListMultiplier => "unbounded-list-multiplier"
  | .paginationArguments => "pagination-arguments"

/-- What a key stands for in a configuration. -/
def Key.entry : Key → Config → Entry
  | .maxDepth, c => .number c.limits.maxDepth.toNat
  | .maxCost, c => .number c.limits.maxCost.toNat
  | .connectionBaseCost, c => .number c.cost.connectionBaseCost.toNat
  | .unboundedListMultiplier, c => .number c.cost.unboundedListMultiplier.toNat
  | .paginationArguments, c => .texts c.cost.paginationArguments

theorem Key.name_injective {k k' : Key} (h : k.name = k'.name) : k = k' := by
  cases k <;> cases k' <;> first | rfl | exact absurd h (by decide)

/-- The keys say everything about a configuration. -/
theorem eq_of_entries {c c' : Config} (same : ∀ k : Key, k.entry c' = k.entry c) : c' = c := by
  obtain ⟨⟨depth, cost⟩, ⟨base, unbounded, pages⟩⟩ := c
  obtain ⟨⟨depth', cost'⟩, ⟨base', unbounded', pages'⟩⟩ := c'
  have sameDepth := same .maxDepth
  have sameCost := same .maxCost
  have sameBase := same .connectionBaseCost
  have sameUnbounded := same .unboundedListMultiplier
  have samePages := same .paginationArguments
  simp only [Key.entry, Entry.number.injEq, Entry.texts.injEq, Int.natCast_inj, UInt64.toNat_inj]
    at sameDepth sameCost sameBase sameUnbounded samePages
  rw [sameDepth, sameCost, sameBase, sameUnbounded, samePages]

/-- All numbers of the configuration are below 2^63, so a file can hold them. -/
def Writable (c : Config) : Prop := ∀ k : Key, (k.entry c).Fits

/-! ## Layouts -/

/-- A place in a table: one of the keys, or a name that means nothing with a number. -/
inductive Slot where
  | key (k : Key)
  | unknown (name : String) (n : Int)
deriving DecidableEq

/-- What stands where in a file: names that mean nothing with their numbers, and then tables. -/
structure Layout where
  top : List (String × Int)
  tables : List (String × List Slot)

def Slot.name : Slot → String
  | .key k => k.name
  | .unknown name _ => name

def Slot.entry (c : Config) : Slot → Entry
  | .key k => k.entry c
  | .unknown _ n => .number n

/-- A key stands in its own table; another name is no key of the table, and its number is one of TOML. -/
def Slot.Belongs (table : String) : Slot → Prop
  | .key k => k.table = table
  | .unknown name n => (∀ k : Key, k.table = table → k.name ≠ name) ∧ Fits64 n

def slotEntries (c : Config) (slots : List Slot) : Entries := slots.map fun s => (s.name, s.entry c)

namespace Layout

variable {l : Layout} {c : Config} {k : Key}

/-- Some table holds the key. -/
def Shows (l : Layout) (k : Key) : Prop := ∃ t ∈ l.tables, .key k ∈ t.2

instance (l : Layout) (k : Key) : Decidable (l.Shows k) :=
  inferInstanceAs (Decidable (∃ t ∈ l.tables, .key k ∈ t.2))

/-- No name stands twice in one place, the names in front are not those of tables that hold keys, and
their numbers are such of TOML. -/
structure Good (l : Layout) : Prop where
  names_nodup : (l.top.map (·.1) ++ l.tables.map (·.1)).Nodup
  top_unknown : ∀ k : Key, k.table ∉ l.top.map (·.1)
  top_fits : ∀ e ∈ l.top, Fits64 e.2
  slots_nodup : ∀ t ∈ l.tables, (t.2.map Slot.name).Nodup
  slots_belong : ∀ t ∈ l.tables, ∀ s ∈ t.2, s.Belongs t.1

/-- The sheet that shows the keys of a configuration in these places. -/
def sheet (l : Layout) (c : Config) : Sheet where
  top := l.top.map fun e => (e.1, .number e.2)
  tables := l.tables.map fun t => (t.1, slotEntries c t.2)

def text (sp : Spelling) (l : Layout) (c : Config) : String := (l.sheet c).text sp

theorem Good.sheet_good (good : l.Good) (writable : c.Writable) : (l.sheet c).Good where
  names_nodup := by
    simpa [sheet, Function.comp_def] using good.names_nodup
  keys_nodup := by
    intro t' ht'
    obtain ⟨t, ht, rfl⟩ := List.mem_map.mp ht'
    simpa [slotEntries, Function.comp_def] using good.slots_nodup t ht
  top_fits := by
    intro e' he'
    obtain ⟨e, he, rfl⟩ := List.mem_map.mp he'
    exact good.top_fits e he
  tables_fit := by
    intro t' ht' e he
    obtain ⟨t, ht, rfl⟩ := List.mem_map.mp ht'
    obtain ⟨s, hs, rfl⟩ := List.mem_map.mp he
    cases s with
    | key k => exact writable k
    | unknown name n => exact (good.slots_belong t ht _ hs).2

/-! ## Looking up keys -/

theorem Good.tables_nodup (good : l.Good) : (l.tables.map (·.1)).Nodup :=
  List.Nodup.of_append_right good.names_nodup

theorem lookup_members (good : l.Good) (c : Config) (k : Key) :
    (l.sheet c).members.lookup k.table = (l.tables.lookup k.table).map fun slots =>
      .table ((slotEntries c slots).map entryMember) := by
  have top : ((l.sheet c).top.map entryMember).lookup k.table = none := by
    apply lookup_eq_none_of_notMem
    simpa [sheet, entryMember, Function.comp_def] using good.top_unknown k
  have tables : ((l.sheet c).tables.map tableMember).lookup k.table =
      (l.tables.lookup k.table).map fun slots => .table ((slotEntries c slots).map entryMember) := by
    rw [sheet, List.map_map]
    exact lookup_map id (fun slots => Value.table ((slotEntries c slots).map entryMember)) fun _ _ => id
  rw [Sheet.members, List.lookup_append, top, Option.none_or, tables]

theorem shows_iff (good : l.Good) {slots : List Slot} (found : l.tables.lookup k.table = some slots) :
    l.Shows k ↔ .key k ∈ slots := by
  have here := (lookup_eq_some_iff_mem good.tables_nodup).mp found
  constructor
  · rintro ⟨t, ht, shown⟩
    obtain ⟨name, slots'⟩ := t
    obtain rfl : k.table = name := good.slots_belong _ ht _ shown
    have same := (lookup_eq_some_iff_mem good.tables_nodup).mpr ht
    rw [found] at same
    obtain rfl := Option.some.inj same
    exact shown
  · intro shown
    exact ⟨_, here, shown⟩

theorem not_shows_of_lookup_eq_none (good : l.Good) (absent : l.tables.lookup k.table = none) :
    ¬ l.Shows k := by
  rintro ⟨⟨name, slots⟩, ht, shown⟩
  obtain rfl : k.table = name := good.slots_belong _ ht _ shown
  rw [(lookup_eq_some_iff_mem good.tables_nodup).mpr ht] at absent
  cases absent

/-- In its table a key is found if the file shows it, and no other name is found in its stead. -/
theorem lookup_slots (good : l.Good) (c : Config) {slots : List Slot}
    (found : l.tables.lookup k.table = some slots) :
    ((slotEntries c slots).map entryMember).lookup k.name =
      if l.Shows k then some (k.entry c).toValue else none := by
  have here := (lookup_eq_some_iff_mem good.tables_nodup).mp found
  have names : ((slotEntries c slots).map entryMember).map (·.1) = slots.map Slot.name := by
    simp [slotEntries, entryMember, Function.comp_def]
  have nodup : (((slotEntries c slots).map entryMember).map (·.1)).Nodup := by
    rw [names]
    exact good.slots_nodup _ here
  split
  case isTrue shown =>
    rw [lookup_eq_some_iff_mem nodup, slotEntries, List.map_map]
    exact List.mem_map.mpr ⟨.key k, (shows_iff good found).mp shown, rfl⟩
  case isFalse hidden =>
    apply lookup_eq_none_of_notMem
    rw [names]
    intro named
    obtain ⟨s, hs, same⟩ := List.mem_map.mp named
    cases s with
    | key k' =>
      obtain rfl := Key.name_injective same
      exact hidden ((shows_iff good found).mpr hs)
    | unknown name n => exact (good.slots_belong _ here _ hs).1 k rfl same.symm

/-! ## The configuration that is read -/

/-- The configuration that a key is taken from. -/
def source (l : Layout) (c : Config) (k : Key) : Config := if l.Shows k then c else {}

/-- The configuration with every key from its source. -/
def merged (l : Layout) (c : Config) : Config where
  limits :=
    { maxDepth := (l.source c .maxDepth).limits.maxDepth
      maxCost := (l.source c .maxCost).limits.maxCost }
  cost :=
    { connectionBaseCost := (l.source c .connectionBaseCost).cost.connectionBaseCost
      unboundedListMultiplier := (l.source c .unboundedListMultiplier).cost.unboundedListMultiplier
      paginationArguments := (l.source c .paginationArguments).cost.paginationArguments }

theorem entry_merged (l : Layout) (c : Config) (k : Key) :
    k.entry (l.merged c) = k.entry (l.source c k) := by
  cases k <;> rfl

theorem word?_number (w : UInt64) : word? (Entry.number w.toNat).toValue = some w := by
  simp [word?, Entry.toValue]

theorem texts?_texts (ss : List String) : texts? (Entry.texts ss).toValue = some ss := by
  show (ss.map Value.string).mapM text? = some ss
  induction ss with
  | nil => rfl
  | cons s ss ih => simp [text?, ih]

/-- What a key's name gives in its table is read as what its source has. -/
theorem orDefault_slots (good : l.Good) {slots : List Slot}
    (found : l.tables.lookup k.table = some slots) {α : Type} (field : Config → α)
    {read : Value → Option α} (reads : read (k.entry c).toValue = some (field c)) :
    orDefault (((slotEntries c slots).map entryMember).lookup k.name) read (field {}) =
      some (field (l.source c k)) := by
  rw [lookup_slots good c found]
  unfold source
  split
  case isTrue => exact reads
  case isFalse => rfl

theorem source_of_lookup_eq_none (good : l.Good) (absent : l.tables.lookup k.table = none)
    (c : Config) : l.source c k = {} :=
  if_neg (not_shows_of_lookup_eq_none good absent)

theorem limits_merged (good : l.Good) (c : Config) :
    orDefault ((l.sheet c).members.lookup "limits") limits? {} = some (l.merged c).limits := by
  have looked := lookup_members good c .maxDepth
  rw [Key.table] at looked
  rw [looked]
  cases found : l.tables.lookup "limits" with
  | none =>
    have depth := source_of_lookup_eq_none (k := .maxDepth) good found c
    have cost := source_of_lookup_eq_none (k := .maxCost) good found c
    simp [orDefault, merged, depth, cost]
  | some slots =>
    have depth := orDefault_slots (k := .maxDepth) good found (fun c => c.limits.maxDepth)
      (word?_number c.limits.maxDepth)
    have cost := orDefault_slots (k := .maxCost) good found (fun c => c.limits.maxCost)
      (word?_number c.limits.maxCost)
    refine Option.bind_eq_some_iff.mpr ⟨_, depth, ?_⟩
    exact Option.bind_eq_some_iff.mpr ⟨_, cost, rfl⟩

theorem cost_merged (good : l.Good) (c : Config) :
    orDefault ((l.sheet c).members.lookup "cost") cost? {} = some (l.merged c).cost := by
  have looked := lookup_members good c .connectionBaseCost
  rw [Key.table] at looked
  rw [looked]
  cases found : l.tables.lookup "cost" with
  | none =>
    have base := source_of_lookup_eq_none (k := .connectionBaseCost) good found c
    have unbounded := source_of_lookup_eq_none (k := .unboundedListMultiplier) good found c
    have pages := source_of_lookup_eq_none (k := .paginationArguments) good found c
    simp [orDefault, merged, base, unbounded, pages]
  | some slots =>
    have base := orDefault_slots (k := .connectionBaseCost) good found
      (fun c => c.cost.connectionBaseCost) (word?_number c.cost.connectionBaseCost)
    have unbounded := orDefault_slots (k := .unboundedListMultiplier) good found
      (fun c => c.cost.unboundedListMultiplier) (word?_number c.cost.unboundedListMultiplier)
    have pages := orDefault_slots (k := .paginationArguments) good found
      (fun c => c.cost.paginationArguments) (texts?_texts c.cost.paginationArguments)
    refine Option.bind_eq_some_iff.mpr ⟨_, base, ?_⟩
    refine Option.bind_eq_some_iff.mpr ⟨_, unbounded, ?_⟩
    exact Option.bind_eq_some_iff.mpr ⟨_, pages, rfl⟩

end Layout

/-! ## The whole of it -/

/-- A file that shows some keys of a configuration is read, whatever names that mean nothing stand in it
and whatever the order is: each key that it shows is what it is in the configuration, and every other
key is what it is by default. If it shows all of them, it is the configuration that is read. -/
theorem a_partial_file_sets_the_keys_it_shows (sp : Spelling) {c : Config} (writable : c.Writable)
    (K : Set Key) {l : Layout} (good : l.Good) (shown : ∀ k, l.Shows k ↔ k ∈ K) :
    ∃ c', ofToml (l.text sp c) = .ok c' ∧ (∀ k ∈ K, k.entry c' = k.entry c) ∧
      (∀ k ∉ K, k.entry c' = k.entry {}) ∧ (K = Set.univ → c' = c) := by
  have read : Toml.read? (l.text sp c) = some (l.sheet c).members :=
    read?_text sp (good.sheet_good writable)
  have decoded : ofMembers? (l.sheet c).members = some (l.merged c) := by
    unfold ofMembers?
    rw [Layout.limits_merged good, Layout.cost_merged good]
    rfl
  have set : ∀ k ∈ K, k.entry (l.merged c) = k.entry c := by
    intro k hk
    rw [l.entry_merged, Layout.source, if_pos ((shown k).mpr hk)]
  have unset : ∀ k ∉ K, k.entry (l.merged c) = k.entry {} := by
    intro k hk
    rw [l.entry_merged, Layout.source, if_neg (mt (shown k).mp hk)]
  refine ⟨l.merged c, ?_, set, unset, ?_⟩
  · unfold ofToml ofToml?
    rw [read, Option.bind_some, decoded]
  · rintro rfl
    exact eq_of_entries fun k => set k (Set.mem_univ k)

/-- One key in a file that has the tables the other way around, one of them empty, and names that mean
nothing; the texts hold a quote, the end of a line and a backslash. -/
theorem a_file_with_one_key :
    let c : Config := { limits := { maxDepth := 3 }, cost := { paginationArguments := ["a\"\n\\", ""] } }
    let l : Layout :=
      { top := [("version", 1)]
        tables := [("cost", [.unknown "max depth" (-3), .key .paginationArguments]), ("limits", [])] }
    let text := "version = 1\n[cost]\n\"max depth\" = -3\n" ++
      "pagination-arguments = [\"a\\U00000022\\U0000000a\\U0000005c\", \"\"]\n[limits]\n"
    c.Writable ∧ l.Good ∧ (∀ k, l.Shows k ↔ k ∈ ({.paginationArguments} : Set Key)) ∧
      l.text .least c = text ∧
      ofToml text = .ok { cost := { paginationArguments := ["a\"\n\\", ""] } } := by
  intro c l text
  have writable : c.Writable := by
    intro k
    cases k <;> simp [Key.entry, Entry.Fits, Fits64, c]
  have good : l.Good := by
    constructor
    · decide
    · intro k
      cases k <;> decide
    · simp [l, Fits64]
    · decide
    · have unknown (k : Key) : k.name ≠ "max depth" := by cases k <;> decide
      simp [l, Slot.Belongs, Key.table, Fits64, unknown]
  have shown : ∀ k, l.Shows k ↔ k ∈ ({.paginationArguments} : Set Key) := by
    intro k
    cases k <;> simp [Layout.Shows, l]
  have written : l.text .least c = text := by decide +kernel
  refine ⟨writable, good, shown, written, ?_⟩
  obtain ⟨c', read, set, unset, -⟩ :=
    a_partial_file_sets_the_keys_it_shows .least writable {.paginationArguments} good shown
  rw [written] at read
  rw [read]
  congr 1
  apply eq_of_entries
  intro k
  cases k with
  | paginationArguments => exact set _ rfl
  | maxDepth => exact unset _ (by simp)
  | maxCost => exact unset _ (by simp)
  | connectionBaseCost => exact unset _ (by simp)
  | unboundedListMultiplier => exact unset _ (by simp)

end QueryGate.Config
