-- Sheets of TOML: names with their values, and then tables, each under its
-- header. Where no name is given twice, a sheet is read as the table that
-- it shows, with everything in the order in which it stands there.
import Mathlib.Data.List.Nodup
import QueryGate.Proofs.Lines
import QueryGate.Proofs.Tables
import QueryGate.Toml.Document

namespace QueryGate.Toml

open Text

/-! ## What a sheet shows -/

/-- Names with what they stand for. -/
abbrev Entries := List (String × Entry)

structure Sheet where
  top : Entries
  tables : List (String × Entries)

def entryLine (e : String × Entry) : Line := .entry e.1 e.2

def tableLines (t : String × Entries) : List Line := .header t.1 :: t.2.map entryLine

def Sheet.lines (s : Sheet) : List Line := s.top.map entryLine ++ s.tables.flatMap tableLines

def Sheet.text (sp : Spelling) (s : Sheet) : String :=
  String.ofList (s.lines.flatMap (Line.chars sp))

def entryMember (e : String × Entry) : String × Value := (e.1, e.2.toValue)

def tableMember (t : String × Entries) : String × Value := (t.1, .table (t.2.map entryMember))

def Sheet.members (s : Sheet) : Members := s.top.map entryMember ++ s.tables.map tableMember

/-- No name is given twice in one place, and all numbers are such of TOML. -/
structure Sheet.Good (s : Sheet) : Prop where
  names_nodup : (s.top.map (·.1) ++ s.tables.map (·.1)).Nodup
  keys_nodup : ∀ t ∈ s.tables, (t.2.map (·.1)).Nodup
  top_fits : ∀ e ∈ s.top, e.2.Fits
  tables_fit : ∀ t ∈ s.tables, ∀ e ∈ t.2, e.2.Fits

theorem Sheet.Good.lines_fit {s : Sheet} (good : s.Good) : ∀ l ∈ s.lines, l.Fits := by
  intro l hl
  unfold Sheet.lines at hl
  rcases List.mem_append.mp hl with top | table
  · obtain ⟨e, he, rfl⟩ := List.mem_map.mp top
    exact good.top_fits e he
  · obtain ⟨t, ht, hl⟩ := List.mem_flatMap.mp table
    rcases List.mem_cons.mp hl with rfl | entry
    · trivial
    · obtain ⟨e, he, rfl⟩ := List.mem_map.mp entry
      exact good.tables_fit t ht e he

/-! ## Statements one after the other -/

def entryItem (e : String × Entry) : String × Item := (e.1, .value e.2.toValue)

def tableItem (t : String × Entries) : String × Item := (t.1, .table .opened (t.2.map entryItem))

variable {items inner : Items}

/-- A table that takes any new name takes some entries one after the other. -/
theorem foldlM_entries (put : Items → Reading)
    (takes : ∀ items name v, name ∉ items.map (·.1) →
      (put items).next (.assign [] name v) = some (put (items ++ [(name, Item.value v)])))
    (items : Items) {es : Entries} (nodup : (items.map (·.1) ++ es.map (·.1)).Nodup) :
    (es.map fun e => (entryLine e).statement).foldlM Reading.next (put items) =
      some (put (items ++ es.map entryItem)) := by
  -- The items grow with every entry, and the names that are left stay new to them.
  induction es generalizing items with
  | nil => simp
  | cons e es ih =>
    obtain ⟨name, e⟩ := e
    have new : name ∉ items.map (·.1) := by
      intro old
      rw [List.map_cons, List.nodup_append] at nodup
      exact nodup.2.2 _ old _ List.mem_cons_self rfl
    have first : (put items).next (.assign [] name e.toValue) =
        some (put (items ++ [(name, Item.value e.toValue)])) := takes items name e.toValue new
    have later : (es.map fun e => (entryLine e).statement).foldlM Reading.next
        (put (items ++ [(name, Item.value e.toValue)])) =
          some (put (items ++ [(name, Item.value e.toValue)] ++ es.map entryItem)) := by
      apply ih
      simpa using nodup
    rw [List.map_cons, List.foldlM_cons]
    show ((put items).next (.assign [] name e.toValue)).bind _ = _
    rw [first, Option.bind_some, later]
    simp [entryItem]

theorem assign_of_new {name : String} (new : name ∉ items.map (·.1)) (v : Value) (origin : Origin) :
    assign false name v origin items = some (items ++ [(name, Item.value v)]) := by
  unfold assign
  rw [if_neg (by simp), lookup_eq_none_of_notMem new]

/-- Before the first header. -/
theorem next_top {name : String} (new : name ∉ items.map (·.1)) (v : Value) :
    Reading.next ⟨[], items⟩ (.assign [] name v) = some ⟨[], items ++ [(name, Item.value v)]⟩ := by
  unfold Reading.next
  show (assign false name v .opened items).bind _ = _
  rw [assign_of_new new]
  rfl

/-- Within the table of the last header. -/
theorem next_table {table name : String} {done : Items} (other : table ∉ done.map (·.1))
    (new : name ∉ inner.map (·.1)) (v : Value) :
    Reading.next ⟨[table], done ++ [(table, Item.table .opened inner)]⟩ (.assign [] name v) =
      some ⟨[table], done ++ [(table, Item.table .opened (inner ++ [(name, Item.value v)]))]⟩ := by
  have found := lookup_append_of_notMem other (Item.table .opened inner)
  have replaced : replaceMember (done ++ [(table, Item.table .opened inner)]) table
      (.table .opened (inner ++ [(name, Item.value v)])) =
        done ++ [(table, Item.table .opened (inner ++ [(name, Item.value v)]))] := by
    unfold replaceMember
    rw [List.map_append, List.map_singleton, if_pos rfl]
    congr 1
    conv_rhs => rw [← List.map_id done]
    refine List.map_congr_left fun p hp => if_neg ?_
    rintro rfl
    exact other (List.mem_map_of_mem hp)
  unfold Reading.next updateAt
  rw [found]
  dsimp only
  rw [if_neg (by simp)]
  show ((assign false name v .opened inner).bind _).bind _ = _
  rw [assign_of_new new]
  simp [replaced]

theorem next_header (header : List String) {name : String} (new : name ∉ items.map (·.1)) :
    Reading.next ⟨header, items⟩ (.table [] name) =
      some ⟨[name], items ++ [(name, Item.table .opened [])]⟩ := by
  unfold Reading.next
  show (openTable name .opened items).bind _ = _
  unfold openTable
  rw [lookup_eq_none_of_notMem new]
  rfl

theorem foldlM_table (header : List String) {t : String × Entries} (new : t.1 ∉ items.map (·.1))
    (nodup : (t.2.map (·.1)).Nodup) :
    ((tableLines t).map Line.statement).foldlM Reading.next ⟨header, items⟩ =
      some ⟨[t.1], items ++ [tableItem t]⟩ := by
  have all := foldlM_entries (fun inner => ⟨[t.1], items ++ [(t.1, Item.table .opened inner)]⟩)
    (fun inner name v new' => next_table new new' v) [] nodup
  unfold tableLines
  rw [List.map_cons, List.map_map, List.foldlM_cons]
  show (Reading.next ⟨header, items⟩ (.table [] t.1)).bind _ = _
  rw [next_header header new]
  exact all

theorem foldlM_tables (header : List String) (items : Items) {ts : List (String × Entries)}
    (names : (items.map (·.1) ++ ts.map (·.1)).Nodup) (nodup : ∀ t ∈ ts, (t.2.map (·.1)).Nodup) :
    ∃ header', ((ts.flatMap tableLines).map Line.statement).foldlM Reading.next ⟨header, items⟩ =
      some ⟨header', items ++ ts.map tableItem⟩ := by
  -- Which header came last does not matter to the next one.
  induction ts generalizing header items with
  | nil => exact ⟨header, by simp⟩
  | cons t ts ih =>
    have new : t.1 ∉ items.map (·.1) := by
      intro old
      rw [List.map_cons, List.nodup_append] at names
      exact names.2.2 _ old _ List.mem_cons_self rfl
    have first := foldlM_table header new (nodup t List.mem_cons_self)
    have names' : ((items ++ [tableItem t]).map (·.1) ++ ts.map (·.1)).Nodup := by
      simpa [tableItem] using names
    obtain ⟨header', later⟩ :=
      ih [t.1] (items ++ [tableItem t]) names' fun t ht => nodup t (List.mem_cons_of_mem _ ht)
    refine ⟨header', ?_⟩
    rw [List.flatMap_cons, List.map_append, List.foldlM_append, first]
    show List.foldlM Reading.next ⟨[t.1], items ++ [tableItem t]⟩ _ = _
    rw [later]
    simp

/-! ## The table that is read -/

theorem membersOfItems_eq_map (items : Items) :
    membersOfItems items = items.map fun i => (i.1, i.2.toValue) := by
  induction items with
  | nil => rfl
  | cons i items ih =>
    obtain ⟨name, item⟩ := i
    rw [membersOfItems, ih, List.map_cons]

theorem membersOfItems_sheet (s : Sheet) :
    membersOfItems (s.top.map entryItem ++ s.tables.map tableItem) = s.members := by
  have entry : (fun i : String × Item => (i.1, i.2.toValue)) ∘ entryItem = entryMember := by
    funext e
    rw [Function.comp_apply, entryItem, Item.toValue, entryMember]
  have table : (fun i : String × Item => (i.1, i.2.toValue)) ∘ tableItem = tableMember := by
    funext t
    rw [Function.comp_apply, tableItem, Item.toValue, membersOfItems_eq_map, List.map_map, entry,
      tableMember]
  rw [membersOfItems_eq_map, List.map_append, List.map_map, List.map_map, entry, table, Sheet.members]

/-- A sheet is read as what it shows, however its texts are escaped. -/
theorem read?_text (sp : Spelling) {s : Sheet} (good : s.Good) :
    read? (s.text sp) = some s.members := by
  have lines := statements_lines sp good.lines_fit
  have top := foldlM_entries (fun items => ⟨[], items⟩) (fun items name v new => next_top new v) []
    (List.Nodup.of_append_left good.names_nodup)
  have names : ((s.top.map entryItem).map (·.1) ++ s.tables.map (·.1)).Nodup := by
    simpa [entryItem, Function.comp_def] using good.names_nodup
  obtain ⟨header, tables⟩ := foldlM_tables [] (s.top.map entryItem) names good.keys_nodup
  have all : (s.lines.map Line.statement).foldlM Reading.next {} =
      some ⟨header, s.top.map entryItem ++ s.tables.map tableItem⟩ := by
    rw [Sheet.lines, List.map_append, List.map_map, List.foldlM_append]
    show (List.foldlM Reading.next ⟨[], []⟩ (s.top.map fun e => (entryLine e).statement)).bind _ = _
    rw [top]
    exact tables
  unfold read? Sheet.text
  rw [String.toList_ofList, lines]
  show (List.foldlM Reading.next {} (s.lines.map Line.statement)).bind _ = _
  rw [all]
  exact congrArg some (membersOfItems_sheet s)

end QueryGate.Toml
