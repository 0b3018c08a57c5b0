-- The first operation of a text, and the one that is taken for it. Of the
-- operations that a document keeps in no order, the one with the earliest
-- position is taken; where positions go on from each operation to the
-- next, that is the one that the text begins with.
import QueryGate.GraphQL.Equality
import QueryGate.Proofs.Layout
import QueryGate.Proofs.Positions

namespace QueryGate

namespace GraphQL

/-! ## Putting definitions together -/

namespace Assembly

/-- The operations met so far. -/
def operationList (a : Assembly) : List Request.NamedOperation :=
  a.operations.elim [] Operations.toList

/-- No two operations have one name, and where there are operations there is one at least. -/
structure Good (a : Assembly) : Prop where
  nodup : (a.operationList.map (·.1)).Nodup
  ne_nil : a.operations ≠ none → a.operationList ≠ []

theorem good_empty : Good {} := ⟨List.nodup_nil, fun h => absurd rfl h⟩

variable {a a' : Assembly}

theorem operationList_addAnonymous {o : Operation} (h : a.addAnonymous o = .ok a') :
    a.operationList = [] ∧ a'.operationList = [(none, o)] := by
  unfold addAnonymous at h
  split at h
  · rename_i nothing
    obtain rfl := Except.ok.inj h
    exact ⟨nothing, rfl⟩
  · cases h

theorem operationList_addNamed {name : String} {o : Operation} (h : a.addNamed name o = .ok a') :
    a'.operationList = a.operationList ++ [(some name, o)] ∧
      some name ∉ a.operationList.map (·.1) := by
  unfold addNamed at h
  split at h
  · cases h
  · rename_i operations found
    split at h
    · cases h
    · rename_i missing
      obtain rfl := Except.ok.inj h
      refine ⟨by simp [operationList, found, Operations.toList], fun present => ?_⟩
      obtain ⟨o', here⟩ : ∃ o', (name, o') ∈ operations := by
        simpa [operationList, found, Operations.toList] using present
      exact bne_iff_ne.mp (List.lookup_eq_none_iff.mp missing _ here) rfl
  · rename_i nothing
    obtain rfl := Except.ok.inj h
    simp [operationList, nothing, Operations.toList]

theorem operationList_addFragment {name : String} {p : Position} {f : Fragment}
    (h : a.addFragment name p f = .ok a') : a'.operations = a.operations := by
  unfold addFragment at h
  split at h
  · cases h
  · obtain rfl := Except.ok.inj h
    rfl

theorem operationList_add {x : Definition} (h : a.add x = .ok a') (good : a.Good) :
    a'.operationList = a.operationList ++ x.operation?.toList ∧ a'.Good := by
  cases x with
  | operation name o =>
    cases name with
    | none =>
      obtain ⟨before, after⟩ := operationList_addAnonymous h
      refine ⟨by rw [before, after]; rfl, ?_, fun _ => ?_⟩
      · simp [after]
      · simp [after]
    | some name =>
      obtain ⟨after, absent⟩ := operationList_addNamed h
      refine ⟨after, ?_, fun _ => ?_⟩
      · rw [after, List.map_append]
        exact good.nodup.append (List.nodup_singleton _) (by simpa using absent)
      · simp [after]
  | fragment name p f =>
    have same := operationList_addFragment h
    have same_list : a'.operationList = a.operationList := by rw [operationList, same]; rfl
    refine ⟨by rw [same_list]; simp [Definition.operation?], ?_, ?_⟩
    · rw [same_list]
      exact good.nodup
    · rw [same, same_list]
      exact good.ne_nil

theorem operationList_foldlM {xs : List Definition} (h : xs.foldlM add a = .ok a') (good : a.Good) :
    a'.operationList = a.operationList ++ xs.filterMap Definition.operation? ∧ a'.Good := by
  induction xs generalizing a with
  | nil =>
    obtain rfl : a = a' := Except.ok.inj h
    exact ⟨by simp, good⟩
  | cons x rest ih =>
    rw [List.foldlM_cons] at h
    obtain ⟨middle, first, later⟩ := bind_eq_ok_iff.mp h
    obtain ⟨added, good⟩ := operationList_add first good
    obtain ⟨all, good⟩ := ih later good
    refine ⟨?_, good⟩
    rw [all, added, List.append_assoc]
    cases h : x.operation? <;> simp [h]

theorem operationList_finish {d : Document} (h : a.finish = .ok d) (good : a.Good) :
    d.operationList = a.operationList ∧ d.operationList ≠ [] := by
  unfold finish at h
  split at h
  · cases h
  · rename_i operations found
    obtain rfl := Except.ok.inj h
    have same : operations.toList = a.operationList := by simp [operationList, found]
    refine ⟨same, ?_⟩
    show operations.toList ≠ []
    rw [same]
    exact good.ne_nil (by simp [found])

end Assembly

/-- The operations of a text's document are those that were read, in the order of the text. -/
theorem operationList_of_parse {text : String} {d : Document} (h : parse text = .ok d) :
    ∃ written, Layout text.toList text.toList written ∧
      d.operationList = (written.map (·.2)).filterMap Definition.operation? ∧
      Serving.OneForEachName d ∧ d.operationList ≠ [] := by
  obtain ⟨all, a, read, -, together, finished⟩ := exists_definitions_of_parse h
  obtain ⟨written, layout, rfl⟩ := exists_layout read
  obtain ⟨operations, good⟩ := Assembly.operationList_foldlM together Assembly.good_empty
  obtain ⟨same, ne_nil⟩ := Assembly.operationList_finish finished good
  refine ⟨written, layout, same.trans operations, ?_, ne_nil⟩
  unfold Serving.OneForEachName
  rw [same]
  exact good.nodup

end GraphQL

namespace Request

open GraphQL Serving

variable {d : Document} {o x : NamedOperation}

/-! ## The operation that is taken for the first -/

theorem foldl_earlier_eq_or_before (o : NamedOperation) (rest : List NamedOperation) :
    rest.foldl earlier o = o ∨ (rest.foldl earlier o).2.position.before o.2.position = true := by
  induction rest generalizing o with
  | nil => exact .inl rfl
  | cons b rest ih =>
    rw [List.foldl_cons]
    by_cases h : b.2.position.before o.2.position = true
    · have kept : earlier o b = b := by simp [earlier, h]
      rw [kept]
      rcases ih b with same | before
      · exact .inr (by rw [same]; exact h)
      · rw [before_iff] at before h
        exact .inr ((before_iff _ _).mpr (by omega))
    · have kept : earlier o b = o := by simp [earlier, h]
      rw [kept]
      exact ih o

/-- The operation that comes before all others is found to be the first. -/
theorem firstOperation?_of_before {os : List NamedOperation} (ho : o ∈ os)
    (before : ∀ x ∈ os, x ≠ o → o.2.position.before x.2.position = true) :
    firstOperation? os = some o := by
  cases os with
  | nil => cases ho
  | cons b rest =>
    obtain ⟨among, first⟩ := foldl_earlier_spec b rest
    by_contra h
    have other : rest.foldl earlier b ≠ o := fun same => h (congrArg some same)
    exact first o ho (before _ among other)

/-- A document can keep its operations so that it comes upon a given one before all others. -/
theorem exists_perm_starting_with (hx : x ∈ d.operationList) :
    ∃ d' : Document, d'.operationList.Perm d.operationList ∧
      ∃ rest, d'.operationList = x :: rest := by
  obtain ⟨operations, fragments⟩ := d
  cases operations with
  | single o =>
    obtain rfl := List.mem_singleton.mp hx
    exact ⟨_, .refl _, [], rfl⟩
  | named os =>
    obtain ⟨⟨name, o⟩, ho, rfl⟩ := List.mem_map.mp hx
    obtain ⟨before, after, rfl⟩ := List.append_of_mem ho
    refine ⟨⟨.named ((name, o) :: (before ++ after)), fragments⟩, ?_, _, rfl⟩
    unfold Document.operationList Operations.toList
    exact List.perm_middle.symm.map _

/-- Of a document's operations, no two are described alike. -/
theorem detailsOf_injective (one : OneForEachName d) (ho : o ∈ d.operationList)
    (hx : x ∈ d.operationList) (same : detailsOf x = detailsOf o) : x = o := by
  refine List.inj_on_of_nodup_map one hx ho ?_
  have names : x.1.getD "anonymous" = o.1.getD "anonymous" := congrArg Prod.fst same
  obtain ⟨operations, fragments⟩ := d
  cases operations with
  | single o' =>
    obtain rfl := List.mem_singleton.mp ho
    obtain rfl := List.mem_singleton.mp hx
    rfl
  | named os =>
    obtain ⟨⟨_, _⟩, _, rfl⟩ := List.mem_map.mp ho
    obtain ⟨⟨_, _⟩, _, rfl⟩ := List.mem_map.mp hx
    exact congrArg some names

/-- A request that names no operation of the document is about an operation, in whatever order the
document keeps them, exactly if this one comes before all others. -/
theorem operationDetails_eq_iff_before (one : OneForEachName d) (ho : o ∈ d.operationList)
    {requested : Option String} (undefined : ∀ name ∈ requested, d.operation? name = none) :
    (∀ d' : Document, d'.operationList.Perm d.operationList →
      operationDetails (some d') requested = detailsOf o) ↔
      ∀ x ∈ d.operationList, x ≠ o → o.2.position.before x.2.position = true := by
  have details {d' : Document} (perm : d'.operationList.Perm d.operationList) :
      operationDetails (some d') requested =
        (firstOperation? d'.operationList).elim (requested.getD "unknown", .unknown) detailsOf := by
    have one' : OneForEachName d' := (perm.map _).nodup_iff.mpr one
    have chosen : chosenOperation? d' requested = firstOperation? d'.operationList := by
      cases requested with
      | none => rfl
      | some name =>
        have missing : d'.operation? name = none :=
          (lookup_eq_of_perm perm one' _).trans (undefined name rfl)
        simp [chosenOperation?, missing]
    unfold operationDetails
    rw [Option.bind_some, chosen]
    cases firstOperation? d'.operationList <;> rfl
  constructor
  · intro found x hx other
    obtain ⟨d', perm, rest, starts⟩ := exists_perm_starting_with hx
    have told := (details perm).symm.trans (found d' perm)
    rw [starts] at told
    have among : rest.foldl earlier x ∈ d.operationList :=
      perm.mem_iff.mp (starts ▸ (foldl_earlier_spec x rest).1)
    have same : rest.foldl earlier x = o := detailsOf_injective one ho among told
    rcases foldl_earlier_eq_or_before x rest with kept | before
    · exact absurd (kept.symm.trans same) other
    · rw [same] at before
      exact before
  · intro before d' perm
    rw [details perm, firstOperation?_of_before (perm.mem_iff.mpr ho) fun x hx other =>
      before x (perm.mem_iff.mp hx) other]
    rfl

/-! ## The operations of a text -/

/-- The operations among the definitions of a text, each with the place in bytes that it starts at. -/
def operationsAt (written : List (Nat × Definition)) : List (Nat × NamedOperation) :=
  written.filterMap fun p => p.2.operation?.map fun o => (p.1, o)

variable {written : List (Nat × Definition)} {k : Nat}

theorem mem_operationsAt_iff : (k, o) ∈ operationsAt written ↔ (k, .operation o.1 o.2) ∈ written := by
  unfold operationsAt
  rw [List.mem_filterMap]
  constructor
  · rintro ⟨⟨k', x⟩, hx, found⟩
    cases x with
    | operation name o' =>
      obtain ⟨rfl, rfl⟩ := Prod.mk.inj (Option.some.inj found)
      exact hx
    | fragment => cases found
  · intro here
    exact ⟨_, here, rfl⟩

theorem map_snd_operationsAt (written : List (Nat × Definition)) :
    (operationsAt written).map (·.2) = (written.map (·.2)).filterMap Definition.operation? := by
  unfold operationsAt
  rw [List.map_filterMap, List.filterMap_map]
  refine List.filterMap_congr fun p _ => ?_
  simp [Function.comp_def]

theorem operationsAt_increasing {text : List Char} (layout : Layout text text written) :
    (operationsAt written).Pairwise fun p q => p.1 < q.1 := by
  refine (layout.increasing (List.suffix_refl text)).1.filterMap _ fun p q less p' hp q' hq => ?_
  obtain ⟨o, -, rfl⟩ := Option.map_eq_some_iff.mp hp
  obtain ⟨o', -, rfl⟩ := Option.map_eq_some_iff.mp hq
  exact less

/-- What is laid out in a text that has a document is that document's operations, the first of them at
the least place. -/
theorem exists_first_operationsAt {text : String} (parsed : parse text = .ok d) :
    ∃ written, Layout text.toList text.toList written ∧
      (operationsAt written).map (·.2) = d.operationList ∧ OneForEachName d ∧
      ∃ k o rest, operationsAt written = (k, o) :: rest := by
  obtain ⟨written, layout, operations, one, ne_nil⟩ := operationList_of_parse parsed
  rw [← map_snd_operationsAt] at operations
  refine ⟨written, layout, operations.symm, one, ?_⟩
  cases h : operationsAt written with
  | nil =>
    rw [h] at operations
    exact absurd operations ne_nil
  | cons p rest => exact ⟨p.1, p.2, rest, rfl⟩

/-- The operation at the least place has the earliest position exactly if positions go on from it to
each of the others. -/
theorem before_iff_ahead_of_layout {text : List Char} (layout : Layout text text written)
    (operations : (operationsAt written).map (·.2) = d.operationList) (one : OneForEachName d)
    (ho : (k, o) ∈ operationsAt written) (least : ∀ p ∈ operationsAt written, k ≤ p.1) :
    (∀ x ∈ d.operationList, x ≠ o → o.2.position.before x.2.position = true) ↔
      ∀ p ∈ operationsAt written, k < p.1 → Ahead text k p.1 := by
  have position {j : Nat} {x : NamedOperation} (hx : (j, x) ∈ operationsAt written) :
      x.2.position = Position.after ⟨1, 1⟩ j text :=
    layout.position_of_mem (mem_operationsAt_iff.mp hx)
  have distinct : ((operationsAt written).map (·.2)).Nodup := operations ▸ one.of_map _
  have places : ((operationsAt written).map (·.1)).Nodup :=
    List.pairwise_map.mpr ((operationsAt_increasing layout).imp Nat.ne_of_lt)
  constructor
  · rintro before ⟨j, x⟩ hx later
    have other : x ≠ o := by
      rintro rfl
      have same := List.inj_on_of_nodup_map distinct ho hx rfl
      exact Nat.ne_of_lt later (congrArg Prod.fst same)
    have among : x ∈ d.operationList := operations ▸ List.mem_map_of_mem hx
    have goes_on := before x among other
    rw [position ho, position hx, before_iff_ahead (least _ hx)] at goes_on
    exact goes_on
  · intro ahead x hx other
    obtain ⟨⟨j, x⟩, here, rfl⟩ := List.mem_map.mp (operations ▸ hx)
    have not_sooner : k ≤ j := least _ here
    have later : k < j := by
      refine Nat.lt_of_le_of_ne not_sooner fun same => other ?_
      exact congrArg Prod.snd (List.inj_on_of_nodup_map places here ho same.symm)
    rw [position ho, position here, before_iff_ahead not_sooner]
    exact ahead _ here later

/-! ## The whole of it -/

/-- The operation that a text begins with is the one that a request is about which names none that the
document has, exactly if positions go on from it to every other operation. They do where a text
is of one-byte characters and has no carriage return but in front of a line feed, and where it has
none at all and does not have too many characters of several bytes before its first operation.

A text that has a document has operations, and is laid out in one way. -/
theorem the_first_operation_is_found_where_positions_go_on {text : String} {d : Document}
    (parsed : parse text = .ok d) :
    let cs := text.toList
    (∃ written, Layout cs cs written) ∧
    ∀ written, Layout cs cs written →
      ∃ k o, (k, o) ∈ operationsAt written ∧ (∀ p ∈ operationsAt written, k ≤ p.1) ∧
        (∀ requested, (∀ name ∈ requested, d.operation? name = none) →
          ((∀ d' : Document, d'.operationList.Perm d.operationList →
              operationDetails (some d') requested = (o.1.getD "anonymous", .known o.2.type)) ↔
            ∀ p ∈ operationsAt written, k < p.1 → Ahead cs k p.1)) ∧
        (OneByte cs ∧ ReturnsWithFeeds cs ∨ '\r' ∉ cs ∧ k < cs.length →
          ∀ p ∈ operationsAt written, k < p.1 → Ahead cs k p.1) := by
  intro cs
  obtain ⟨written, layout, operations, one, k, o, rest, starts⟩ := exists_first_operationsAt parsed
  refine ⟨⟨written, layout⟩, fun written' layout' => ?_⟩
  obtain rfl := layout.unique layout'
  have ho : (k, o) ∈ operationsAt written := by simp [starts]
  have least : ∀ p ∈ operationsAt written, k ≤ p.1 := by
    have increasing := operationsAt_increasing layout
    rw [starts] at increasing ⊢
    intro p hp
    rcases List.mem_cons.mp hp with rfl | hp
    · exact Nat.le_refl _
    · exact Nat.le_of_lt (List.rel_of_pairwise_cons increasing hp)
  refine ⟨k, o, ho, least, fun requested undefined => ?_, ?_⟩
  · rw [← before_iff_ahead_of_layout layout operations one ho least]
    exact operationDetails_eq_iff_before one (operations ▸ List.mem_map_of_mem ho) undefined
  · rintro (⟨oneByte, returns⟩ | ⟨no_return, inside⟩) ⟨j, x⟩ hx later
    · obtain ⟨c, here, solid⟩ := layout.exists_first_of_mem oneByte (mem_operationsAt_iff.mp hx)
      exact ahead_of_returnsWithFeeds later here solid returns
    · exact ahead_of_no_return later inside no_return

/-- A comment with a character of two bytes, which takes the position of the operation behind it too
far ahead, but not back. -/
theorem first_before_a_wide_comment :
    let text := "query B\x7bb\x7d #é\nmutation A\x7ba\x7d"
    let b : Operation :=
      { type := .query, opening := ⟨1, 8⟩
        selections := [.field { position := ⟨1, 9⟩, name := "b" } []] }
    let a : Operation :=
      { type := .mutation, position := ⟨2, 2⟩, opening := ⟨2, 12⟩
        selections := [.field { position := ⟨2, 13⟩, name := "a" } []] }
    let d : Document := ⟨.named [("B", b), ("A", a)], []⟩
    parse text = .ok d ∧ ∀ d' : Document, d'.operationList.Perm d.operationList →
      operationDetails (some d') (some "C") = ("B", .known .query) := by
  intro text b a d
  have first : definition (place text.toList) text.toList =
    some (.operation (some "B") b, " #é\nmutation A\x7ba\x7d".toList) := by decide +kernel
  have second : definition (place text.toList) " #é\nmutation A\x7ba\x7d".toList =
    some (.operation (some "A") a, []) := by decide +kernel
  have starts : startOf text.toList text.toList = 0 := by decide +kernel
  have starts' : startOf text.toList " #é\nmutation A\x7ba\x7d".toList = 15 := by decide +kernel
  have layout := Layout.next first (.next second (.done rfl))
  rw [starts, starts'] at layout
  have parsed : parse text = .ok d := by decide +kernel
  obtain ⟨k, o, ho, least, found, ahead⟩ :=
    (the_first_operation_is_found_where_positions_go_on parsed).2 _ layout
  obtain ⟨rfl, rfl⟩ : k = 0 ∧ o = (some "B", b) := by
    have sooner := least (0, some "B", b) (by simp [operationsAt, Definition.operation?])
    simpa [operationsAt, Definition.operation?, Nat.le_zero.mp sooner] using ho
  have plain : '\r' ∉ text.toList ∧ 0 < text.toList.length := by decide
  exact ⟨parsed, (found (some "C") (by decide)).mpr (ahead (.inr plain))⟩

/-- A carriage return that stands alone ends the line of a comment, and does not count as the end of one
for positions: behind it, an operation has an earlier position than the one before it. -/
theorem a_carriage_return_hides_the_first_operation :
    let text := " query A\x7ba\x7d\rmutation B\x7bb\x7d"
    let a : Operation :=
      { type := .query, position := ⟨1, 2⟩, opening := ⟨1, 9⟩
        selections := [.field { position := ⟨1, 10⟩, name := "a" } []] }
    let b : Operation :=
      { type := .mutation, opening := ⟨1, 11⟩
        selections := [.field { position := ⟨1, 12⟩, name := "b" } []] }
    let d : Document := ⟨.named [("A", a), ("B", b)], []⟩
    parse text = .ok d ∧
    Layout text.toList text.toList [(1, .operation (some "A") a), (12, .operation (some "B") b)] ∧
    ∀ d' : Document, d'.operationList.Perm d.operationList →
      operationDetails (some d') none = ("B", .known .mutation) := by
  intro text a b d
  have first : definition (place text.toList) text.toList =
    some (.operation (some "A") a, "\rmutation B\x7bb\x7d".toList) := by decide +kernel
  have second : definition (place text.toList) "\rmutation B\x7bb\x7d".toList =
    some (.operation (some "B") b, []) := by decide +kernel
  have starts : startOf text.toList text.toList = 1 := by decide +kernel
  have starts' : startOf text.toList "\rmutation B\x7bb\x7d".toList = 12 := by decide +kernel
  have laid_out := Layout.next first (.next second (.done rfl))
  rw [starts, starts'] at laid_out
  have one : OneForEachName d := by
    unfold OneForEachName
    decide
  have parsed : parse text = .ok d := by decide +kernel
  have operations : d.operationList = [(some "A", a), (some "B", b)] := rfl
  have earliest : ∀ x ∈ d.operationList, x ≠ (some "B", b) →
      b.position.before x.2.position = true := by
    intro x hx other
    rw [operations, List.mem_pair] at hx
    rcases hx with rfl | rfl
    · decide
    · exact absurd rfl other
  have among : (some "B", b) ∈ d.operationList := by simp [operations]
  exact ⟨parsed, laid_out, (operationDetails_eq_iff_before one among (by simp)).mpr earliest⟩

end Request

end QueryGate
