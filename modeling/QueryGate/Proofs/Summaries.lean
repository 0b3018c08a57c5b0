-- What is logged of a response's errors is one line of JSON, and all of it
-- can be read back: what a message or a path holds stays inside of its
-- quotes, whatever it looks like, so no two lists of errors look the same.
import QueryGate.Proofs.Spelling
import QueryGate.Proofs.StageLines

namespace QueryGate

/-! ## No control characters -/

namespace Json

/-- No character is a control character below the space. -/
def NoControl (cs : List Char) : Prop := ∀ c ∈ cs, 0x20 ≤ c.toNat

@[simp] theorem noControl_nil : NoControl [] := nofun

@[simp] theorem noControl_cons {c : Char} {cs : List Char} :
    NoControl (c :: cs) ↔ 0x20 ≤ c.toNat ∧ NoControl cs := List.forall_mem_cons

@[simp] theorem noControl_append {cs ds : List Char} :
    NoControl (cs ++ ds) ↔ NoControl cs ∧ NoControl ds := List.forall_mem_append

theorem noControl_replicate {c : Char} (h : 0x20 ≤ c.toNat) (n : Nat) :
    NoControl (List.replicate n c) := by
  intro b hb
  rw [List.eq_of_mem_replicate hb]
  exact h

theorem NoControl.sublist {cs ds : List Char} (free : NoControl ds) (h : cs.Sublist ds) :
    NoControl cs := fun c hc => free c (h.subset hc)

theorem noControl_toDigits (n : Nat) : NoControl (Nat.toDigits 10 n) := by
  intro c hc
  have digit := Nat.isDigit_of_mem_toDigits (by decide) (by decide) hc
  have low : '0'.toNat ≤ c.toNat := (Char.isDigit_iff_toNat.mp digit).1
  exact Nat.le_trans (by decide) low

theorem le_digitChar : ∀ k < 16, 0x20 ≤ (Nat.digitChar k).toNat := by decide

theorem noControl_hexPair {n : Nat} (control : n < 0x20) : NoControl (hexPair n) := by
  have high := le_digitChar (n / 16) (by omega)
  have low := le_digitChar (n % 16) (by omega)
  simp [hexPair, high, low]

theorem noControl_escapedChar (c : Char) : NoControl (escapedChar c) := by
  have way := escaping_escapedChar c
  generalize escapedChar c = written at way
  cases way with
  | named _ printable => simp [printable]
  | numbered control => simp [noControl_hexPair control]
  | plain _ _ printable => simp [printable]

theorem noControl_stringChars (s : String) : NoControl (stringChars s) := by
  have inside : NoControl (s.toList.flatMap escapedChar) := by
    intro c hc
    obtain ⟨b, -, hb⟩ := List.mem_flatMap.mp hc
    exact noControl_escapedChar b c hb
  simp [stringChars, inside]

theorem noControl_plainText (layout : DecimalLayout) {ds : List Char} (lead : Int)
    (free : NoControl ds) : NoControl (layout.plainText ds lead) := by
  have zeros (n : Nat) : NoControl (List.replicate n '0') := noControl_replicate (by decide) n
  have front (n : Nat) : NoControl (ds.take n) := free.sublist (List.take_sublist n ds)
  have back (n : Nat) : NoControl (ds.drop n) := free.sublist (List.drop_sublist n ds)
  unfold DecimalLayout.plainText
  dsimp only
  split
  · simp [zeros, free]
  · split
    · split <;> simp [zeros, free]
    · simp [front, back]

theorem noControl_scientificText {ds : List Char} (lead : Int) (free : NoControl ds) :
    NoControl (DecimalLayout.scientificText ds lead) := by
  have front (n : Nat) : NoControl (ds.take n) := free.sublist (List.take_sublist n ds)
  have back : NoControl ds.tail := free.sublist (List.tail_sublist ds)
  unfold DecimalLayout.scientificText
  dsimp only
  split <;> split <;> simp [front, back, noControl_toDigits]

theorem noControl_ofDouble (layout : DecimalLayout) (d : Double) :
    NoControl (layout.ofDouble d) := by
  have digits := noControl_toDigits d.shortest.digits
  have body : NoControl (layout.text d.shortest) := by
    unfold DecimalLayout.text
    dsimp only
    split
    · exact noControl_plainText layout _ digits
    · exact noControl_scientificText _ digits
  unfold DecimalLayout.ofDouble
  dsimp only
  split
  · simp [body]
  · exact body

theorem noControl_numberChars (n : Number) : NoControl (numberChars n) := by
  rcases n with (n | n) | d
  · exact noControl_toDigits n
  · simp [numberChars, intChars, noControl_toDigits]
  · exact noControl_ofDouble doubleLayout d

mutual

theorem noControl_chars : ∀ j : Json, NoControl (chars j)
  | .null => by simp [chars]
  | .bool true => by simp [chars]
  | .bool false => by simp [chars]
  | .number n => noControl_numberChars n
  | .string s => noControl_stringChars s
  | .array items => by simp [chars, noControl_itemsChars items]
  | .object members => by simp [chars, noControl_membersChars members]

theorem noControl_itemsChars : ∀ items : List Json, NoControl (itemsChars items)
  | [] => noControl_nil
  | [j] => noControl_chars j
  | j :: next :: rest => by
    simp [itemsChars, noControl_chars j, noControl_itemsChars (next :: rest)]

theorem noControl_membersChars : ∀ members : List (String × Json), NoControl (membersChars members)
  | [] => noControl_nil
  | [(name, j)] => by simp [membersChars, noControl_stringChars name, noControl_chars j]
  | (name, j) :: next :: rest => by
    simp [membersChars, noControl_stringChars name, noControl_chars j,
      noControl_membersChars (next :: rest)]

end

end Json

/-! ## Summaries -/

namespace Answer

/-- The places that a path leads to in lists are numbers of 64 bits. -/
def Placed (errors : List ServerError) : Prop :=
  ∀ e ∈ errors, ∀ n, .index n ∈ e.path → n < UInt64.size

/-- What a summary tells of an error. -/
def ServerError.told (e : ServerError) : String × List PathSegment := (e.message, e.path)

theorem PathSegment.toJson_injective : Function.Injective PathSegment.toJson := by
  rintro (name | n) (name' | n') same
  · exact congrArg PathSegment.key (Json.string.inj same)
  · cases same
  · cases same
  · exact congrArg PathSegment.index (Int.ofNat.inj (Number.int.inj (Json.number.inj same)))

theorem told_eq_of_summary_eq {e e' : ServerError} (same : e.summary = e'.summary) :
    e.told = e'.told := by
  simp only [ServerError.summary, pathJson, Json.object.injEq, List.cons.injEq, Prod.mk.injEq,
    Json.string.injEq, Json.array.injEq, true_and, and_true] at same
  exact Prod.ext same.1 (List.map_injective_iff.mpr PathSegment.toJson_injective same.2)

theorem whole_segment {segment : PathSegment} (fits : ∀ n, segment = .index n → n < UInt64.size) :
    Json.Whole segment.toJson := by
  rcases segment with name | n
  · trivial
  · exact Json.inRange_ofNat (fits n rfl)

theorem whole_summary {e : ServerError} (placed : ∀ n, .index n ∈ e.path → n < UInt64.size) :
    Json.Whole e.summary := by
  have path : Json.WholeItems (e.path.map PathSegment.toJson) := by
    rw [Json.wholeItems_iff, List.forall_mem_map]
    rintro segment here
    exact whole_segment fun n same => placed n (same ▸ here)
  exact ⟨trivial, path, trivial⟩

theorem whole_summaries {errors : List ServerError} (placed : Placed errors) :
    Json.Whole (.array (errors.map ServerError.summary)) := by
  refine Json.wholeItems_iff.mpr ?_
  rw [List.forall_mem_map]
  exact fun e here => whole_summary (placed e here)

theorem read?_summarize {errors : List ServerError} (placed : Placed errors) :
    Json.read? (summarize errors) = some (.array (errors.map ServerError.summary)) :=
  Json.read?_compact (whole_summaries placed)

end Answer

/-! ## The line about errors -/

namespace Serving

open Answer Log Request

/-- Whatever messages and paths a response's errors have, their summary holds no control character, and
it is JSON of one array that tells of each error in turn its message and the segments of its path,
names as texts and places as whole numbers. So no two lists of errors that tell of something else
have the same summary. It is what stands in the line about the end of the operation. -/
theorem summaries_lose_nothing (errors : List ServerError) :
    (∀ c ∈ (summarize errors).toList, 0x20 ≤ c.toNat) ∧
    (Placed errors → Json.read? (summarize errors) = some (.array (errors.map fun e =>
      .object [("message", .string e.message), ("path", .array (e.path.map fun
        | .key name => .string name
        | .index n => .number (.int n)))]))) ∧
    (∀ others, Placed errors → Placed others → summarize errors = summarize others →
      errors.map ServerError.told = others.map ServerError.told) ∧
    (∀ (st : GatewayState) (next : Handler) (ctx : RequestContext) (w : World) (data : Json),
      let r := (next.run ctx).run w
      r.1.1 = .ok { data, errors } → errors ≠ [] →
      let t := timedBy st ctx.trace w.now
      let duration := durationText (r.2.now - t.start)
      let line : Event :=
        { level := .warn
          message := "GraphQL " ++ t.kind.text ++ " " ++ t.name ++ " completed with errors in " ++
            duration ++ "ms"
          fields := [("duration_ms", duration), ("errors", summarize errors)]
          spans := t.span.path }
      ((timing st next).run ctx).run w =
        (r.1, { r.2 with journal := r.2.journal ++ [.event line] })) := by
  refine ⟨?_, fun placed => ?_, fun others placed placed' same => ?_, ?_⟩
  · rw [summarize, Json.compact, String.toList_ofList]
    exact Json.noControl_chars _
  · have segment : PathSegment.toJson = fun
        | .key name => .string name
        | .index n => .number (.int n) := by
      funext s
      cases s <;> rfl
    rw [read?_summarize placed, ← segment]
    rfl
  · have read := read?_summarize placed
    rw [same, read?_summarize placed', Option.some.injEq, Json.array.injEq] at read
    obtain ⟨back, told_eq⟩ := (Function.factorsThrough_iff ServerError.told).mp
      fun e e' (same : e.summary = e'.summary) => told_eq_of_summary_eq same
    rw [told_eq, ← List.map_map, ← List.map_map, read]
  · intro st next ctx w data r ended nonempty t duration line
    have failed : Response.hasErrors { data, errors } = true := by
      simpa [Response.hasErrors] using nonempty
    have concluding : concludingLine t r.1.1 (r.2.now - t.start) = line := by
      rw [ended]
      exact if_pos failed
    calc ((timing st next).run ctx).run w
        = (r.1, logged r.2 (concludingLine t r.1.1 (r.2.now - t.start))) := timing_run st next ctx w
      _ = (r.1, logged r.2 line) := by rw [concluding]

/-- A message that goes on after its own quotes as if another error followed: it is told of one error,
and so is the line feed in its path. -/
theorem one_error_that_looks_like_two :
    let two : List ServerError := [{ message := "a" }, { message := "b" }]
    let one : List ServerError :=
      [{ message := "a\",\"path\":[]\x7d,\x7b\"message\":\"b", path := [.key "\n", .index 7] }]
    let st : GatewayState := { limits := {}, validator := complexityValidator {} }
    let served := ((timing st (pure (.ok { errors := one }))).run {}).run { ids := toString }
    Placed two ∧ Placed one ∧
    (∀ c ∈ (summarize one).toList, 0x20 ≤ c.toNat) ∧
    Json.read? (summarize one) = some (.array [.object
      [("message", .string "a\",\"path\":[]\x7d,\x7b\"message\":\"b"),
        ("path", .array [.string "\n", .number (.int 7)])]]) ∧
    summarize two ≠ summarize one ∧
    served.2.journal.map (fun | .event e => e.fields.lookup "errors" | .note _ => none) =
      [some (summarize one)] := by
  intro two one st served
  have placed_two : Placed two := by simp [Placed, two]
  have placed_one : Placed one := by simp [Placed, one, UInt64.size]
  obtain ⟨noControl, read, -, logs⟩ := summaries_lose_nothing one
  obtain ⟨-, -, differs, -⟩ := summaries_lose_nothing two
  refine ⟨placed_two, placed_one, noControl, read placed_one, fun same => ?_, ?_⟩
  · have told := differs one placed_two placed_one same
    simp [two, one] at told
  · have run : served = _ := logs st _ {} { ids := toString } .null rfl (by simp [one])
    rw [run]
    rfl

end Serving

end QueryGate
