import RenderCatalog.Proofs.Schema.Compiled

/-!
# The round trip of an index

An index is written in two styles, and both texts are read as the index that was written: `Index.ofText_toValue` says so for
every index whose tables are in order and that nests no deeper than a text may, which are in particular the indexes that are
compiled and those that were read. So whatever spelling a text uses, what it was read as is written in one that is read as
the same.
-/

namespace RenderCatalog

open Json (Value Style nestingLimit)

/-- An index reads the text of an index, and only that. -/
theorem Index.ofText_eq_ok_iff {text : String} {i : Index} : Index.ofText text = .ok i ↔ Stored.read text = .ok i := by
  rw [Index.ofText]
  exact mapError_eq_ok

/-- The index of the schemas of components. -/
def Index.compile (components : List Component) : Index := ⟨components.map Schema.compile⟩

/-- A compiled index is in order. -/
theorem Index.compile_ordered (components : List Component) : (Index.compile components).Ordered := by
  intro s hs
  obtain ⟨c, -, rfl⟩ := List.mem_map.1 hs
  exact Schema.compile_ordered c

/-- An index nests two deeper than its schemas. -/
theorem Index.depth_le {i : Index} {n : Nat} (h : ∀ s ∈ i.schemas, s.toValue.depth ≤ n) : i.toValue.depth ≤ n + 2 := by
  refine depth_object_le ?_
  simp only [List.forall_mem_singleton]
  refine depth_array_le fun v hv => ?_
  obtain ⟨s, hs, rfl⟩ := List.mem_map.1 hv
  exact h s hs

/-- A compiled index nests no deeper than a text may. -/
theorem Index.compile_depth_le (components : List Component) : (Index.compile components).toValue.depth ≤ nestingLimit := by
  refine (Index.depth_le (n := 9) fun s hs => ?_).trans (by decide)
  obtain ⟨c, -, rfl⟩ := List.mem_map.1 hs
  exact Schema.compile_depth_le c

/-- A component nests three deep. -/
theorem Component.depth_le (c : Component) : c.toValue.depth ≤ nestingLimit := by
  have hprops : (Value.array (c.props.map (·.toValue))).depth ≤ 2 := by
    refine depth_array_le fun v hv => ?_
    obtain ⟨p, -, rfl⟩ := List.mem_map.1 hv
    refine depth_object_le ?_
    simp [Value.depth]
  have hvalue : c.toValue.depth ≤ 3 := by
    refine depth_object_le ?_
    simp only [List.forall_mem_cons]
    exact ⟨by simp [Value.depth], by simp [Value.depth], by simp [Value.depth], by simp [Value.depth], hprops, by simp⟩
  exact hvalue.trans (by decide)

/-- What is stored is read back from its text on one line. -/
theorem Stored.read_compact {α : Type} [Stored α] {ordered : α → Prop}
    (h : Faithful (Stored.shape α) Stored.toValue Stored.ofValue? ordered) {a : α} (ha : ordered a)
    (hd : (Stored.toValue a).depth ≤ nestingLimit) : Stored.read (Stored.toValue a).compact = .ok a := by
  have := Stored.read_render h ha hd Style.compact_blank [] (by simp)
  rwa [List.append_nil] at this

/-- What is stored is read back from its text with one part a line. -/
theorem Stored.read_pretty {α : Type} [Stored α] {ordered : α → Prop}
    (h : Faithful (Stored.shape α) Stored.toValue Stored.ofValue? ordered) {a : α} (ha : ordered a)
    (hd : (Stored.toValue a).depth ≤ nestingLimit) : Stored.read (Stored.toValue a).pretty = .ok a := by
  have := Stored.read_render h ha hd Style.indented_blank [] (by simp)
  rwa [List.append_nil] at this

/-- What is written is read back. An index whose tables are in order and that nests no deeper than a text may is read from both
of its texts as it was; compiled indexes are such, and so is every index that was read, from whatever text. Definitions and
components are read back from their texts on one line; a component is never too deep. So what any accepted text is read as is
written in a text that is read as the same. -/
theorem Index.ofText_toValue :
    (∀ i : Index, i.Ordered → i.toValue.depth ≤ nestingLimit →
      Index.ofText i.toValue.pretty = .ok i ∧ Index.ofText i.toValue.compact = .ok i) ∧
    (∀ components, (Index.compile components).Ordered ∧ (Index.compile components).toValue.depth ≤ nestingLimit) ∧
    (∀ text i, Index.ofText text = .ok i → i.Ordered ∧ i.toValue.depth ≤ nestingLimit) ∧
    (∀ d : Definition, d.Ordered → d.toValue.depth ≤ nestingLimit → Stored.read d.toValue.compact = .ok d) ∧
    (∀ c : Component, Stored.read c.toValue.compact = .ok c) ∧
    (∀ text i, Index.ofText text = .ok i → Index.ofText i.toValue.pretty = .ok i) := by
  have hread : ∀ text i, Index.ofText text = .ok i → i.Ordered ∧ i.toValue.depth ≤ nestingLimit :=
    fun text i h => Stored.ordered_of_read Index.faithful (Index.ofText_eq_ok_iff.1 h)
  have hpretty : ∀ i : Index, i.Ordered → i.toValue.depth ≤ nestingLimit → Index.ofText i.toValue.pretty = .ok i :=
    fun i hi hd => Index.ofText_eq_ok_iff.2 (Stored.read_pretty Index.faithful hi hd)
  refine ⟨fun i hi hd => ⟨hpretty i hi hd, ?_⟩, fun components => ?_, hread, fun d hd hdepth => ?_, fun c => ?_,
    fun text i h => ?_⟩
  · exact Index.ofText_eq_ok_iff.2 (Stored.read_compact Index.faithful hi hd)
  · exact ⟨Index.compile_ordered components, Index.compile_depth_le components⟩
  · exact Stored.read_compact Definition.faithful hd hdepth
  · exact Stored.read_compact Component.faithful trivial c.depth_le
  · obtain ⟨hi, hd⟩ := hread text i h
    exact hpretty i hi hd

/-- A text of an index that writes its records as lists, the category as an object and a missing description as null, and whose
table has its keys in another order. -/
def respelledText : String :=
  "[[[\"A\",\"A\",\x7b\"general\":null\x7d,\"\",[],[\"render_a\",\"\"," ++
    "[\"object\",\x7b\"b\":[\"string\"],\"a\":[\"number\",null]\x7d,[]]]]]]"

/-- The index that the text writes. -/
def respelledIndex : Index :=
  ⟨[{ title := "A", component := "A", category := .general, description := "", properties := []
      tool := ⟨"render_a", "", { properties := [("a", { type := .number }), ("b", { type := .string })], required := [] }⟩ }]⟩

/-- The index is read from the text and from both of its own, and the definition of the points of a chart, a closed object, is
read from its own. -/
theorem Index.ofText_respelledText :
    Index.ofText respelledText = .ok respelledIndex ∧ respelledIndex.Ordered ∧
      respelledIndex.toValue.depth ≤ nestingLimit ∧
      (Index.ofText respelledIndex.toValue.pretty = .ok respelledIndex ∧
        Index.ofText respelledIndex.toValue.compact = .ok respelledIndex) ∧
      Stored.read (Vocabulary.itemDefinition "data").toValue.compact = .ok (Vocabulary.itemDefinition "data") := by
  have hread : Index.ofText respelledText = .ok respelledIndex := by cbv
  have hordered : respelledIndex.Ordered := by
    intro s hs
    obtain rfl := List.mem_singleton.1 hs
    have hrising := Json.rising_sortEntries [("b", ({ type := .string } : Definition)), ("a", { type := .number })]
    refine ⟨by simp, hrising, fun e he => ?_⟩
    rcases List.mem_pair.1 he with rfl | rfl <;> exact Definition.ordered_of_plain rfl rfl
  have hdepth : respelledIndex.toValue.depth ≤ nestingLimit := by decide
  obtain ⟨hboth, -, -, hdefinition, -, -⟩ := Index.ofText_toValue
  exact ⟨hread, hordered, hdepth, hboth _ hordered hdepth,
    hdefinition _ (Vocabulary.itemDefinition_ordered "data") ((Vocabulary.itemDefinition_depth_le "data").trans (by decide))⟩

end RenderCatalog
