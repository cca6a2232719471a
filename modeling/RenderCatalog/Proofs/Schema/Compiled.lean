import RenderCatalog.Proofs.Schema.Stored
import RenderCatalog.Schema.Compile

/-!
# Compiled schemas are in order

The tables of a compiled schema are sorted, and its definitions nest two deep at most: a list prop has items, and the items
may be closed objects with plain fields. So what stands for a compiled schema nests nine deep at most
(`Schema.compile_depth_le`), however many props the component has.
-/

namespace RenderCatalog

open Json (Value)

/-! ## Order -/

/-- A definition without items and fields is in order. -/
theorem Definition.ordered_of_plain {d : Definition} (items : d.items = none) (fields : d.properties = none) : d.Ordered :=
  .intro (by simp [items]) (by simp [fields]) (by simp [fields])

/-- A closed object is in order. -/
theorem Vocabulary.closedObject_ordered (fields : List Vocabulary.ItemField) :
    (Vocabulary.closedObject fields).Ordered := by
  refine .intro (by simp [Vocabulary.closedObject]) ?_ ?_
  · intro table ht
    simp only [Vocabulary.closedObject, Option.some.injEq] at ht
    subst ht
    exact Json.rising_sortEntries _
  · intro table ht e he
    simp only [Vocabulary.closedObject, Option.some.injEq] at ht
    subst ht
    obtain ⟨f, -, rfl⟩ := List.mem_map.1 (Json.mem_sortEntries he)
    exact Definition.ordered_of_plain rfl rfl

/-- The items of every list prop are in order. -/
theorem Vocabulary.itemDefinition_ordered (name : String) : (Vocabulary.itemDefinition name).Ordered := by
  unfold Vocabulary.itemDefinition
  cases Vocabulary.shape? name with
  | none => exact Definition.ordered_of_plain rfl rfl
  | some shape =>
    cases shape with
    | chartDataPoint => exact Vocabulary.closedObject_ordered _
    | tableColumn => exact Vocabulary.closedObject_ordered _
    | tableRow => exact Definition.ordered_of_plain rfl rfl

/-- The items of a property are those of its name. -/
theorem Schema.items_propertyOf {p : DescribedProp} {d : Definition} (h : (Schema.propertyOf p).items = some d) :
    d = Vocabulary.itemDefinition p.name := by
  simp only [Schema.propertyOf] at h
  split at h
  · exact (Option.some.inj h).symm
  · cases h

/-- Every parameter of a compiled schema is the definition of one of its properties, which is that of a prop. -/
theorem Schema.mem_compile_properties {c : Component} {e : String × Definition}
    (h : e ∈ (Schema.compile c).tool.parameters.properties) :
    ∃ p ∈ c.props, e.2 = Schema.definitionOf (Schema.propertyOf p) := by
  obtain ⟨q, hq, rfl⟩ := List.mem_map.1 (Json.mem_sortEntries h)
  obtain ⟨p, hp, rfl⟩ := List.mem_map.1 hq
  exact ⟨p, hp, rfl⟩

/-- A compiled schema is in order. -/
theorem Schema.compile_ordered (c : Component) : (Schema.compile c).Ordered := by
  refine ⟨fun q hq d hd => ?_, Json.rising_sortEntries _, fun e he => ?_⟩
  · obtain ⟨p, -, rfl⟩ := List.mem_map.1 hq
    rw [Schema.items_propertyOf hd]
    exact Vocabulary.itemDefinition_ordered p.name
  · obtain ⟨p, -, hp⟩ := Schema.mem_compile_properties he
    rw [hp]
    refine .intro (fun d hd => ?_) nofun nofun
    rw [Schema.items_propertyOf hd]
    exact Vocabulary.itemDefinition_ordered p.name

/-! ## Depth -/

/-- A list of texts nests one deep. -/
theorem depth_ofStrings (texts : List String) : (Value.ofStrings texts).depth ≤ 1 := by
  rw [Value.ofStrings, Value.depth, Nat.add_le_add_iff_right, Json.depthOfItems_le_iff]
  intro v hv
  obtain ⟨s, -, rfl⟩ := List.mem_map.1 hv
  simp [Value.depth]

/-- An object nests one deeper than its values. -/
theorem depth_object_le {entries : List (String × Value)} {n : Nat} (h : ∀ e ∈ entries, e.2.depth ≤ n) :
    (Value.object entries).depth ≤ n + 1 := by
  rw [Value.depth, Nat.add_le_add_iff_right, Json.depthOfEntries_le_iff]
  exact h

/-- A list nests one deeper than its items. -/
theorem depth_array_le {items : List Value} {n : Nat} (h : ∀ v ∈ items, v.depth ≤ n) :
    (Value.array items).depth ≤ n + 1 := by
  rw [Value.depth, Nat.add_le_add_iff_right, Json.depthOfItems_le_iff]
  exact h

/-- The entry of an optional field nests as deep as its value. -/
theorem depth_optionalEntry_le {α : Type} {key : String} {toValue : α → Value} {o : Option α} {n : Nat}
    (h : ∀ a, o = some a → (toValue a).depth ≤ n) : ∀ e ∈ optionalEntry key toValue o, e.2.depth ≤ n := by
  intro e he
  cases o with
  | none => simp [optionalEntry] at he
  | some a =>
    obtain rfl : e = (key, toValue a) := by simpa [optionalEntry] using he
    exact h a rfl

/-- A table nests one deeper than its definitions. -/
theorem depth_tableValue_le {table : List (String × Definition)} {n : Nat} (h : ∀ e ∈ table, e.2.toValue.depth ≤ n) :
    (tableValue table).depth ≤ n + 1 := by
  rw [tableValue, definitionsValue_eq_map]
  refine depth_object_le fun e he => ?_
  obtain ⟨a, ha, rfl⟩ := List.mem_map.1 he
  exact h a ha

/-- A definition nests one deeper than its items and its fields. -/
theorem Definition.depth_le {d : Definition} {n : Nat} (hn : 1 ≤ n)
    (items : ∀ item, d.items = some item → item.toValue.depth ≤ n)
    (fields : ∀ table, d.properties = some table → (tableValue table).depth ≤ n) : d.toValue.depth ≤ n + 1 := by
  rw [Definition.toValue_eq]
  refine depth_object_le ?_
  simp only [List.forall_mem_cons, List.forall_mem_append]
  refine ⟨?_, ?_, ?_, ?_, ?_, ?_, ?_, ?_, ?_, by simp⟩
  · simp [Value.depth]
  · exact depth_optionalEntry_le fun s _ => by simp [Value.depth]
  · exact depth_optionalEntry_le fun ss _ => (depth_ofStrings ss).trans hn
  · exact depth_optionalEntry_le fun n _ => by simp [integerValue, Value.ofInt, Value.depth]
  · exact depth_optionalEntry_le fun n _ => by simp [integerValue, Value.ofInt, Value.depth]
  · exact depth_optionalEntry_le items
  · exact depth_optionalEntry_le fields
  · exact depth_optionalEntry_le fun ss _ => (depth_ofStrings ss).trans hn
  · exact depth_optionalEntry_le fun b _ => by simp [Value.depth]

/-- A definition without items and fields nests two deep. -/
theorem Definition.depth_le_of_plain {d : Definition} (items : d.items = none) (fields : d.properties = none) :
    d.toValue.depth ≤ 2 :=
  Definition.depth_le le_rfl (by simp [items]) (by simp [fields])

/-- A closed object nests four deep. -/
theorem Vocabulary.closedObject_depth_le (fields : List Vocabulary.ItemField) :
    (Vocabulary.closedObject fields).toValue.depth ≤ 4 := by
  refine Definition.depth_le (by omega) (by simp [Vocabulary.closedObject]) fun table ht => ?_
  simp only [Vocabulary.closedObject, Option.some.injEq] at ht
  subst ht
  refine depth_tableValue_le fun e he => ?_
  obtain ⟨f, -, rfl⟩ := List.mem_map.1 (Json.mem_sortEntries he)
  exact Definition.depth_le_of_plain rfl rfl

/-- The items of a list prop nest four deep. -/
theorem Vocabulary.itemDefinition_depth_le (name : String) : (Vocabulary.itemDefinition name).toValue.depth ≤ 4 := by
  have hplain {d : Definition} (items : d.items = none) (fields : d.properties = none) : d.toValue.depth ≤ 4 :=
    (Definition.depth_le_of_plain items fields).trans (by omega)
  unfold Vocabulary.itemDefinition
  cases Vocabulary.shape? name with
  | none => exact hplain rfl rfl
  | some shape =>
    cases shape with
    | chartDataPoint => exact Vocabulary.closedObject_depth_le _
    | tableColumn => exact Vocabulary.closedObject_depth_le _
    | tableRow => exact hplain rfl rfl

/-- The property of a prop nests five deep. -/
theorem Schema.propertyOf_depth_le (p : DescribedProp) : (Schema.propertyOf p).toValue.depth ≤ 5 := by
  rw [Property.toValue]
  refine depth_object_le ?_
  simp only [List.forall_mem_cons, List.forall_mem_append]
  refine ⟨⟨⟨?_, ?_, ?_, ?_, by simp⟩, ?_⟩, ?_⟩
  any_goals simp [Value.depth]; done
  · exact depth_optionalEntry_le fun ss _ => (depth_ofStrings ss).trans (by omega)
  · refine depth_optionalEntry_le fun d hd => ?_
    rw [Schema.items_propertyOf hd]
    exact Vocabulary.itemDefinition_depth_le p.name

/-- The tool of a compiled schema nests eight deep. -/
theorem Schema.compile_tool_depth_le (c : Component) : (Schema.compile c).tool.toValue.depth ≤ 8 := by
  have htable : (tableValue (Schema.compile c).tool.parameters.properties).depth ≤ 6 := by
    refine depth_tableValue_le fun e he => ?_
    obtain ⟨p, -, hp⟩ := Schema.mem_compile_properties he
    rw [hp]
    refine Definition.depth_le (by omega) (fun d hd => ?_) nofun
    rw [Schema.items_propertyOf hd]
    exact Vocabulary.itemDefinition_depth_le p.name
  have hparameters : (Schema.compile c).tool.parameters.toValue.depth ≤ 7 := by
    refine depth_object_le ?_
    simp only [List.forall_mem_cons]
    exact ⟨by simp [Value.depth], htable, (depth_ofStrings _).trans (by omega), by simp⟩
  refine depth_object_le ?_
  simp only [List.forall_mem_cons]
  exact ⟨by simp [Value.depth], by simp [Value.depth], hparameters, by simp⟩

/-- A compiled schema nests nine deep. -/
theorem Schema.compile_depth_le (c : Component) : (Schema.compile c).toValue.depth ≤ 9 := by
  refine depth_object_le ?_
  simp only [List.forall_mem_cons]
  refine ⟨by simp [Value.depth], by simp [Value.depth], by simp [Value.depth], by simp [Value.depth], ?_,
    Schema.compile_tool_depth_le c, by simp⟩
  refine (depth_array_le (n := 5) fun v hv => ?_).trans (by omega)
  obtain ⟨q, hq, rfl⟩ := List.mem_map.1 hv
  obtain ⟨p, -, rfl⟩ := List.mem_map.1 hq
  exact Schema.propertyOf_depth_le p

end RenderCatalog
