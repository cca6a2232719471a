import RenderCatalog.Proofs.Schema.Compiled
import RenderCatalog.Proofs.Source.Extract
import RenderCatalog.Proofs.Source.Params

/-!
# Schemas of extracted components are consistent

Of props with one name only the last makes a parameter, so the list of properties and the table of parameters of a compiled schema
agree when the names of the props differ (`Schema.consistent_compile`). The names of an extracted component differ, and the type
that each of them suggests never goes against what the vocabulary says of it: so the schema is consistent, and its properties are
those that the parameter list declares, in the order of the text (`Source.consistent_of_extract`).
-/

namespace RenderCatalog

/-! ## Coherent definitions -/

/-- What a definition says fits its type: lists and nothing else have items, only numbers have bounds, and only strings are chosen
from a list. The same holds of its items and of its fields. -/
inductive Definition.Coherent : Definition → Prop
  | intro {d : Definition} (items_iff : d.items.isSome = true ↔ d.type = .array)
      (bounds : d.minimum.isSome = true ∨ d.maximum.isSome = true → d.type = .number)
      (allowed : d.allowed.isSome = true → d.type = .string)
      (items : ∀ item, d.items = some item → item.Coherent)
      (fields : ∀ table, d.properties = some table → ∀ e ∈ table, e.2.Coherent) : d.Coherent

namespace Vocabulary

/-- A closed object whose fields are no lists is coherent. -/
theorem closedObject_coherent {fields : List ItemField} (h : ∀ f ∈ fields, f.type ≠ .array) :
    (closedObject fields).Coherent := by
  refine .intro (by simp [closedObject]) (by simp [closedObject]) (by simp [closedObject]) (by simp [closedObject])
    fun table htable e he => ?_
  obtain rfl := Option.some.inj htable
  obtain ⟨f, hf, rfl⟩ := List.mem_map.1 (Json.mem_sortEntries he)
  exact .intro (by simpa using h f hf) (by simp) (by simp) (by simp) (by simp)

/-- The items of every list prop are coherent. -/
theorem itemDefinition_coherent (name : String) : (itemDefinition name).Coherent := by
  have hplain {d : Definition} (htype : d.type = .object) (hitems : d.items = none) (hmin : d.minimum = none)
      (hmax : d.maximum = none) (hallowed : d.allowed = none) (hfields : d.properties = none) : d.Coherent :=
    .intro (by simp [htype, hitems]) (by simp [hmin, hmax]) (by simp [hallowed]) (by simp [hitems]) (by simp [hfields])
  unfold itemDefinition
  cases shape? name with
  | none => exact hplain rfl rfl rfl rfl rfl rfl
  | some shape =>
    cases shape with
    | chartDataPoint => exact closedObject_coherent (by decide)
    | tableColumn => exact closedObject_coherent (by decide)
    | tableRow => exact hplain rfl rfl rfl rfl rfl rfl

/-- A prop that is chosen from a list has no bounds and no shape, and its name suggests a string. -/
theorem string_of_choices? {name : String} (h : (choices? name).isSome = true) :
    bounds? name = none ∧ shape? name = none ∧ PropType.ofPropName name = .string := by
  obtain ⟨allowed, hallowed⟩ := Option.isSome_iff_exists.1 h
  have hall : ∀ e ∈ choices, bounds? e.1 = none ∧ shape? e.1 = none ∧ PropType.ofPropName e.1 = .string := by decide
  exact hall _ (Json.mem_of_lookup_eq_some hallowed)

end Vocabulary

namespace Schema

/-- The parameter of a prop whose type is the one that its name suggests is coherent. -/
theorem coherent_definitionOf {p : DescribedProp} (h : p.type = .ofPropName p.name) :
    (definitionOf (propertyOf p)).Coherent := by
  refine .intro ?_ (fun hbounds => ?_) (fun hallowed => ?_) (fun item hitem => ?_) nofun
  · show (propertyOf p).items.isSome = true ↔ refinedType p = .array
    by_cases htype : refinedType p = .array <;> simp [propertyOf, htype]
  · have hbound : (Vocabulary.bounds? p.name).isSome = true := by
      cases hb : Vocabulary.bounds? p.name with
      | none => simp [definitionOf, propertyOf, hb] at hbounds
      | some b => rfl
    show refinedType p = .number
    rw [refinedType, if_pos hbound]
  · change (Vocabulary.choices? p.name).isSome = true at hallowed
    obtain ⟨hbounds, hshape, hstring⟩ := Vocabulary.string_of_choices? hallowed
    show refinedType p = .string
    rw [refinedType, hbounds, hshape, h, hstring]
    rfl
  · rw [items_propertyOf hitem]
    exact Vocabulary.itemDefinition_coherent p.name

/-! ## Consistent schemas -/

/-- The properties and the parameters of a schema say the same: the properties have different names, and the parameters have
exactly these names; the required ones are those of the required properties, in the order of the properties and each once; a
parameter has the type, the allowed strings, the items and the description of its property; and every definition is coherent. -/
structure Consistent (s : Schema) : Prop where
  distinct : (s.properties.map (·.name)).Nodup
  names : (s.tool.parameters.properties.map (·.1)).Perm (s.properties.map (·.name))
  required : s.tool.parameters.required = (s.properties.filter (·.required)).map (·.name)
  once : s.tool.parameters.required.Nodup
  agree : ∀ p ∈ s.properties, ∃ d, s.tool.parameters.properties.lookup p.name = some d ∧
    d.type = p.type ∧ d.allowed = p.allowed ∧ d.items = p.items ∧ d.description = some p.description
  coherent : ∀ e ∈ s.tool.parameters.properties, e.2.Coherent

/-- Where the names of the props differ and their types are the ones that the names suggest, the schema is consistent. -/
theorem consistent_compile {c : Component} (hnames : (c.props.map (·.name)).Nodup)
    (htypes : ∀ p ∈ c.props, p.type = .ofPropName p.name) : (compile c).Consistent := by
  have hdistinct : ((compile c).properties.map (·.name)).Nodup := by
    show ((c.props.map propertyOf).map (·.name)).Nodup
    rw [List.map_map]
    exact hnames
  have hkeys : (((compile c).properties.map fun p => (p.name, definitionOf p)).map (·.1)) = (compile c).properties.map (·.name) := by
    rw [List.map_map]
    rfl
  have hdiffer := hkeys.symm ▸ hdistinct
  refine ⟨hdistinct, ?_, rfl, ?_, fun p hp => ⟨definitionOf p, ?_, rfl, rfl, rfl, rfl⟩, fun e he => ?_⟩
  · rw [← hkeys]
    exact Json.keys_sortEntries_perm hdiffer
  · exact hdistinct.sublist (List.filter_sublist.map _)
  · show (Json.sortEntries _).lookup p.name = some (definitionOf p)
    rw [Json.lookup_sortEntries]
    refine Json.lookup_of_mem ?_ (List.mem_reverse.2 (List.mem_map_of_mem hp))
    rw [List.map_reverse, List.nodup_reverse]
    exact hdiffer
  · obtain ⟨p, hp, heq⟩ := mem_compile_properties he
    rw [heq]
    exact coherent_definitionOf (htypes p hp)

end Schema

/-! ## Extracted components -/

namespace Source

/-- An extracted component has the props of the parameter text of the declaration that is found. -/
theorem props_of_extract {patterns : List String} {source path : String} {c : Component}
    (h : extract patterns source path = .ok c) :
    ∃ d, findDeclaration? [] (Text.flatten source.toList) = some d ∧ c.props = (paramProps d.params).map (·.describe) := by
  unfold extract at h
  split at h
  · cases h
  · split at h
    · cases h
    · rename_i d hd
      refine ⟨d, hd, ?_⟩
      dsimp only at h
      split at h <;> rw [← Except.ok.inj h] <;> rfl

/-- The schema of an extracted component is consistent, and its properties are those that the parameter text of the source's first
declaration lists: a property for every declared name, as the first token of that name declares it, in the order of the text. -/
theorem consistent_of_extract {patterns : List String} {source path : String} {c : Component}
    (h : extract patterns source path = .ok c) :
    (Schema.compile c).Consistent ∧
      ∃ before params, DeclaredBehind (Text.flatten source.toList) before params ∧
        (∀ before' params', DeclaredBehind (Text.flatten source.toList) before' params' → before.length ≤ before'.length) ∧
        Lists params ((Schema.compile c).properties.map fun p => ⟨p.name, p.required⟩) := by
  obtain ⟨d, hd, hprops⟩ := props_of_extract h
  obtain ⟨hbehind, hleast⟩ := first_of_findDeclaration? hd
  refine ⟨Schema.consistent_compile ?_ fun p hp => ?_, d.before, d.params, hbehind, hleast, ?_⟩
  · rw [hprops, List.map_map]
    exact nodup_names_firstOfEach [] (tokenProps d.params)
  · rw [hprops] at hp
    obtain ⟨q, -, rfl⟩ := List.mem_map.1 hp
    rfl
  · have hlisted : ((Schema.compile c).properties.map fun p => (⟨p.name, p.required⟩ : DeclaredProp)) = paramProps d.params := by
      show ((c.props.map Schema.propertyOf).map _) = _
      rw [hprops, List.map_map, List.map_map]
      exact List.map_id _
    rw [hlisted]
    exact lists_paramProps d.params

/-- A function that declares its first prop twice. -/
def listSource : String := "export function List(\x7b rows, variant?, rows = [] \x7d) \x7b\x7d"

/-- The first declaration of the prop counts: it is required, and it makes one property and one parameter. -/
theorem consistent_of_extract_listSource :
    ∃ c, extract [] listSource "list.tsx" = .ok c ∧ (Schema.compile c).Consistent ∧
      ((Schema.compile c).properties.map fun p => (p.name, p.type, p.required)) =
        [("rows", .array, true), ("variant", .string, false)] := by
  have hfind : findDeclaration? [] (Text.flatten listSource.toList) = some ⟨[], " rows, variant?, rows = [] ".toList⟩ := by cbv
  have hextract : extract [] listSource "list.tsx" = .ok (componentOf "list.tsx" [] " rows, variant?, rows = [] ".toList) := by
    simp only [extract, show exclusionFor? [] "list.tsx" = none from rfl, hfind, componentOf]
    rfl
  obtain ⟨hconsistent, -⟩ := consistent_of_extract hextract
  refine ⟨_, hextract, hconsistent, ?_⟩
  have hprops : paramProps " rows, variant?, rows = [] ".toList = [⟨"rows", true⟩, ⟨"variant", false⟩] := by cbv
  show ((((paramProps _).map (·.describe)).map Schema.propertyOf).map _) = _
  rw [hprops]
  decide

end Source

end RenderCatalog
