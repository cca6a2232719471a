import RenderCatalog.Payload.Render
import RenderCatalog.Proofs.Conformance
import RenderCatalog.Proofs.Decimal.Binary64

/-!
# Tools that can be called

Every definition that compiling gives takes some value of its type (`Definition.sample`): the lists of the vocabulary are not
empty, its bounds all admit zero, and no parameter asks for fields. So a tool is called with a sample for each required
parameter, and the only tools that cannot be called at all are those that require the key of the render type
(`exists_render_iff`): without it the payload lacks a parameter, and with it the key is taken.
-/

namespace RenderCatalog

open Json (Value)
open Decimal (Binary64)

/-! ## Samples -/

namespace Definition

/-- A value of the type of a definition: the first of the allowed strings, zero, or what has nothing in it. -/
def sample (d : Definition) : Value :=
  match d.type with
  | .string => .string ((d.allowed.bind (·.head?)).getD "")
  | .number => .ofInt 0
  | .boolean => .bool false
  | .array => .array []
  | .object => .object []

/-- Nothing that a definition says of its values rules out the sample. -/
structure TakesSample (d : Definition) : Prop where
  allowed : ∀ allowed, d.allowed = some allowed → allowed ≠ []
  minimum : ∀ bound, d.minimum = some bound → bound.toInt ≤ 0
  maximum : ∀ bound, d.maximum = some bound → 0 ≤ bound.toInt
  required : d.required = none

/-- The sample of a definition conforms to it. -/
theorem TakesSample.conforms {d : Definition} (h : d.TakesSample) : Payload.Conforms d d.sample := by
  unfold sample
  cases htype : d.type with
  | string =>
    refine .string htype fun allowed hallowed => ?_
    obtain ⟨first, rest, rfl⟩ := List.exists_cons_of_ne_nil (h.allowed allowed hallowed)
    simp [hallowed]
  | number =>
    refine .number htype (fun bound hbound => ?_) fun bound hbound => ?_
    · exact (Binary64.units_ofInt_nonpos (h.minimum bound hbound)).trans_eq Binary64.units_ofInt_zero.symm
    · exact Binary64.units_ofInt_zero.trans_le (Binary64.units_ofInt_nonneg (h.maximum bound hbound))
  | boolean => exact .boolean htype
  | array => exact .array htype fun _ _ => nofun
  | object =>
    refine .object htype (fun names hnames => ?_) (fun _ _ => nofun) fun _ => nofun
    rw [h.required] at hnames
    cases hnames

/-- A sample is something. -/
theorem sample_ne_null (d : Definition) : d.sample ≠ .null := by
  unfold sample
  split <;> nofun

/-- A sample has no two entries that could be in another order. -/
theorem sorted_sample (d : Definition) : d.sample.sorted = d.sample := by
  unfold sample
  split <;> rfl

end Definition

namespace Vocabulary

theorem ne_nil_of_choices? {name : String} {allowed : List String} (h : choices? name = some allowed) : allowed ≠ [] := by
  have hall : ∀ e ∈ choices, e.2 ≠ [] := by decide
  exact hall _ (Json.mem_of_lookup_eq_some h)

/-- The bounds of a prop admit zero. -/
theorem zero_of_bounds? {name : String} {b : Bounds} (h : bounds? name = some b) :
    (∀ bound, b.minimum = some bound → bound.toInt ≤ 0) ∧ ∀ bound, b.maximum = some bound → 0 ≤ bound.toInt := by
  have hall : ∀ e ∈ bounded, (∀ bound, e.2.minimum = some bound → bound.toInt ≤ 0) ∧
      ∀ bound, e.2.maximum = some bound → 0 ≤ bound.toInt := by
    simp [bounded]
  exact hall _ (Json.mem_of_lookup_eq_some h)

end Vocabulary

namespace Schema

/-- The parameter of a prop takes a sample. -/
theorem takesSample_definitionOf (p : DescribedProp) : (definitionOf (propertyOf p)).TakesSample := by
  refine ⟨fun allowed h => Vocabulary.ne_nil_of_choices? h, fun bound h => ?_, fun bound h => ?_, rfl⟩
  · obtain ⟨b, hb, hbound⟩ := Option.bind_eq_some_iff.1 h
    exact (Vocabulary.zero_of_bounds? hb).1 bound hbound
  · obtain ⟨b, hb, hbound⟩ := Option.bind_eq_some_iff.1 h
    exact (Vocabulary.zero_of_bounds? hb).2 bound hbound

/-- Every required parameter of a compiled schema has a definition, and it takes a sample. -/
theorem exists_definition_of_required {c : Component} {name : String}
    (h : name ∈ (compile c).tool.parameters.required) :
    ∃ d, (compile c).tool.parameters.properties.lookup name = some d ∧ d.TakesSample := by
  obtain ⟨p, hp, rfl⟩ := List.mem_map.1 h
  have hkey : p.name ∈ (compile c).tool.parameters.properties.map (·.1) := by
    refine (Json.mem_keys_sortEntries _ _).2 ?_
    rw [List.map_map]
    exact List.mem_map_of_mem (List.mem_filter.1 hp).1
  cases hlookup : (compile c).tool.parameters.properties.lookup p.name with
  | none =>
    rw [← Option.isNone_iff_eq_none, Json.lookup_isNone_iff] at hlookup
    exact absurd hkey hlookup
  | some d =>
    obtain ⟨q, hq, heq⟩ := List.mem_map.1 (Json.mem_sortEntries (Json.mem_of_lookup_eq_some hlookup))
    obtain ⟨r, -, rfl⟩ := List.mem_map.1 hq
    obtain rfl := (Prod.mk.inj heq).2
    exact ⟨_, rfl, takesSample_definitionOf r⟩

/-- A name is required exactly when some required prop has it. -/
theorem mem_required_compile {c : Component} {name : String} :
    name ∈ (compile c).tool.parameters.required ↔ ∃ p ∈ c.props, p.required = true ∧ p.name = name := by
  simp only [compile, List.mem_map, List.mem_filter]
  constructor
  · rintro ⟨_, ⟨⟨p, hp, rfl⟩, hrequired⟩, rfl⟩
    exact ⟨p, hp, hrequired, rfl⟩
  · rintro ⟨p, hp, hrequired, rfl⟩
    exact ⟨_, ⟨⟨p, hp, rfl⟩, hrequired⟩, rfl⟩

end Schema

namespace Payload

/-! ## When a payload is rendered -/

/-- A payload is rendered exactly when there is no issue with it and the key of the render type is not set. -/
theorem exists_render_eq_ok_iff (s : Schema) (payload : Value) :
    (∃ r, render s payload = .ok r) ↔ issues s payload = [] ∧ ownType? payload = none := by
  unfold render
  cases issues s payload with
  | cons issue rest => simp
  | nil => cases ownType? payload <;> simp

/-- There is no issue with an object exactly when no required parameter is missing and no entry is objected to. -/
theorem issues_object_eq_nil_iff (s : Schema) (entries : List (String × Value)) :
    issues s (.object entries) = [] ↔
      (∀ name ∈ s.tool.parameters.required, isMissing entries name = false) ∧
        ∀ e ∈ entries, parameterIssues s.tool.parameters e.1 e.2 = [] := by
  rw [issues, List.append_eq_nil_iff, List.map_eq_nil_iff, List.filter_eq_nil_iff, List.flatMap_eq_nil_iff]
  simp only [Bool.not_eq_true]

/-- What is not null is not taken for it. -/
theorem isNull_eq_false {v : Value} (h : v ≠ .null) : v.isNull = false := by
  cases v with
  | null => exact absurd rfl h
  | bool | number | string | array | object => rfl

/-- A payload that is rendered sets every required parameter, so none of them is the key of the render type. -/
theorem typeKey_not_mem_of_render {s : Schema} {payload : Value} {r : Rendering} (h : render s payload = .ok r) :
    Schema.typeKey ∉ s.tool.parameters.required := by
  intro hrequired
  obtain ⟨hissues, htype⟩ := (exists_render_eq_ok_iff s payload).1 ⟨r, h⟩
  cases payload with
  | object entries =>
    obtain ⟨v, hv, hnull⟩ :=
      (isMissing_eq_false_iff _ _).1 (((issues_object_eq_nil_iff s entries).1 hissues).1 _ hrequired)
    rw [ownType?, hv, Option.filter_some, isNull_eq_false hnull] at htype
    cases htype
  | null | bool | number | string | array => cases hissues

/-! ## A call -/

/-- A sample of the parameter with a name. -/
def sampleFor (p : Parameters) (name : String) : Value := ((p.properties.lookup name).map (·.sample)).getD .null

/-- A payload with a sample for each required parameter, sorted by name. -/
def sampleEntries (p : Parameters) : List (String × Value) :=
  Json.sortEntries (p.required.map fun name => (name, sampleFor p name))

/-- A sample is given for each required parameter and for no other. -/
theorem keys_sampleEntries (p : Parameters) (name : String) : name ∈ (sampleEntries p).map (·.1) ↔ name ∈ p.required := by
  rw [sampleEntries, Json.mem_keys_sortEntries, List.map_map]
  simp

/-- Each entry is the sample of its own parameter. -/
theorem eq_of_mem_sampleEntries {p : Parameters} {e : String × Value} (h : e ∈ sampleEntries p) :
    e.1 ∈ p.required ∧ e.2 = sampleFor p e.1 := by
  obtain ⟨name, hname, rfl⟩ := List.mem_map.1 (Json.mem_sortEntries h)
  exact ⟨hname, rfl⟩

/-- The sample of a required parameter is found by its name. -/
theorem lookup_sampleEntries {p : Parameters} {name : String} (h : name ∈ p.required) :
    (sampleEntries p).lookup name = some (sampleFor p name) := by
  cases hlookup : (sampleEntries p).lookup name with
  | none =>
    rw [← Option.isNone_iff_eq_none, Json.lookup_isNone_iff, keys_sampleEntries] at hlookup
    exact absurd h hlookup
  | some v => exact congrArg some (eq_of_mem_sampleEntries (Json.mem_of_lookup_eq_some hlookup)).2

/-- A declared parameter has the sample of its definition. -/
theorem sampleFor_of_lookup {p : Parameters} {name : String} {d : Definition} (h : p.properties.lookup name = some d) :
    sampleFor p name = d.sample := by
  rw [sampleFor, h]
  rfl

/-- A payload of samples is a value as it is read: every object in it lists its entries by rising keys. -/
theorem sorted_sampleEntries (p : Parameters) : (Value.object (sampleEntries p)).sorted = .object (sampleEntries p) := by
  have hvalues : ∀ e ∈ sampleEntries p, e.2.sorted = e.2 := by
    intro e he
    rw [(eq_of_mem_sampleEntries he).2, sampleFor]
    cases p.properties.lookup e.1 with
    | none => rfl
    | some d => exact d.sorted_sample
  have hentries : Json.sortedEntries (sampleEntries p) = sampleEntries p := by
    have hsame : ∀ e ∈ sampleEntries p, (e.1, e.2.sorted) = id e := fun e he => Prod.ext rfl (hvalues e he)
    rw [Json.sortedEntries_eq, List.map_congr_left hsame, List.map_id]
  rw [Value.sorted, hentries, Json.sortEntries_of_rising (show Json.Rising (sampleEntries p) from Json.rising_sortEntries _)]

/-- There is no issue with a payload of samples for a compiled schema. -/
theorem issues_sampleEntries (c : Component) :
    issues (Schema.compile c) (.object (sampleEntries (Schema.compile c).tool.parameters)) = [] := by
  refine (issues_object_eq_nil_iff _ _).2 ⟨fun name hname => ?_, fun e he => ?_⟩
  · obtain ⟨d, hd, -⟩ := Schema.exists_definition_of_required hname
    refine (isMissing_eq_false_iff _ _).2 ⟨d.sample, ?_, d.sample_ne_null⟩
    rw [lookup_sampleEntries hname, sampleFor_of_lookup hd]
  · obtain ⟨hrequired, hsample⟩ := eq_of_mem_sampleEntries he
    obtain ⟨d, hd, htakes⟩ := Schema.exists_definition_of_required hrequired
    refine (parameterIssues_eq_nil_iff _ (Schema.compile_scoped c) _ _).2 ⟨d, hd, Or.inr ?_⟩
    rw [hsample, sampleFor_of_lookup hd]
    exact htakes.conforms

/-- The tool of a component can be called, with arguments whose objects list each key once and in order, exactly when none of
the component's required props has the name of the key that carries the render type. -/
theorem exists_render_iff (c : Component) :
    (∃ payload r, payload.sorted = payload ∧ render (Schema.compile c) payload = .ok r) ↔
      ∀ p ∈ c.props, p.required = true → p.name ≠ Schema.typeKey := by
  constructor
  · rintro ⟨payload, r, -, hrender⟩ p hp hrequired hname
    exact typeKey_not_mem_of_render hrender (Schema.mem_required_compile.2 ⟨p, hp, hrequired, hname⟩)
  · intro hprops
    have htype : Schema.typeKey ∉ (Schema.compile c).tool.parameters.required := by
      intro hmem
      obtain ⟨p, hp, hrequired, hname⟩ := Schema.mem_required_compile.1 hmem
      exact hprops p hp hrequired hname
    have hown : ownType? (.object (sampleEntries (Schema.compile c).tool.parameters)) = none := by
      rw [← keys_sampleEntries, ← Json.lookup_isNone_iff, Option.isNone_iff_eq_none] at htype
      rw [ownType?, htype]
      rfl
    obtain ⟨r, hr⟩ := (exists_render_eq_ok_iff _ _).2 ⟨issues_sampleEntries c, hown⟩
    exact ⟨_, r, sorted_sampleEntries _, hr⟩

end Payload

end RenderCatalog
