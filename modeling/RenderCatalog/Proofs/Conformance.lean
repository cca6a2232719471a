import RenderCatalog.Payload.Check
import RenderCatalog.Proofs.Json.Entries

/-!
# Conformance of payloads

`Conforms d v` says what it is for a value to be of a definition, and `Fits s v` what it is for a payload to be one of a
schema; neither mentions issues or places. The check of a payload decides it: `issues_eq_nil_iff` says that nothing is
listed exactly when the payload fits. A definition that refuses further fields is checked only against fields that it
lists, so the statement is about definitions that are `Scoped`: whoever closes an object also says what is in it.
-/

namespace RenderCatalog

/-- Wherever a definition refuses further fields, it says which fields there are. -/
inductive Definition.Scoped : Definition → Prop where
  | intro {d : Definition} (closed : d.additional = some false → d.properties.isSome = true)
      (items : ∀ item, d.items = some item → item.Scoped)
      (fields : ∀ table, d.properties = some table → ∀ e ∈ table, e.2.Scoped) : d.Scoped

/-! ## Compiled schemas are scoped -/

/-- A definition without items and fields that refuses nothing is scoped. -/
theorem Definition.scoped_of_plain {d : Definition} (items : d.items = none) (fields : d.properties = none)
    (additional : d.additional ≠ some false) : d.Scoped :=
  .intro (fun h => absurd h additional) (by simp [items]) (by simp [fields])

/-- A closed object lists its fields. -/
theorem Vocabulary.closedObject_scoped (fields : List Vocabulary.ItemField) : (Vocabulary.closedObject fields).Scoped := by
  refine .intro (fun _ => rfl) (by simp [Vocabulary.closedObject]) ?_
  intro table ht e he
  simp only [Vocabulary.closedObject, Option.some.injEq] at ht
  subst ht
  obtain ⟨f, -, rfl⟩ := List.mem_map.1 (Json.mem_sortEntries he)
  exact Definition.scoped_of_plain rfl rfl nofun

/-- The items of every list prop are scoped. -/
theorem Vocabulary.itemDefinition_scoped (name : String) : (Vocabulary.itemDefinition name).Scoped := by
  unfold Vocabulary.itemDefinition
  cases Vocabulary.shape? name with
  | none => exact Definition.scoped_of_plain rfl rfl nofun
  | some shape =>
    cases shape with
    | chartDataPoint => exact Vocabulary.closedObject_scoped _
    | tableColumn => exact Vocabulary.closedObject_scoped _
    | tableRow => exact Definition.scoped_of_plain rfl rfl nofun

/-- Every parameter of a compiled schema has a scoped definition. -/
theorem Schema.compile_scoped (c : Component) : ∀ e ∈ (Schema.compile c).tool.parameters.properties, e.2.Scoped := by
  intro e he
  obtain ⟨p, hp, rfl⟩ := List.mem_map.1 (Json.mem_sortEntries he)
  obtain ⟨q, -, rfl⟩ := List.mem_map.1 hp
  refine .intro nofun (fun item hi => ?_) nofun
  simp only [Schema.definitionOf, Schema.propertyOf] at hi
  split at hi
  · obtain rfl := Option.some.inj hi
    exact Vocabulary.itemDefinition_scoped q.name
  · cases hi

namespace Payload

open Json (Value Number)
open Decimal (Binary64)

/-- The definition has a field of that name. -/
def Declares (d : Definition) (name : String) : Prop :=
  ∃ table field, d.properties = some table ∧ table.lookup name = some field

/-- A value is of a definition: it has the type, and what the definition says of values of that type holds of it. Bounds are
compared as floating-point numbers. -/
inductive Conforms : Definition → Value → Prop where
  | string {d : Definition} {s : String} (type : d.type = .string)
      (member : ∀ allowed, d.allowed = some allowed → s ∈ allowed) : Conforms d (.string s)
  | number {d : Definition} {n : Number} (type : d.type = .number)
      (least : ∀ bound, d.minimum = some bound → (Binary64.ofInt bound.toInt).units ≤ n.toBinary64.units)
      (greatest : ∀ bound, d.maximum = some bound → n.toBinary64.units ≤ (Binary64.ofInt bound.toInt).units) :
      Conforms d (.number n)
  | boolean {d : Definition} {b : Bool} (type : d.type = .boolean) : Conforms d (.bool b)
  | array {d : Definition} {items : List Value} (type : d.type = .array)
      (each : ∀ item, d.items = some item → ∀ v ∈ items, Conforms item v) : Conforms d (.array items)
  | object {d : Definition} {entries : List (String × Value)} (type : d.type = .object)
      (present : ∀ names, d.required = some names → ∀ name ∈ names, name ∈ entries.map (·.1))
      (each : ∀ table, d.properties = some table → ∀ e ∈ entries, ∀ field, table.lookup e.1 = some field →
        Conforms field e.2)
      (closed : d.additional = some false → ∀ e ∈ entries, Declares d e.1) : Conforms d (.object entries)

/-- A payload is one of a schema: an object with a value for every required parameter, whose every entry sets a declared
parameter, to null when it is optional or to a value of its definition. -/
inductive Fits (s : Schema) : Value → Prop where
  | object {entries : List (String × Value)}
      (present : ∀ name ∈ s.tool.parameters.required, ∃ v, entries.lookup name = some v ∧ v ≠ .null)
      (each : ∀ e ∈ entries, ∃ d, s.tool.parameters.properties.lookup e.1 = some d ∧
        (e.2 = .null ∧ e.1 ∉ s.tool.parameters.required ∨ Conforms d e.2)) : Fits s (.object entries)

/-! ## The parts of the check -/

/-- A string is not objected to exactly when it is among the allowed ones. -/
theorem stringIssues_eq_nil_iff (path : String) (d : Definition) (s : String) :
    stringIssues path d s = [] ↔ ∀ allowed, d.allowed = some allowed → s ∈ allowed := by
  unfold stringIssues
  cases d.allowed with
  | none => simp
  | some allowed => by_cases h : s ∈ allowed <;> simp [h]

/-- A number is not objected to exactly when it lies between the bounds that there are. -/
theorem numberIssues_eq_nil_iff (path : String) (d : Definition) (n : Number) :
    numberIssues path d n = [] ↔
      (∀ bound, d.minimum = some bound → (Binary64.ofInt bound.toInt).units ≤ n.toBinary64.units) ∧
      (∀ bound, d.maximum = some bound → n.toBinary64.units ≤ (Binary64.ofInt bound.toInt).units) := by
  unfold numberIssues
  rw [List.append_eq_nil_iff]
  refine and_congr ?_ ?_
  · cases d.minimum with
    | none => simp
    | some bound => simp [isBelow, Binary64.lt]
  · cases d.maximum with
    | none => simp
    | some bound => simp [isAbove, Binary64.lt]

/-- No field is missed exactly when every required one is a key. -/
theorem missingIssues_eq_nil_iff (path : String) (d : Definition) (entries : List (String × Value)) :
    missingIssues path d entries = [] ↔
      ∀ names, d.required = some names → ∀ name ∈ names, name ∈ entries.map (·.1) := by
  unfold missingIssues
  rw [List.map_eq_nil_iff, List.filter_eq_nil_iff]
  cases d.required with
  | none => simp
  | some names =>
    simp only [Option.getD_some, Json.lookup_isNone_iff, Decidable.not_not, Option.some.injEq, forall_eq']

/-! ## Values -/

section Types

variable {d : Definition} {v : Value} {entries : List (String × Value)} {table : List (String × Definition)} {path : String}

/-- The type that a value is of; null is of none. -/
def typeOf? : Value → Option PropType
  | .null => none
  | .bool _ => some .boolean
  | .number _ => some .number
  | .string _ => some .string
  | .array _ => some .array
  | .object _ => some .object

theorem Conforms.typeOf?_eq (h : Conforms d v) : typeOf? v = some d.type := by
  cases h with
  | string type => rw [typeOf?, type]
  | number type => rw [typeOf?, type]
  | boolean type => rw [typeOf?, type]
  | array type => rw [typeOf?, type]
  | object type => rw [typeOf?, type]

/-- A value of another type is objected to, whatever else the definition says. -/
theorem valueIssues_ne_nil (h : typeOf? v ≠ some d.type) : valueIssues path d v ≠ [] := by
  cases v <;> simp_all [valueIssues, typeOf?, eq_comm]

theorem valueIssues_eq_nil_iff_of_ne (h : typeOf? v ≠ some d.type) : valueIssues path d v = [] ↔ Conforms d v :=
  iff_of_false (valueIssues_ne_nil h) fun hconforms => h hconforms.typeOf?_eq

/-- Where fields are neither listed nor refused, an object only has to have the required ones. -/
theorem conforms_object_iff_of_open (ht : d.type = .object) (hp : d.properties = none) (hopen : d.additional ≠ some false) :
    Conforms d (.object entries) ↔ ∀ names, d.required = some names → ∀ name ∈ names, name ∈ entries.map (·.1) := by
  constructor
  · rintro ⟨⟩
    assumption
  · exact fun h => .object ht h (by simp [hp]) (fun h' => absurd h' hopen)

/-- Where fields are listed, those of an object are looked up in the list. -/
theorem conforms_object_iff (ht : d.type = .object) (hp : d.properties = some table) :
    Conforms d (.object entries) ↔
      (∀ names, d.required = some names → ∀ name ∈ names, name ∈ entries.map (·.1)) ∧
      (∀ e ∈ entries, ∀ field, table.lookup e.1 = some field → Conforms field e.2) ∧
      (d.additional = some false → ∀ e ∈ entries, (table.lookup e.1).isSome = true) := by
  have hdecl (name : String) : Declares d name ↔ (table.lookup name).isSome = true := by
    simp [Declares, hp, Option.isSome_iff_exists]
  constructor
  · rintro ⟨⟩
    rename_i h₁ h₂ h₃
    exact ⟨h₁, h₂ table hp, fun hc e he => (hdecl e.1).1 (h₃ hc e he)⟩
  · rintro ⟨h₁, h₂, h₃⟩
    refine .object ht h₁ ?_ (fun hc e he => (hdecl e.1).2 (h₃ hc e he))
    simpa [hp] using h₂

end Types

mutual
/-- A scoped definition has nothing against a value exactly when the value is of it. -/
theorem valueIssues_eq_nil_iff (path : String) (d : Definition) (hd : d.Scoped) :
    (v : Value) → (valueIssues path d v = [] ↔ Conforms d v)
  | .null => valueIssues_eq_nil_iff_of_ne nofun
  | .bool b => by
    by_cases ht : d.type = .boolean
    · simp [valueIssues, ht, Conforms.boolean ht]
    · exact valueIssues_eq_nil_iff_of_ne fun h => ht (Option.some.inj h).symm
  | .number n => by
    by_cases ht : d.type = .number
    · rw [valueIssues, if_pos ht, numberIssues_eq_nil_iff]
      exact ⟨fun ⟨h₁, h₂⟩ => .number ht h₁ h₂, fun | .number _ h₁ h₂ => ⟨h₁, h₂⟩⟩
    · exact valueIssues_eq_nil_iff_of_ne fun h => ht (Option.some.inj h).symm
  | .string s => by
    by_cases ht : d.type = .string
    · rw [valueIssues, if_pos ht, stringIssues_eq_nil_iff]
      exact ⟨fun h => .string ht h, fun | .string _ h => h⟩
    · exact valueIssues_eq_nil_iff_of_ne fun h => ht (Option.some.inj h).symm
  | .array items => by
    by_cases ht : d.type = .array
    · have key : Conforms d (.array items) ↔ ∀ item, d.items = some item → ∀ v ∈ items, Conforms item v :=
        ⟨fun | .array _ h => h, fun h => .array ht h⟩
      rw [valueIssues, if_pos ht, key]
      obtain ⟨-, hitems, -⟩ := hd
      cases hi : d.items with
      | none => simp
      | some item => simp [itemIssues_eq_nil_iff path item (hitems item hi) 0 items]
    · exact valueIssues_eq_nil_iff_of_ne fun h => ht (Option.some.inj h).symm
  | .object entries => by
    by_cases ht : d.type = .object
    · rw [valueIssues, if_pos ht, List.append_eq_nil_iff, missingIssues_eq_nil_iff]
      obtain ⟨hclosed, -, hfields⟩ := hd
      cases hp : d.properties with
      | none =>
        -- without a list of fields nothing is closed, so further fields are not asked about
        have hopen : d.additional ≠ some false := fun h => by simpa [hp] using hclosed h
        rw [conforms_object_iff_of_open ht hp hopen]
        exact and_iff_left rfl
      | some table =>
        rw [conforms_object_iff ht hp]
        simp only [entryIssues_eq_nil_iff path table (hfields table hp) _ entries, beq_iff_eq]
    · exact valueIssues_eq_nil_iff_of_ne fun h => ht (Option.some.inj h).symm
/-- A scoped definition has nothing against the items of a list exactly when each of them is of it. -/
theorem itemIssues_eq_nil_iff (path : String) (item : Definition) (hd : item.Scoped) (i : Nat) :
    (items : List Value) → (itemIssues path item i items = [] ↔ ∀ v ∈ items, Conforms item v)
  | [] => by simp [itemIssues]
  | v :: rest => by
    rw [itemIssues, List.append_eq_nil_iff, valueIssues_eq_nil_iff _ item hd v,
      itemIssues_eq_nil_iff path item hd (i + 1) rest, List.forall_mem_cons]
/-- Scoped definitions of fields have nothing against entries exactly when each declared entry is of its definition and, in
a closed object, each entry is declared. -/
theorem entryIssues_eq_nil_iff (path : String) (table : List (String × Definition)) (hd : ∀ e ∈ table, e.2.Scoped)
    (closed : Bool) : (entries : List (String × Value)) →
      (entryIssues path table closed entries = [] ↔
        (∀ e ∈ entries, ∀ field, table.lookup e.1 = some field → Conforms field e.2) ∧
        (closed = true → ∀ e ∈ entries, (table.lookup e.1).isSome = true))
  | [] => by simp [entryIssues]
  | (name, v) :: rest => by
    rw [entryIssues, List.append_eq_nil_iff, entryIssues_eq_nil_iff path table hd closed rest]
    simp only [List.forall_mem_cons]
    cases hl : table.lookup name with
    | none => cases closed <;> simp
    | some field =>
      have hf := valueIssues_eq_nil_iff (fieldPath path name) field (hd _ (Json.mem_of_lookup_eq_some hl)) v
      simp only [hf, Option.some.injEq, forall_eq', Option.isSome_some, true_and, and_assoc]
end

/-! ## Payloads -/

/-- A parameter is not missed exactly when the payload has a value for it. -/
theorem isMissing_eq_false_iff (entries : List (String × Value)) (name : String) :
    isMissing entries name = false ↔ ∃ v, entries.lookup name = some v ∧ v ≠ .null := by
  unfold isMissing
  cases entries.lookup name with
  | none => simp
  | some v => cases v <;> simp [Value.isNull]

/-- An entry is not objected to exactly when its parameter is declared and the value is null for an optional one or of the
definition. -/
theorem parameterIssues_eq_nil_iff (p : Parameters) (hp : ∀ e ∈ p.properties, e.2.Scoped) (key : String) (v : Value) :
    parameterIssues p key v = [] ↔
      ∃ d, p.properties.lookup key = some d ∧ (v = .null ∧ key ∉ p.required ∨ Conforms d v) := by
  unfold parameterIssues
  cases hl : p.properties.lookup key with
  | none => simp
  | some d =>
    have hv := valueIssues_eq_nil_iff key d (hp _ (Json.mem_of_lookup_eq_some hl)) v
    have hskip : (v.isNull && !p.required.contains key) = true ↔ v = .null ∧ key ∉ p.required := by
      cases v <;> simp [Value.isNull]
    simp only [Option.some.injEq, exists_eq_left']
    by_cases h : (v.isNull && !p.required.contains key) = true
    · rw [if_pos h]
      exact ⟨fun _ => Or.inl (hskip.1 h), fun _ => rfl⟩
    · rw [if_neg h, hv, or_iff_right (fun h' => h (hskip.2 h'))]

/-- The check of a payload decides whether it fits: for a schema whose definitions are scoped, no issue is listed exactly when
the payload is an object with every required parameter set, nothing undeclared in it, and each value null for an optional
parameter or of its definition. -/
theorem issues_eq_nil_iff (s : Schema) (hs : ∀ e ∈ s.tool.parameters.properties, e.2.Scoped) (payload : Value) :
    issues s payload = [] ↔ Fits s payload := by
  cases payload with
  | object entries =>
    have key : Fits s (.object entries) ↔
        (∀ name ∈ s.tool.parameters.required, ∃ v, entries.lookup name = some v ∧ v ≠ .null) ∧
        (∀ e ∈ entries, ∃ d, s.tool.parameters.properties.lookup e.1 = some d ∧
          (e.2 = .null ∧ e.1 ∉ s.tool.parameters.required ∨ Conforms d e.2)) :=
      ⟨fun | .object h₁ h₂ => ⟨h₁, h₂⟩, fun ⟨h₁, h₂⟩ => .object h₁ h₂⟩
    rw [key]
    simp only [issues, List.append_eq_nil_iff, List.map_eq_nil_iff, List.filter_eq_nil_iff, Bool.not_eq_true,
      isMissing_eq_false_iff, List.flatMap_eq_nil_iff, parameterIssues_eq_nil_iff _ hs]
  | null | bool | number | string | array =>
    refine ⟨fun h => ?_, fun h => ?_⟩
    · simp [issues] at h
    · cases h

/-- The schema of a chart: its data are required, and each point is a closed object with a label and a value. -/
def chartSchema : Schema :=
  Schema.compile ⟨"Chart", "chart.tsx", .dataVisualization, "Chart component",
    [⟨"data", .array, true, "Data"⟩, ⟨"title", .string, false, "Title"⟩]⟩

/-- A point of a chart, with further entries. -/
def chartPoint (further : List (String × Value)) : Value :=
  .object ([("label", .string "a"), ("value", .number (.int 1))] ++ further)

/-- A chart of one point fits its schema, also when the optional title is null; a point with an unknown entry does not. -/
theorem chart_fits :
    (∀ e ∈ chartSchema.tool.parameters.properties, e.2.Scoped) ∧
      Fits chartSchema (.object [("data", .array [chartPoint []]), ("title", .null)]) ∧
      ¬Fits chartSchema (.object [("data", .array [chartPoint [("size", .null)]])]) := by
  refine ⟨Schema.compile_scoped _, ?_, ?_⟩
  · rw [← issues_eq_nil_iff chartSchema (Schema.compile_scoped _)]
    decide
  · rw [← issues_eq_nil_iff chartSchema (Schema.compile_scoped _)]
    decide

end Payload

end RenderCatalog
