import RenderCatalog.Proofs.Json.Accepted
import RenderCatalog.Proofs.Json.RoundTrip
import RenderCatalog.Proofs.Schema.Faithful
import RenderCatalog.Schema.Index

/-!
# Stored records

Each stored record is faithful to its type, one field after another, and so whatever is stored is read back from its text
(`Stored.read_render`), and whatever is read from a text, in whichever spelling, is in order and nests no deeper than a text
may (`Stored.ordered_of_read`).
-/

namespace RenderCatalog

open Json (Value Shape Records Canonical Listed Style isGap nestingLimit)

/-- The records that are stored have fields with different keys, and no field of just any shape. -/
theorem StoredRecord.proper : Records.Proper StoredRecord := by
  constructor
  · intro r
    cases r <;> simp [Records.layout, StoredRecord.fields, Shape.Plain]
  · intro r
    cases r <;> decide

/-! ## Components -/

/-- Every prop is written. -/
theorem DescribedProp.faithful : Faithful (.record .prop) DescribedProp.toValue DescribedProp.ofValue? fun _ => True := by
  refine ⟨fun p _ => ?_, fun p _ => ?_, fun v hv => ?_⟩
  · refine .record (.present (faithful_text.canonical p.name trivial) ?_)
    refine .present (faithful_type.canonical p.type trivial) ?_
    refine .present (faithful_flag.canonical p.required trivial) ?_
    exact .present (faithful_text.canonical p.description trivial) .nil
  · have htype : typeIn? (.string p.type.label) = some p.type := faithful_type.back p.type trivial
    simp [DescribedProp.ofValue?, DescribedProp.toValue, entriesIn?, fieldIn?, List.lookup, textIn?, flagIn?, htype]
  · cases hv with
    | record h =>
      obtain ⟨name, _, -, rfl, h₁⟩ := h.exists_required faithful_text.stands
      obtain ⟨type, _, -, rfl, h₂⟩ := h₁.exists_required faithful_type.stands
      obtain ⟨required, _, -, rfl, h₃⟩ := h₂.exists_required faithful_flag.stands
      obtain ⟨description, _, -, rfl, h₄⟩ := h₃.exists_required faithful_text.stands
      obtain rfl := h₄.eq_nil
      exact ⟨⟨name, type, required, description⟩, trivial, rfl⟩

/-- Every component is written. -/
theorem Component.faithful : Faithful (.record .component) Component.toValue Component.ofValue? fun _ => True := by
  refine ⟨fun c _ => ?_, fun c _ => ?_, fun v hv => ?_⟩
  · refine .record (.present (faithful_text.canonical c.name trivial) ?_)
    refine .present (faithful_path.canonical c.sourcePath trivial) ?_
    refine .present (faithful_category.canonical c.category trivial) ?_
    refine .present (faithful_text.canonical c.description trivial) ?_
    exact .present (DescribedProp.faithful.list.canonical c.props fun _ _ => trivial) .nil
  · have hcategory : categoryIn? (.string c.category.label) = some c.category := faithful_category.back c.category trivial
    have hprops : listIn? DescribedProp.ofValue? (.array (c.props.map (·.toValue))) = some c.props :=
      DescribedProp.faithful.list.back c.props fun _ _ => trivial
    simp [Component.ofValue?, Component.toValue, entriesIn?, fieldIn?, List.lookup, textIn?, hcategory, hprops]
  · cases hv with
    | record h =>
      obtain ⟨name, _, -, rfl, h₁⟩ := h.exists_required faithful_text.stands
      obtain ⟨sourcePath, _, -, rfl, h₂⟩ := h₁.exists_required faithful_path.stands
      obtain ⟨category, _, -, rfl, h₃⟩ := h₂.exists_required faithful_category.stands
      obtain ⟨description, _, -, rfl, h₄⟩ := h₃.exists_required faithful_text.stands
      obtain ⟨props, _, -, rfl, h₅⟩ := h₄.exists_required DescribedProp.faithful.list.stands
      obtain rfl := h₅.eq_nil
      exact ⟨⟨name, sourcePath, category, description, props⟩, trivial, rfl⟩

/-! ## Schemas -/

/-- A property is in order when the definition of its items is. -/
def Property.Ordered (p : Property) : Prop := ∀ d, p.items = some d → d.Ordered

/-- Parameters are in order when their table is. -/
def Parameters.Ordered (p : Parameters) : Prop := OrderedTable p.properties

/-- A schema is in order when its properties and the parameters of its tool are. -/
def Schema.Ordered (s : Schema) : Prop := (∀ p ∈ s.properties, p.Ordered) ∧ s.tool.parameters.Ordered

/-- An index is in order when its schemas are. -/
def Index.Ordered (i : Index) : Prop := ∀ s ∈ i.schemas, s.Ordered

/-- Every property in order is written. -/
theorem Property.faithful : Faithful (.record .property) Property.toValue Property.ofValue? Property.Ordered := by
  refine ⟨fun p hp => ?_, fun p hp => ?_, fun v hv => ?_⟩
  · rw [Property.toValue]
    simp only [List.cons_append, List.nil_append]
    refine .record (.present (faithful_text.canonical p.name trivial) ?_)
    refine .present (faithful_type.canonical p.type trivial) ?_
    refine .present (faithful_flag.canonical p.required trivial) ?_
    refine .present (faithful_text.canonical p.description trivial) ?_
    refine .optional (fun ss _ => faithful_texts.canonical ss trivial) ?_
    rw [← List.append_nil (optionalEntry _ _ _)]
    exact .optional (fun d hd => (hp d hd).canonical) .nil
  · have htype : typeIn? (.string p.type.label) = some p.type := faithful_type.back p.type trivial
    obtain ⟨name, type, required, description, allowed, items⟩ := p
    have htexts : ∀ ss, listIn? textIn? (Value.ofStrings ss) = some ss := fun ss => faithful_texts.back ss trivial
    have hback : ∀ d, items = some d → definitionIn? d.toValue = some d := fun d hd => (hp d hd).back
    cases allowed <;> cases items <;>
      simp [Property.ofValue?, Property.toValue, entriesIn?, fieldIn?, optionalIn?, optionalEntry, List.lookup, textIn?,
        flagIn?, htype, htexts, hback]
  · cases hv with
    | record h =>
      obtain ⟨name, _, -, rfl, h₁⟩ := h.exists_required faithful_text.stands
      obtain ⟨type, _, -, rfl, h₂⟩ := h₁.exists_required faithful_type.stands
      obtain ⟨required, _, -, rfl, h₃⟩ := h₂.exists_required faithful_flag.stands
      obtain ⟨description, _, -, rfl, h₄⟩ := h₃.exists_required faithful_text.stands
      obtain ⟨allowed, _, -, rfl, h₅⟩ := h₄.exists_optional faithful_texts.stands
      obtain ⟨items, _, hitems, rfl, h₆⟩ := h₅.exists_optional Definition.faithful.stands
      obtain rfl := h₆.eq_nil
      exact ⟨⟨name, type, required, description, allowed, items⟩, hitems, by simp [Property.toValue]⟩

/-- All parameters in order are written. -/
theorem Parameters.faithful : Faithful (.record .parameters) Parameters.toValue Parameters.ofValue? Parameters.Ordered := by
  refine ⟨fun p hp => ?_, fun p hp => ?_, fun v hv => ?_⟩
  · refine .record (.present (faithful_type.canonical p.type trivial) ?_)
    refine .present (faithful_table.canonical p.properties hp) ?_
    exact .present (faithful_texts.canonical p.required trivial) .nil
  · have htype : typeIn? (.string p.type.label) = some p.type := faithful_type.back p.type trivial
    have htable : tableIn? (.object (definitionsValue p.properties)) = some p.properties := faithful_table.back p.properties hp
    have htexts : listIn? textIn? (Value.ofStrings p.required) = some p.required := faithful_texts.back p.required trivial
    simp [Parameters.ofValue?, Parameters.toValue, entriesIn?, fieldIn?, List.lookup, htype, htable, htexts]
  · cases hv with
    | record h =>
      obtain ⟨type, _, -, rfl, h₁⟩ := h.exists_required faithful_type.stands
      obtain ⟨properties, _, hproperties, rfl, h₂⟩ := h₁.exists_required faithful_table.stands
      obtain ⟨required, _, -, rfl, h₃⟩ := h₂.exists_required faithful_texts.stands
      obtain rfl := h₃.eq_nil
      exact ⟨⟨type, properties, required⟩, hproperties, rfl⟩

/-- Every tool whose parameters are in order is written. -/
theorem Tool.faithful : Faithful (.record .tool) Tool.toValue Tool.ofValue? fun t => t.parameters.Ordered := by
  refine ⟨fun t ht => ?_, fun t ht => ?_, fun v hv => ?_⟩
  · refine .record (.present (faithful_text.canonical t.name trivial) ?_)
    refine .present (faithful_text.canonical t.description trivial) ?_
    exact .present (Parameters.faithful.canonical t.parameters ht) .nil
  · have hparameters := Parameters.faithful.back t.parameters ht
    simp [Tool.ofValue?, Tool.toValue, entriesIn?, fieldIn?, List.lookup, textIn?, hparameters]
  · cases hv with
    | record h =>
      obtain ⟨name, _, -, rfl, h₁⟩ := h.exists_required faithful_text.stands
      obtain ⟨description, _, -, rfl, h₂⟩ := h₁.exists_required faithful_text.stands
      obtain ⟨parameters, _, hparameters, rfl, h₃⟩ := h₂.exists_required Parameters.faithful.stands
      obtain rfl := h₃.eq_nil
      exact ⟨⟨name, description, parameters⟩, hparameters, rfl⟩

/-- Every schema in order is written. -/
theorem Schema.faithful : Faithful (.record .schema) Schema.toValue Schema.ofValue? Schema.Ordered := by
  refine ⟨fun s hs => ?_, fun s hs => ?_, fun v hv => ?_⟩
  · refine .record (.present (faithful_text.canonical s.title trivial) ?_)
    refine .present (faithful_text.canonical s.component trivial) ?_
    refine .present (faithful_category.canonical s.category trivial) ?_
    refine .present (faithful_text.canonical s.description trivial) ?_
    refine .present (Property.faithful.list.canonical s.properties hs.1) ?_
    exact .present (Tool.faithful.canonical s.tool hs.2) .nil
  · have hcategory : categoryIn? (.string s.category.label) = some s.category := faithful_category.back s.category trivial
    have hproperties : listIn? Property.ofValue? (.array (s.properties.map (·.toValue))) = some s.properties :=
      Property.faithful.list.back s.properties hs.1
    have htool := Tool.faithful.back s.tool hs.2
    simp [Schema.ofValue?, Schema.toValue, entriesIn?, fieldIn?, List.lookup, textIn?, hcategory, hproperties, htool]
  · cases hv with
    | record h =>
      obtain ⟨title, _, -, rfl, h₁⟩ := h.exists_required faithful_text.stands
      obtain ⟨component, _, -, rfl, h₂⟩ := h₁.exists_required faithful_text.stands
      obtain ⟨category, _, -, rfl, h₃⟩ := h₂.exists_required faithful_category.stands
      obtain ⟨description, _, -, rfl, h₄⟩ := h₃.exists_required faithful_text.stands
      obtain ⟨properties, _, hproperties, rfl, h₅⟩ := h₄.exists_required Property.faithful.list.stands
      obtain ⟨tool, _, htool, rfl, h₆⟩ := h₅.exists_required Tool.faithful.stands
      obtain rfl := h₆.eq_nil
      exact ⟨⟨title, component, category, description, properties, tool⟩, ⟨hproperties, htool⟩, rfl⟩

/-- Every index in order is written. -/
theorem Index.faithful : Faithful (.record .index) Index.toValue Index.ofValue? Index.Ordered := by
  refine ⟨fun i hi => ?_, fun i hi => ?_, fun v hv => ?_⟩
  · exact .record (.present (Schema.faithful.list.canonical i.schemas hi) .nil)
  · have hschemas : listIn? Schema.ofValue? (.array (i.schemas.map (·.toValue))) = some i.schemas :=
      Schema.faithful.list.back i.schemas hi
    simp [Index.ofValue?, Index.toValue, entriesIn?, fieldIn?, hschemas]
  · cases hv with
    | record h =>
      obtain ⟨schemas, _, hschemas, rfl, h₁⟩ := h.exists_required Schema.faithful.list.stands
      obtain rfl := h₁.eq_nil
      exact ⟨⟨schemas⟩, hschemas, rfl⟩

/-! ## Texts -/

namespace Stored

variable {α : Type} [Stored α] {ordered : α → Prop}

/-- What is stored is read back from its text, in every style and with any blanks behind it. -/
theorem read_render (h : Faithful (shape α) toValue ofValue? ordered) {a : α} (ha : ordered a)
    (hd : (toValue a).depth ≤ nestingLimit) {style : Style} (hs : style.Blank) (trailing : List Char)
    (ht : ∀ x ∈ trailing, isGap x = true) :
    read (String.ofList ((toValue a).render style 0 ++ trailing)) = .ok a := by
  have hread : (shape α).read ((toValue a).render style 0 ++ trailing) = .ok (toValue a) :=
    Json.read_render StoredRecord.proper hs (h.canonical a ha) hd ht
  simp only [read, String.toList_ofList, hread, bind, Except.bind, h.back a ha]

/-- What is read from a text is in order, and nests no deeper than a text may. -/
theorem ordered_of_read (h : Faithful (shape α) toValue ofValue? ordered) {text : String} {a : α}
    (hr : read text = .ok a) : ordered a ∧ (toValue a).depth ≤ nestingLimit := by
  obtain ⟨v, hv, hr⟩ := bind_eq_ok.1 hr
  have hplain : (shape α).Plain := trivial
  obtain ⟨hcanonical, hd⟩ := Json.Shape.read_canonical StoredRecord.proper hplain hv
  obtain ⟨b, hb, rfl⟩ := h.stands v hcanonical
  rw [h.back b hb] at hr
  obtain rfl : b = a := Except.ok.inj hr
  exact ⟨hb, hd⟩

end Stored

end RenderCatalog
