import RenderCatalog.Json.Fit
import RenderCatalog.Json.Reader
import RenderCatalog.Schema.Basic

/-!
# Stored form

How components, schemas and definitions are written as JSON: the layout of each record, and for each type the value that
stands for it and the way back. Fields that may be absent are left out when they are, so an absent keyword and an empty
one stay apart.
-/

namespace RenderCatalog

open Json (Value Shape RecordField Layout Records)

/-- The records that are stored. -/
inductive StoredRecord where
  | component
  | prop
  | schema
  | property
  | tool
  | parameters
  | definition
  | index
  deriving Repr, DecidableEq

namespace StoredRecord

/-- The labels of the types. -/
def typeLabels : List String := PropType.all.map (·.label)

/-- The labels of the categories. -/
def categoryLabels : List String := Category.all.map (·.label)

/-- The title of a record. -/
def title : StoredRecord → String
  | .component => "ComponentDescriptor"
  | .prop => "PropDescriptor"
  | .schema => "ComponentSchema"
  | .property => "SchemaProperty"
  | .tool => "ToolDefinition"
  | .parameters => "ToolParameters"
  | .definition => "ParameterDefinition"
  | .index => "SchemaIndex"

/-- The fields of a record in the order in which they are written. -/
def fields : StoredRecord → List (RecordField StoredRecord)
  | .component => [
      ⟨"name", .required, .text⟩,
      ⟨"source_path", .required, .path⟩,
      ⟨"category", .required, .label categoryLabels⟩,
      ⟨"description", .required, .text⟩,
      ⟨"props", .required, .list (.record .prop)⟩]
  | .prop => [
      ⟨"name", .required, .text⟩,
      ⟨"type", .required, .label typeLabels⟩,
      ⟨"required", .required, .flag⟩,
      ⟨"description", .required, .text⟩]
  | .schema => [
      ⟨"name", .required, .text⟩,
      ⟨"component_name", .required, .text⟩,
      ⟨"category", .required, .label categoryLabels⟩,
      ⟨"description", .required, .text⟩,
      ⟨"properties", .required, .list (.record .property)⟩,
      ⟨"tool_definition", .required, .record .tool⟩]
  | .property => [
      ⟨"name", .required, .text⟩,
      ⟨"type", .required, .label typeLabels⟩,
      ⟨"required", .required, .flag⟩,
      ⟨"description", .required, .text⟩,
      ⟨"enum", .optional, .list .text⟩,
      ⟨"items", .optional, .record .definition⟩]
  | .tool => [
      ⟨"name", .required, .text⟩,
      ⟨"description", .required, .text⟩,
      ⟨"parameters", .required, .record .parameters⟩]
  | .parameters => [
      ⟨"type", .required, .label typeLabels⟩,
      ⟨"properties", .required, .table (.record .definition)⟩,
      ⟨"required", .required, .list .text⟩]
  | .definition => [
      ⟨"type", .required, .label typeLabels⟩,
      ⟨"description", .optional, .text⟩,
      ⟨"enum", .optional, .list .text⟩,
      ⟨"minimum", .optional, .integer⟩,
      ⟨"maximum", .optional, .integer⟩,
      ⟨"items", .optional, .record .definition⟩,
      ⟨"properties", .optional, .table (.record .definition)⟩,
      ⟨"required", .optional, .list .text⟩,
      ⟨"additionalProperties", .optional, .flag⟩]
  | .index => [⟨"schemas", .required, .list (.record .schema)⟩]

end StoredRecord

instance : Records StoredRecord := ⟨fun r => ⟨r.title, r.fields⟩⟩

/-- A type whose values are stored as a record: the value that stands for each of them, and what a canonical value stands
for. -/
class Stored (α : Type) where
  record : StoredRecord
  toValue : α → Value
  ofValue? : Value → Option α

namespace Stored

variable {α : Type} [Stored α]

/-- The shape under which a type is stored. -/
def shape (α : Type) [Stored α] : Shape StoredRecord := .record (Stored.record α)

/-- Whatever fits a shape stands for something; this flaw only closes the case that it does not. -/
def unreadable : Json.Flaw := ⟨.valueExpected, 0⟩

/-- What a text stands for, or the first flaw in it. -/
def read (text : String) : Except Json.Flaw α := do
  match ofValue? (← (shape α).read text.toList) with
  | some a => .ok a
  | none => .error unreadable

/-- What a value stands for, or the first fault in it. -/
def ofJson (v : Value) : Except Json.Fault α := do
  match ofValue? (← Json.fit (shape α) v) with
  | some a => .ok a
  | none => .error unreadable.fault

end Stored

/-- The entry of an optional field: none when the field is absent. -/
def optionalEntry {α : Type} (key : String) (toValue : α → Value) : Option α → List (String × Value)
  | some a => [(key, toValue a)]
  | none => []

/-- The text in a value. -/
def textIn? : Value → Option String
  | .string s => some s
  | _ => none

/-- The flag in a value. -/
def flagIn? : Value → Option Bool
  | .bool b => some b
  | _ => none

/-- The integer in a value. -/
def integerIn? : Value → Option Int64
  | .number (.int n) => some (Int64.ofInt n)
  | _ => none

/-- The list in a value, each item taken by `item`. -/
def listIn? {α : Type} (item : Value → Option α) : Value → Option (List α)
  | .array items => items.mapM item
  | _ => none

/-- The type in a value. -/
def typeIn? (v : Value) : Option PropType := (textIn? v).bind PropType.ofLabel?

/-- The category in a value. -/
def categoryIn? (v : Value) : Option Category := (textIn? v).bind Category.ofLabel?

/-- The value of a key, taken by `take`. -/
def fieldIn? {α : Type} (take : Value → Option α) (key : String) (entries : List (String × Value)) : Option α :=
  (entries.lookup key).bind take

/-- The value of a key that may be absent, taken by `take`. -/
def optionalIn? {α : Type} (take : Value → Option α) (key : String) (entries : List (String × Value)) :
    Option (Option α) :=
  match entries.lookup key with
  | none => some none
  | some v => (take v).map some

/-- The entries of an object. -/
def entriesIn? : Value → Option (List (String × Value))
  | .object entries => some entries
  | _ => none

/-- An integer as it is stored. -/
def integerValue (n : Int64) : Value := .ofInt n.toInt

mutual
/-- The value that stands for a definition. -/
def Definition.toValue (d : Definition) : Value :=
  match d with
  | ⟨type, description, allowed, minimum, maximum, items, properties, required, additional⟩ =>
    .object (("type", .string type.label) ::
      (optionalEntry "description" .string description ++ optionalEntry "enum" .ofStrings allowed ++
        optionalEntry "minimum" integerValue minimum ++ optionalEntry "maximum" integerValue maximum ++
        itemsEntry items ++ propertiesEntry properties ++
        optionalEntry "required" .ofStrings required ++ optionalEntry "additionalProperties" .bool additional))
/-- The entry of the items. -/
def itemsEntry : Option Definition → List (String × Value)
  | none => []
  | some d => [("items", d.toValue)]
/-- The entry of the fields. -/
def propertiesEntry : Option (List (String × Definition)) → List (String × Value)
  | none => []
  | some table => [("properties", .object (definitionsValue table))]
/-- The entries that stand for a table of definitions. -/
def definitionsValue : List (String × Definition) → List (String × Value)
  | [] => []
  | (name, d) :: rest => (name, d.toValue) :: definitionsValue rest
end

mutual
/-- The definition that a canonical value stands for. -/
def definitionIn? : Value → Option Definition
  | .object ((_, .string type) :: rest) => (PropType.ofLabel? type).bind fun type => keywordsIn? { type := type } rest
  | _ => none
/-- A definition with the keywords of further entries. -/
def keywordsIn? (d : Definition) : List (String × Value) → Option Definition
  | [] => some d
  | (key, v) :: rest =>
    if key = "description" then (textIn? v).bind fun s => keywordsIn? { d with description := some s } rest
    else if key = "enum" then (listIn? textIn? v).bind fun ss => keywordsIn? { d with allowed := some ss } rest
    else if key = "minimum" then (integerIn? v).bind fun n => keywordsIn? { d with minimum := some n } rest
    else if key = "maximum" then (integerIn? v).bind fun n => keywordsIn? { d with maximum := some n } rest
    else if key = "items" then (definitionIn? v).bind fun i => keywordsIn? { d with items := some i } rest
    else if key = "properties" then
      match v with
      | .object entries => (definitionsIn? entries).bind fun ds => keywordsIn? { d with properties := some ds } rest
      | _ => none
    else if key = "required" then (listIn? textIn? v).bind fun ss => keywordsIn? { d with required := some ss } rest
    else if key = "additionalProperties" then
      (flagIn? v).bind fun b => keywordsIn? { d with additional := some b } rest
    else none
/-- The definitions that the entries of a table stand for. -/
def definitionsIn? : List (String × Value) → Option (List (String × Definition))
  | [] => some []
  | (name, v) :: rest => (definitionIn? v).bind fun d => (definitionsIn? rest).map ((name, d) :: ·)
end

instance : Stored Definition := ⟨.definition, Definition.toValue, definitionIn?⟩

/-- The table of definitions in a value. -/
def tableIn? (v : Value) : Option (List (String × Definition)) := (entriesIn? v).bind definitionsIn?

namespace DescribedProp

/-- The value that stands for a prop. -/
def toValue (p : DescribedProp) : Value :=
  .object [("name", .string p.name), ("type", .string p.type.label), ("required", .bool p.required),
    ("description", .string p.description)]

/-- The prop that a canonical value stands for. -/
def ofValue? (v : Value) : Option DescribedProp := do
  let es ← entriesIn? v
  some ⟨← fieldIn? textIn? "name" es, ← fieldIn? typeIn? "type" es, ← fieldIn? flagIn? "required" es,
    ← fieldIn? textIn? "description" es⟩

end DescribedProp

instance : Stored DescribedProp := ⟨.prop, DescribedProp.toValue, DescribedProp.ofValue?⟩

namespace Component

/-- The value that stands for a component. -/
def toValue (c : Component) : Value :=
  .object [("name", .string c.name), ("source_path", .string c.sourcePath), ("category", .string c.category.label),
    ("description", .string c.description), ("props", .array (c.props.map (·.toValue)))]

/-- The component that a canonical value stands for. -/
def ofValue? (v : Value) : Option Component := do
  let es ← entriesIn? v
  some ⟨← fieldIn? textIn? "name" es, ← fieldIn? textIn? "source_path" es, ← fieldIn? categoryIn? "category" es,
    ← fieldIn? textIn? "description" es, ← fieldIn? (listIn? DescribedProp.ofValue?) "props" es⟩

end Component

instance : Stored Component := ⟨.component, Component.toValue, Component.ofValue?⟩

namespace Property

/-- The value that stands for a property. -/
def toValue (p : Property) : Value :=
  .object ([("name", .string p.name), ("type", .string p.type.label), ("required", .bool p.required),
    ("description", .string p.description)] ++ optionalEntry "enum" .ofStrings p.allowed ++
    optionalEntry "items" Definition.toValue p.items)

/-- The property that a canonical value stands for. -/
def ofValue? (v : Value) : Option Property := do
  let es ← entriesIn? v
  some ⟨← fieldIn? textIn? "name" es, ← fieldIn? typeIn? "type" es, ← fieldIn? flagIn? "required" es,
    ← fieldIn? textIn? "description" es, ← optionalIn? (listIn? textIn?) "enum" es, ← optionalIn? definitionIn? "items" es⟩

end Property

instance : Stored Property := ⟨.property, Property.toValue, Property.ofValue?⟩

namespace Parameters

/-- The value that stands for the parameters of a tool. -/
def toValue (p : Parameters) : Value :=
  .object [("type", .string p.type.label), ("properties", .object (definitionsValue p.properties)),
    ("required", .ofStrings p.required)]

/-- The parameters that a canonical value stands for. -/
def ofValue? (v : Value) : Option Parameters := do
  let es ← entriesIn? v
  some ⟨← fieldIn? typeIn? "type" es, ← fieldIn? tableIn? "properties" es, ← fieldIn? (listIn? textIn?) "required" es⟩

end Parameters

instance : Stored Parameters := ⟨.parameters, Parameters.toValue, Parameters.ofValue?⟩

namespace Tool

/-- The value that stands for a tool. -/
def toValue (t : Tool) : Value :=
  .object [("name", .string t.name), ("description", .string t.description), ("parameters", t.parameters.toValue)]

/-- The tool that a canonical value stands for. -/
def ofValue? (v : Value) : Option Tool := do
  let es ← entriesIn? v
  some ⟨← fieldIn? textIn? "name" es, ← fieldIn? textIn? "description" es, ← fieldIn? Parameters.ofValue? "parameters" es⟩

end Tool

instance : Stored Tool := ⟨.tool, Tool.toValue, Tool.ofValue?⟩

namespace Schema

/-- The value that stands for a schema. -/
def toValue (s : Schema) : Value :=
  .object [("name", .string s.title), ("component_name", .string s.component), ("category", .string s.category.label),
    ("description", .string s.description), ("properties", .array (s.properties.map (·.toValue))),
    ("tool_definition", s.tool.toValue)]

/-- The schema that a canonical value stands for. -/
def ofValue? (v : Value) : Option Schema := do
  let es ← entriesIn? v
  some ⟨← fieldIn? textIn? "name" es, ← fieldIn? textIn? "component_name" es, ← fieldIn? categoryIn? "category" es,
    ← fieldIn? textIn? "description" es, ← fieldIn? (listIn? Property.ofValue?) "properties" es,
    ← fieldIn? Tool.ofValue? "tool_definition" es⟩

end Schema

instance : Stored Schema := ⟨.schema, Schema.toValue, Schema.ofValue?⟩

end RenderCatalog
