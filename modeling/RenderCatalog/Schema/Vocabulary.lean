import RenderCatalog.Schema.Definition

/-!
# The vocabulary of known props

Some prop names are known: they fix the strings a prop may be, the bounds of its numbers, or the shape of its items. A
name is looked up exactly as it is written. A bound makes the prop a number and a shape makes it a list, whatever its
name suggests otherwise.
-/

namespace RenderCatalog.Vocabulary

/-- The icons that an icon prop may name. -/
def icons : List String := ["sun", "cloud", "rain", "snow", "storm", "wind", "fog", "info", "alert", "check", "x"]

/-- The props whose strings are chosen from a list. -/
def choices : List (String × List String) := [
  ("chart_type", ["bar", "line", "pie", "area"]),
  ("variant", ["default", "success", "warning", "error"]),
  ("icon", icons)]

/-- The props whose numbers are bounded. -/
def bounded : List (String × Bounds) := [
  ("humidity", ⟨some 0, some 100⟩),
  ("wind_speed", ⟨some 0, none⟩)]

/-- The shapes of list items that are known. -/
inductive ItemShape where
  | chartDataPoint
  | tableColumn
  | tableRow
  deriving Repr, DecidableEq

/-- The name of a shape. -/
def ItemShape.label : ItemShape → String
  | .chartDataPoint => "ChartDataPoint"
  | .tableColumn => "TableColumn"
  | .tableRow => "TableRow"

/-- The props whose items have a known shape. -/
def shaped : List (String × ItemShape) := [
  ("data", .chartDataPoint),
  ("columns", .tableColumn),
  ("rows", .tableRow)]

/-- The strings that a prop may be. -/
def choices? (name : String) : Option (List String) := choices.lookup name

/-- The bounds of a prop. -/
def bounds? (name : String) : Option Bounds := bounded.lookup name

/-- The shape of a prop's items. -/
def shape? (name : String) : Option ItemShape := shaped.lookup name

/-- A field of an item: its name, type, description, and whether an item must have it. -/
structure ItemField where
  name : String
  type : PropType
  description : String
  required : Bool
  deriving Repr, DecidableEq

/-- An object that has these fields and no others. -/
def closedObject (fields : List ItemField) : Definition :=
  { type := .object
    properties := some (Json.sortEntries (fields.map fun f => (f.name, { type := f.type, description := some f.description })))
    required := some ((fields.filter (·.required)).map (·.name))
    additional := some false }

/-- The definition of the items of a shape. -/
def ItemShape.definition : ItemShape → Definition
  | .chartDataPoint => closedObject [
      ⟨"label", .string, "Data point label", true⟩,
      ⟨"value", .number, "Data point value", true⟩,
      ⟨"color", .string, "Optional color for this data point", false⟩]
  | .tableColumn => closedObject [
      ⟨"key", .string, "Column identifier", true⟩,
      ⟨"label", .string, "Column display name", true⟩,
      ⟨"sortable", .boolean, "Whether column is sortable", false⟩]
  | .tableRow => { type := .object, description := some "Row data as key-value pairs", additional := some true }

/-- Items of no known shape are objects of any kind. -/
def anyItem : Definition := { type := .object }

/-- The definition of the items of a list prop. -/
def itemDefinition (name : String) : Definition := (shape? name).elim anyItem (·.definition)

end RenderCatalog.Vocabulary
