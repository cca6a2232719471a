import RenderCatalog.Schema.Stored

/-!
# The index of schemas

The index lists the schemas of a catalog in one file. A schema is found by its component name, its tool name or its
render type alike, and of several that answer to a key the first one is found.
-/

namespace RenderCatalog

/-- The schemas of a catalog, in order. -/
structure Index where
  schemas : List Schema

namespace Index

/-- The name of the file that an index is stored in. -/
def fileName : String := "index.json"

/-- The value that stands for an index. -/
def toValue (i : Index) : Json.Value := .object [("schemas", .array (i.schemas.map (·.toValue)))]

/-- The index that a canonical value stands for. -/
def ofValue? (v : Json.Value) : Option Index := do
  some ⟨← fieldIn? (listIn? Schema.ofValue?) "schemas" (← entriesIn? v)⟩

instance : Stored Index := ⟨.index, Index.toValue, Index.ofValue?⟩

/-- The index that a text writes. -/
def ofText (text : String) : Except Error Index :=
  (Stored.read text).mapError fun flaw =>
    let message := flaw.message text.toList
    .serialization s!"invalid schema index: {message}" message

/-- A schema answers to its component name, its tool name and its render type. -/
def answersTo (key : String) (s : Schema) : Bool :=
  s.component == key || s.tool.name == key || s.renderType == key

/-- The first schema that answers to a key. -/
def find? (i : Index) (key : String) : Option Schema := i.schemas.find? (answersTo key)

/-- The first schema that answers to a key, or the error that there is none. -/
def get (i : Index) (key : String) : Except Error Schema :=
  match i.find? key with
  | some s => .ok s
  | none => .error (.schemaNotFound key)

/-- The tool names in order. -/
def toolNames (i : Index) : List String := i.schemas.map (·.tool.name)

/-- The schemas of a category in order. -/
def ofCategory (i : Index) (category : Category) : List Schema := i.schemas.filter (·.category == category)

end Index

end RenderCatalog
