import RenderCatalog.Artifact

/-!
# Listing tools

A listing shows the tools of an index in its order, each with what it is about and what it needs.
-/

namespace RenderCatalog

open Json (Value)

/-- One tool in a listing. -/
structure ToolSummary where
  name : String
  component : String
  category : Category
  description : String
  required : List String
  parameters : Nat
  deriving Repr, DecidableEq

namespace ToolSummary

/-- The summary of a schema's tool. -/
def ofSchema (s : Schema) : ToolSummary :=
  { name := s.tool.name
    component := s.component
    category := s.category
    description := s.tool.description
    required := s.tool.parameters.required
    parameters := s.tool.parameters.properties.length }

/-- The value that stands for a summary. -/
def toValue (t : ToolSummary) : Value :=
  .object [("name", .string t.name), ("component", .string t.component), ("category", .string t.category.label),
    ("description", .string t.description), ("required", .ofStrings t.required), ("parameters", .ofInt t.parameters)]

end ToolSummary

/-- The tools of an index, only those of one category when one is given. -/
def Index.summaries (i : Index) (category? : Option Category) : List ToolSummary :=
  (match category? with
    | some category => i.ofCategory category
    | none => i.schemas).map ToolSummary.ofSchema

variable {m : Type → Type} [Monad m] [Host m]

/-- The index at a path, as the step of a command. -/
def Index.load (path : String) : m (Except Failure Index) := do
  return during s!"failed to load schema index from {path}" (← Artifact.loadIndex path)

/-- The tools of the index at a path. -/
def listTools (path : String) (category? : Option Category) : m (Except Failure (List ToolSummary)) := do
  return (← Index.load path).map (·.summaries category?)

end RenderCatalog
