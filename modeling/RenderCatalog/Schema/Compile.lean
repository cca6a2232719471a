import RenderCatalog.Event
import RenderCatalog.Schema.Basic
import RenderCatalog.Schema.Vocabulary

/-!
# From a component to its schema

Compiling refines the types of known props, gives every list its items, and derives the tool. Parameters are kept sorted
by name: of props with one name the last one makes the parameter, while the list of properties keeps them all.
-/

namespace RenderCatalog.Schema

/-- The payload key that carries the render type. -/
def typeKey : String := "type"

/-- The type of a prop: a bound makes it a number, a shape a list, and otherwise it is its own. -/
def refinedType (p : DescribedProp) : PropType :=
  if (Vocabulary.bounds? p.name).isSome then .number
  else if (Vocabulary.shape? p.name).isSome then .array
  else p.type

/-- The property of a prop. -/
def propertyOf (p : DescribedProp) : Property :=
  let type := refinedType p
  { name := p.name
    type := type
    required := p.required
    description := p.description
    allowed := Vocabulary.choices? p.name
    items := if type = .array then some (Vocabulary.itemDefinition p.name) else none }

/-- The definition of the parameter that sets a property. -/
def definitionOf (p : Property) : Definition :=
  { type := p.type
    description := some p.description
    allowed := p.allowed
    minimum := (Vocabulary.bounds? p.name).bind (·.minimum)
    maximum := (Vocabulary.bounds? p.name).bind (·.maximum)
    items := p.items }

/-- What a tool says of itself: a description that only repeats the title is left out. -/
def toolDescription (title description : String) : String :=
  let plain := Component.plainDescription title
  if description.isEmpty || description == plain then "Render " ++ plain
  else "Render " ++ plain ++ ". " ++ description

/-- The schema of a component. -/
def compile (c : Component) : Schema :=
  let title := Text.on Name.title c.name
  let properties := c.props.map propertyOf
  { title := title
    component := c.name
    category := c.category
    description := c.description
    properties := properties
    tool :=
      { name := Text.on Name.tool c.name
        description := toolDescription title c.description
        parameters :=
          { properties := Json.sortEntries (properties.map fun p => (p.name, definitionOf p))
            required := (properties.filter (·.required)).map (·.name) } } }

/-- What there is to log of a compilation. -/
def compileEvents (c : Component) : List Event :=
  let s := compile c
  (if Name.isToolName s.tool.name.toList then [] else [.unusualToolName s.tool.name c.sourcePath]) ++
    (if (s.tool.parameters.properties.lookup typeKey).isSome then [.typeProp c.name] else []) ++
    [.compiled c.name s.tool.name s.properties.length]

end RenderCatalog.Schema
