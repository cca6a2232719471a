import RenderCatalog.Component.Basic
import RenderCatalog.Schema.Definition

/-!
# Schemas

The schema of a component lists its properties as they are declared, and carries the tool by which it is rendered: a name,
a description and the definitions of the parameters, sorted by name.
-/

namespace RenderCatalog

/-- A property of a component. -/
structure Property where
  name : String
  type : PropType
  required : Bool
  description : String
  allowed : Option (List String) := none
  items : Option Definition := none

/-- The parameters of a tool: definitions sorted by name, and the names that have to be given. -/
structure Parameters where
  type : PropType := .object
  properties : List (String × Definition)
  required : List String

/-- The tool that renders a component. -/
structure Tool where
  name : String
  description : String
  parameters : Parameters

/-- The schema of a component. -/
structure Schema where
  title : String
  component : String
  category : Category
  description : String
  properties : List Property
  tool : Tool

namespace Schema

/-- The word that tells a payload for this component from others. -/
def renderType (s : Schema) : String := Text.on Name.snake s.component

/-- The name of the file that the schema is stored in. -/
def fileName (s : Schema) : String := s.component ++ ".json"

end Schema

end RenderCatalog
