import RenderCatalog.Component.Category
import RenderCatalog.Component.Prop
import RenderCatalog.Path

/-!
# Components

What the catalog knows of a component before it has a schema: its name, where it was found, its category, a description
and its props. Without a comment in the source the description is the title of the file stem and the word `component`.
-/

namespace RenderCatalog

/-- A component as its source describes it. -/
structure Component where
  name : String
  sourcePath : String
  category : Category
  description : String
  props : List DescribedProp
  deriving Repr, DecidableEq

namespace Component

/-- The description of a component that has only its title to go by. -/
def plainDescription (title : String) : String := title ++ " component"

/-- The component of a file with the given props. -/
def describe (path : String) (props : List DeclaredProp) : Component :=
  let stem := Path.stem path
  { name := Text.on Name.pascal stem
    sourcePath := path
    category := .ofFileName stem
    description := plainDescription (Text.on Name.stemTitle stem)
    props := props.map (·.describe) }

/-- The names of the props that have to be given, in the order of the declaration. -/
def requiredNames (c : Component) : List String := (c.props.filter (·.required)).map (·.name)

/-- The first prop with a name. -/
def prop? (c : Component) (name : String) : Option DescribedProp := c.props.find? (·.name == name)

end Component

end RenderCatalog
