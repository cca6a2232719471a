import RenderCatalog.Component.Category
import RenderCatalog.Component.Name
import RenderCatalog.Json.Value

/-!
# Planned components

A component is planned under a name that is written hyphenated or in Pascal case. Both give the same pair of a component
name and a file stem, and the stem alone gives the component name again.
-/

namespace RenderCatalog

/-- A component that would be created: its name, its category and the stem of its file. -/
structure Plan where
  component : String
  category : Category
  stem : String
  deriving Repr, DecidableEq

namespace Plan

/-- The letters of the ASCII range. -/
def isLetter (c : Char) : Bool := c.isAlpha

/-- The characters of a name that can be planned. -/
def isNameChar (c : Char) : Bool := c.isAlphanum || c == '-'

/-- The name can be planned: ASCII letters, digits and single inner hyphens, a letter first. -/
def isName (name : List Char) : Bool :=
  name.all isNameChar && name.head?.any isLetter && name.getLast? != some '-' && !Text.occurs ['-', '-'] name

/-- The file stem of a name: a hyphenated name turns small, and so does one without capitals; capitals of any other name
start the words of the stem. -/
def stemOf (name : List Char) : List Char :=
  if name.contains '-' || name.all (!·.isUpper) then Text.lowercase name
  else (Name.snake name).map fun c => if c = '_' then '-' else c

/-- The component name and the file stem that a name stands for. -/
def names (name : String) : Except Failure (String × String) :=
  if isName name.toList then
    let stem := stemOf name.toList
    .ok (String.ofList (Name.pascal stem), String.ofList stem)
  else .error <| .ofMessage <|
    s!"invalid component name '{name}': use kebab-case (weather-card) or PascalCase (WeatherCard)"

/-- The plan for a name and a category. -/
def make (name category : String) : Except Failure Plan := do
  let (component, stem) ← names name
  let category ← (Category.parse category).mapError fun e => .ofMessage e.message
  .ok ⟨component, category, stem⟩

/-- The file that would be created. -/
def file (p : Plan) : String := p.stem ++ ".tsx"

/-- The value that stands for a plan. No plan is carried out. -/
def toValue (p : Plan) : Json.Value :=
  .object [("component", .string p.component), ("category", .string p.category.label), ("file", .string p.file),
    ("status", .string "not_implemented")]

end Plan

end RenderCatalog
