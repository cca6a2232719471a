import RenderCatalog.Component.Name
import RenderCatalog.Component.Rules
import RenderCatalog.Json.Value

/-!
# Props

A prop has a structural type, which is guessed from its name alone. Its description is the name as a phrase.
-/

namespace RenderCatalog

/-- The structural type of a prop or parameter. -/
inductive PropType where
  | string
  | number
  | boolean
  | array
  | object
  deriving Repr, DecidableEq

namespace PropType

/-- All types, in the order in which they are listed. -/
def all : List PropType := [.string, .number, .boolean, .array, .object]

/-- The keyword of a type. -/
def label : PropType → String
  | .string => "string"
  | .number => "number"
  | .boolean => "boolean"
  | .array => "array"
  | .object => "object"

/-- The type with a keyword. -/
def ofLabel? (s : String) : Option PropType := all.find? (·.label == s)

/-- The kind of the values that have the type. -/
def kind : PropType → Json.Kind
  | .string => .string
  | .number => .number
  | .boolean => .boolean
  | .array => .array
  | .object => .object

/-- The value has the type. -/
def admits (type : PropType) (v : Json.Value) : Bool := v.kind == type.kind

/-- Words that give a type away. -/
def rules : NameRules PropType where
  rules := [
    (["temperature", "value", "speed"], .number),
    (["data", "rows", "columns"], .array),
    (["searchable", "sortable", "required"], .boolean)]
  fallback := .string

/-- The type that a prop name suggests. -/
def ofPropName (name : String) : PropType := rules.outcome name

end PropType

/-- A prop as its component declares it: its name, and whether it has to be given. -/
structure DeclaredProp where
  name : String
  required : Bool
  deriving Repr, DecidableEq

/-- A prop with its type and its description. -/
structure DescribedProp where
  name : String
  type : PropType
  required : Bool
  description : String
  deriving Repr, DecidableEq

/-- A declared prop with the type and the description that its name suggests. -/
def DeclaredProp.describe (p : DeclaredProp) : DescribedProp :=
  ⟨p.name, .ofPropName p.name, p.required, Text.on Name.phrase p.name⟩

end RenderCatalog
