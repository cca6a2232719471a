import RenderCatalog.Component.Prop

/-!
# Definitions

A definition says which values a parameter takes: its type, and, where they apply, the strings it may be, the bounds of
its numbers, the definition of its items and those of its fields. Definitions nest through items and fields.
-/

namespace RenderCatalog

/-- What values a parameter takes; fields are sorted by name. -/
structure Definition where
  type : PropType
  description : Option String := none
  allowed : Option (List String) := none
  minimum : Option Int64 := none
  maximum : Option Int64 := none
  items : Option Definition := none
  properties : Option (List (String × Definition)) := none
  required : Option (List String) := none
  additional : Option Bool := none

/-- Inclusive bounds of a number. -/
structure Bounds where
  minimum : Option Int64
  maximum : Option Int64
  deriving Repr, DecidableEq

end RenderCatalog
