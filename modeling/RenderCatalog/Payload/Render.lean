import RenderCatalog.Payload.Check

/-!
# Rendered payloads

A payload without issues is handed to a renderer in one flat object: the render type first, then the arguments. A prop
that is itself called `type` may be declared, but it cannot be set, because it would take the place of the render type.
-/

namespace RenderCatalog.Payload

open Json (Value)

/-- What a renderer receives: the render type and the arguments. -/
structure Rendering where
  renderType : String
  props : List (String × Value)

/-- The arguments that are left when the key of the render type is taken out. -/
def argumentsOf : Value → List (String × Value)
  | .object entries => Json.eraseEntry Schema.typeKey entries
  | _ => []

/-- The value under the key of the render type, when it is set. -/
def ownType? : Value → Option Value
  | .object entries => (entries.lookup Schema.typeKey).filter (!·.isNull)
  | _ => none

/-- The rendering of a payload, or the first issue with it. -/
def render (s : Schema) (payload : Value) : Except Issue Rendering :=
  match issues s payload with
  | issue :: _ => .error issue
  | [] =>
    match ownType? payload with
    | some _ => .error ⟨Schema.typeKey, .typeCollision s.component⟩
    | none => .ok ⟨s.renderType, argumentsOf payload⟩

/-- The flat object of a rendering. -/
def Rendering.toValue (r : Rendering) : Value := .object ((Schema.typeKey, .string r.renderType) :: r.props)

end RenderCatalog.Payload
