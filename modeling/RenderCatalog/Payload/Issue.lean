import RenderCatalog.Component.Prop
import RenderCatalog.Error
import RenderCatalog.Json.Printer

/-!
# Issues

An issue is one thing wrong with a payload: the place in it and the reason. Places are written as dotted paths with
indices in brackets.
-/

namespace RenderCatalog.Payload

/-- Why a value is refused. -/
inductive Reason where
  | notObject
  | missingParameter
  | reservedKey
  | unknownParameter
  | wrongType (expected : PropType) (got : Json.Kind)
  | notAllowed (text : String) (allowed : List String)
  | belowMinimum (minimum : Int64)
  | aboveMaximum (maximum : Int64)
  | missingField
  | unknownField
  | typeCollision (component : String)
  | badJson (message : String)
  deriving Repr, DecidableEq

/-- An integer as it is written in messages. -/
def integerText (n : Int64) : String := String.ofList (Json.intText n.toInt)

/-- The wording of a reason. -/
def Reason.text : Reason → String
  | .notObject => "payload must be a JSON object"
  | .missingParameter => "missing required parameter"
  | .reservedKey => "reserved for the component discriminator"
  | .unknownParameter => "unknown parameter"
  | .wrongType expected got => s!"expected {expected.label}, got {got.label}"
  | .notAllowed text allowed => s!"'{text}' is not one of: " ++ ", ".intercalate allowed
  | .belowMinimum minimum => "must be >= " ++ integerText minimum
  | .aboveMaximum maximum => "must be <= " ++ integerText maximum
  | .missingField => "missing required field"
  | .unknownField => "unknown field"
  | .typeCollision component => s!"prop collides with the render discriminator of {component}"
  | .badJson message => s!"invalid JSON: {message}"

/-- One thing wrong with a payload. -/
structure Issue where
  field : String
  reason : Reason
  deriving Repr, DecidableEq

/-- The wording of an issue. -/
def Issue.text (i : Issue) : String := s!"{i.field}: {i.reason.text}"

/-- An issue as the error of the operation that met it. -/
def Issue.toError (i : Issue) : Error := .validation i.field i.reason.text

end RenderCatalog.Payload
