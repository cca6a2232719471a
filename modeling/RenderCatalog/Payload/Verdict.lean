import RenderCatalog.Json.Reader
import RenderCatalog.Payload.Render
import RenderCatalog.Schema.Listing

/-!
# Verdicts

A verdict on the text of a payload either holds its rendering or says everything that is wrong with it. A text that is
not JSON is refused like a payload that does not fit; only an index that cannot be used, or that does not know the
component, leaves a payload without a verdict.
-/

namespace RenderCatalog.Payload

open Json (Value)

/-- What came of checking a payload. -/
inductive Verdict where
  | accepted (rendering : Rendering)
  | rejected (component : String) (issues : List Issue)

/-- The verdict on a payload. -/
def Verdict.ofValue (s : Schema) (payload : Value) : Verdict :=
  match issues s payload with
  | first :: rest => .rejected s.component (first :: rest)
  | [] =>
    match render s payload with
    | .ok rendering => .accepted rendering
    | .error issue => .rejected s.component [issue]

/-- The verdict on the text of a payload. -/
def Verdict.ofText (s : Schema) (text : String) : Verdict :=
  match Value.read text.toList with
  | .ok payload => .ofValue s payload
  | .error flaw => .rejected s.component [⟨"$", .badJson (flaw.message text.toList)⟩]

/-- The value that stands for an issue. -/
def Issue.toValue (i : Issue) : Value := .object [("field", .string i.field), ("reason", .string i.reason.text)]

/-- The value that stands for a verdict: the rendering itself, or a report on the issues. -/
def Verdict.toValue : Verdict → Value
  | .accepted rendering => rendering.toValue
  | .rejected component issues =>
    .object [("component", .string component), ("valid", .bool false), ("issues", .array (issues.map (·.toValue)))]

variable {m : Type → Type} [Monad m] [Host m]

/-- The verdict on a payload for the component that answers to a key in the index at a path. -/
def check (index key text : String) : m (Except Failure Verdict) := do
  match ← Index.load index with
  | .error f => return .error f
  | .ok i =>
    match i.get key with
    | .error e => return .error (.ofError e)
    | .ok schema => return .ok (.ofText schema text)

end RenderCatalog.Payload
