import RenderCatalog.Json.Shape

/-!
# Fitting a value to a shape

The twin of the text reader for a value that has been read already: the same spellings are accepted and the same
canonical value results, the entries of an object are visited in their order, and faults have no place in a text.
-/

namespace RenderCatalog.Json

/-- A label among the known ones. -/
def fitLabel (names : List String) (s : String) : Except Fault Value :=
  if names.contains s then .ok (.string s) else .error (.unknownLabel s names)

/-- The value, when it is an integer that is stored. -/
def fitInteger : Number → Except Fault Value
  | .int n => if Int64.minValue.toInt ≤ n && n ≤ Int64.maxValue.toInt then .ok (.ofInt n) else .error (.wrongInteger n "i64")
  | .float x => .error (.wrongKind (.number (.float x)) "i64")

/-- A label as a one-key object has null for its value. -/
def fitUnit : Value → Except Fault Unit
  | .null => .ok ()
  | v => .error (.wrongKind (.ofValue v) "unit")

/-- The findings of a record that has all its required fields, as the canonical record. -/
def Layout.complete {ρ : Type} (l : Layout ρ) (found : Findings) : Except Fault Value :=
  match l.missing? found with
  | some f => .error (.missingField f.key)
  | none => .ok (l.assemble found)

/-- The value of a field from its canonical value: null stands for an absent value where the field is optional. -/
def RecordField.settle {ρ : Type} (f : RecordField ρ) (v : Value) (canonical : Except Fault Value) : Except Fault (Option Value) :=
  if f.presence = .optional && v.isNull then .ok none else canonical.map some

mutual
/-- The canonical value of a value for a shape. -/
def fit {ρ : Type} [Records ρ] (shape : Shape ρ) : Value → Except Fault Value
  | .array items =>
    match shape with
    | .list item => do .ok (.array (← fitItems item items))
    | .record r => do .ok ((Records.layout r).assemble (← fitPositional (Records.layout r) 0 (Records.layout r).fields items))
    | .any => .ok (.array items)
    | .label _ => .error (.wrongKind .sequence "string or map")
    | other => .error (.wrongKind .sequence (expectationOf other))
  | .object entries =>
    match shape with
    | .table item => do .ok (.object (← fitTable item entries))
    | .record r => do (Records.layout r).complete (← fitMembers (Records.layout r) entries)
    | .any => .ok (.object entries)
    | .label names =>
      match entries with
      | [(key, v)] => do
        let label ← fitLabel names key
        fitUnit v
        .ok label
      | _ => .error .notSingleKey
    | other => .error (.wrongKind .map (expectationOf other))
  | v =>
    match shape, v with
    | .text, .string _ => .ok v
    | .path, .string _ => .ok v
    | .flag, .bool _ => .ok v
    | .integer, .number n => fitInteger n
    | .label names, .string s => fitLabel names s
    | .label _, _ => .error (.wrongKind (.ofValue v) "string or map")
    | .any, _ => .ok v
    | other, _ => .error (.wrongKind (.ofValue v) (expectationOf other))
/-- The canonical values of the items of a list. -/
def fitItems {ρ : Type} [Records ρ] (item : Shape ρ) : List Value → Except Fault (List Value)
  | [] => .ok []
  | v :: rest => do
    let v ← fit item v
    .ok (v :: (← fitItems item rest))
/-- The canonical values of the entries of a table. -/
def fitTable {ρ : Type} [Records ρ] (item : Shape ρ) : List (String × Value) → Except Fault (List (String × Value))
  | [] => .ok []
  | (key, v) :: rest => do
    let v ← fit item v
    .ok ((key, v) :: (← fitTable item rest))
/-- What the entries of an object say of a record's fields; other keys are passed over. -/
def fitMembers {ρ : Type} [Records ρ] (l : Layout ρ) : List (String × Value) → Except Fault Findings
  | [] => .ok []
  | (key, v) :: rest =>
    match l.field? key with
    | none => fitMembers l rest
    | some f => do
      let found ← f.settle v (fit f.shape v)
      .ok ((key, found) :: (← fitMembers l rest))
/-- What a list says of a record's fields, from one field on; `present` counts the items before it. -/
def fitPositional {ρ : Type} [Records ρ] (l : Layout ρ) (present : Nat) : List (RecordField ρ) → List Value → Except Fault Findings
  | fields, [] =>
    if fields.any (·.presence == .required) then .error (.tooFew present l.title l.fields.length) else .ok []
  | [], rest => .error (.tooMany (present + rest.length))
  | f :: fields, v :: rest => do
    let found ← f.settle v (fit f.shape v)
    .ok ((f.key, found) :: (← fitPositional l (present + 1) fields rest))
end

end RenderCatalog.Json
