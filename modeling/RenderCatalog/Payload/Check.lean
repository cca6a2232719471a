import RenderCatalog.Payload.Issue
import RenderCatalog.Schema.Compile

/-!
# Checking a payload

A payload is checked against the parameters of a tool, and every issue is listed: first the parameters that are missing,
then the entries of the payload in their order. The check of a value follows the value; a value of the wrong type has no
other issue.
-/

namespace RenderCatalog.Payload

open Json (Value Number)

/-- The place of a field below a path. -/
def fieldPath (path name : String) : String := path ++ "." ++ name

/-- The place of an item below a path. -/
def itemPath (path : String) (i : Nat) : String := s!"{path}[{i}]"

/-- The number lies below the bound, both taken as floating-point numbers. -/
def isBelow (n : Number) (minimum : Int64) : Bool := n.toBinary64.lt (.ofInt minimum.toInt)

/-- The number lies above the bound, both taken as floating-point numbers. -/
def isAbove (n : Number) (maximum : Int64) : Bool := (Decimal.Binary64.ofInt maximum.toInt).lt n.toBinary64

/-- What a definition has against a string. -/
def stringIssues (path : String) (d : Definition) (s : String) : List Issue :=
  match d.allowed with
  | some allowed => if allowed.contains s then [] else [⟨path, .notAllowed s allowed⟩]
  | none => []

/-- What a definition has against a number. -/
def numberIssues (path : String) (d : Definition) (n : Number) : List Issue :=
  (match d.minimum with
    | some minimum => if isBelow n minimum then [⟨path, .belowMinimum minimum⟩] else []
    | none => []) ++
  (match d.maximum with
    | some maximum => if isAbove n maximum then [⟨path, .aboveMaximum maximum⟩] else []
    | none => [])

/-- The fields that a definition requires and an object does not have. -/
def missingIssues (path : String) (d : Definition) (entries : List (String × Value)) : List Issue :=
  ((d.required.getD []).filter fun name => (entries.lookup name).isNone).map fun name =>
    ⟨fieldPath path name, .missingField⟩

mutual
/-- What a definition has against a value at a path. -/
def valueIssues (path : String) (d : Definition) : Value → List Issue
  | .array items =>
    if d.type = .array then
      match d.items with
      | some item => itemIssues path item 0 items
      | none => []
    else [⟨path, .wrongType d.type .array⟩]
  | .object entries =>
    if d.type = .object then
      missingIssues path d entries ++
        match d.properties with
        | some properties => entryIssues path properties (d.additional == some false) entries
        | none => []
    else [⟨path, .wrongType d.type .object⟩]
  | .string s => if d.type = .string then stringIssues path d s else [⟨path, .wrongType d.type .string⟩]
  | .number n => if d.type = .number then numberIssues path d n else [⟨path, .wrongType d.type .number⟩]
  | .bool _ => if d.type = .boolean then [] else [⟨path, .wrongType d.type .boolean⟩]
  | .null => [⟨path, .wrongType d.type .null⟩]
/-- What a definition has against the items of a list, counted from `i`. -/
def itemIssues (path : String) (item : Definition) (i : Nat) : List Value → List Issue
  | [] => []
  | v :: rest => valueIssues (itemPath path i) item v ++ itemIssues path item (i + 1) rest
/-- What the definitions of fields have against the entries of an object; `closed` refuses entries without a definition. -/
def entryIssues (path : String) (properties : List (String × Definition)) (closed : Bool) :
    List (String × Value) → List Issue
  | [] => []
  | (name, v) :: rest =>
    (match properties.lookup name with
      | some field => valueIssues (fieldPath path name) field v
      | none => if closed then [⟨fieldPath path name, .unknownField⟩] else []) ++
      entryIssues path properties closed rest
end

/-- A required parameter is missing when it is absent or null. -/
def isMissing (entries : List (String × Value)) (name : String) : Bool :=
  match entries.lookup name with
  | none => true
  | some v => v.isNull

/-- What a tool has against one entry of a payload. An optional parameter may be null. -/
def parameterIssues (p : Parameters) (key : String) (v : Value) : List Issue :=
  match p.properties.lookup key with
  | none => [⟨key, if key = Schema.typeKey then .reservedKey else .unknownParameter⟩]
  | some d => if v.isNull && !p.required.contains key then [] else valueIssues key d v

/-- Everything wrong with a payload for a schema. -/
def issues (s : Schema) : Value → List Issue
  | .object entries =>
    let p := s.tool.parameters
    (p.required.filter (isMissing entries)).map (fun name => ⟨name, .missingParameter⟩) ++
      entries.flatMap fun e => parameterIssues p e.1 e.2
  | _ => [⟨"$", .notObject⟩]

end RenderCatalog.Payload
