import RenderCatalog.Json.Fault

/-!
# Shapes of JSON data

A `Shape` says what a stored value looks like: scalars, labels, lists, tables and records. Records are known by name, so
a record may hold itself, and `Records` gives each name its layout. Data may arrive in more spellings than one (a record
as a list of its fields, a label as an object with one key, unknown keys in between); both readers of a shape, the one for
texts and the one for values, end in the same canonical value, whose records list the fields that are present in the
order of the layout.
-/

namespace RenderCatalog.Json

/-- What a stored value looks like; `ρ` holds the names of the records. -/
inductive Shape (ρ : Type) where
  | text
  | path
  | flag
  | integer
  | label (names : List String)
  | list (item : Shape ρ)
  | table (item : Shape ρ)
  | record (name : ρ)
  | any
  deriving Repr, DecidableEq

/-- Whether a field has to be there: an optional field may be missing or null, a defaulted one may only be missing. -/
inductive Presence where
  | required
  | optional
  | defaulted
  deriving Repr, DecidableEq

/-- A field of a record. -/
structure RecordField (ρ : Type) where
  key : String
  presence : Presence
  shape : Shape ρ
  deriving Repr, DecidableEq

/-- The title of a record in messages, and its fields in order. -/
structure Layout (ρ : Type) where
  title : String
  fields : List (RecordField ρ)
  deriving Repr, DecidableEq

/-- The layouts of the records that `ρ` names. -/
class Records (ρ : Type) where
  layout : ρ → Layout ρ

/-- What has been found of a record's fields: a key with no value was there as null. -/
abbrev Findings : Type := List (String × Option Value)

namespace Layout

variable {ρ : Type}

/-- The field with a key. -/
def field? (l : Layout ρ) (key : String) : Option (RecordField ρ) := l.fields.find? (·.key == key)

/-- How a message names the record where another value was met. -/
def expectation (l : Layout ρ) : String := "struct " ++ l.title

/-- The first required field, in the order of the layout, that was not found. -/
def missing? (l : Layout ρ) (found : Findings) : Option (RecordField ρ) :=
  l.fields.find? fun f => f.presence == .required && (found.lookup f.key).isNone

/-- The canonical record of what was found: the fields that have a value, in the order of the layout. -/
def assemble (l : Layout ρ) (found : Findings) : Value :=
  .object (l.fields.filterMap fun f => ((found.lookup f.key).join).map fun v => (f.key, v))

end Layout

/-- How a message names the shape where another value was met. -/
def expectationOf {ρ : Type} [Records ρ] : Shape ρ → String
  | .text => "a string"
  | .path => "path string"
  | .flag => "a boolean"
  | .integer => "i64"
  | .label _ => "variant identifier"
  | .list _ => "a sequence"
  | .table _ => "a map"
  | .record r => (Records.layout r).expectation
  | .any => "any value"

end RenderCatalog.Json
