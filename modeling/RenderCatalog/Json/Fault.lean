import RenderCatalog.Json.Printer
import RenderCatalog.Text.Quoted

/-!
# What can be wrong with a JSON text or value

A `Fault` names the cause and has one wording; a `Flaw` is a fault together with the number of bytes read when it was
found. Lines and columns are worked out from that number and the text, at the one place where a message is made.
-/

namespace RenderCatalog.Json

/-- What was met where something else was expected. -/
inductive Found where
  | null
  | bool (b : Bool)
  | number (n : Number)
  | string (s : String)
  | sequence
  | map
  deriving Repr, DecidableEq

/-- What a value shows of itself in a message. -/
def Found.ofValue : Value → Found
  | .null => .null
  | .bool b => .bool b
  | .number n => .number n
  | .string s => .string s
  | .array _ => .sequence
  | .object _ => .map

/-- The wording of what was met; scalars are quoted, containers only named. -/
def Found.text : Found → String
  | .null => "null"
  | .bool b => s!"boolean `{b}`"
  | .number (.int n) => "integer `" ++ String.ofList (intText n) ++ "`"
  | .number (.float x) => "floating point `" ++ String.ofList (floatText x) ++ "`"
  | .string s => "string " ++ Text.quoted s
  | .sequence => "sequence"
  | .map => "map"

/-- A cause for refusing a text or a value: first the faults of the text, then those of what it says. -/
inductive Fault where
  | endInList
  | endInObject
  | endInString
  | endInValue
  | colonExpected
  | listEndExpected
  | objectEndExpected
  | wordExpected
  | valueExpected
  | badEscape
  | badNumber
  | numberOutOfRange
  | controlInString
  | keyNotString
  | loneSurrogate
  | endOfHexEscape
  | trailingComma
  | trailingCharacters
  | tooDeep
  | missingField (key : String)
  | repeatedField (key : String)
  | unknownLabel (label : String) (known : List String)
  | wrongKind (found : Found) (expected : String)
  | wrongInteger (n : Int) (expected : String)
  | tooFew (present : Nat) (record : String) (fields : Nat)
  | tooMany (present : Nat)
  | notSingleKey
  deriving Repr, DecidableEq

/-- The labels a reader may choose from. -/
def alternatives (names : List String) : String :=
  match names.map (fun n => "`" ++ n ++ "`") with
  | [a] => a
  | [a, b] => a ++ " or " ++ b
  | all => "one of " ++ ", ".intercalate all

/-- The name of a record together with how many fields it has. -/
def sizedRecord (record : String) (fields : Nat) : String :=
  s!"struct {record} with {fields} element" ++ (if fields = 1 then "" else "s")

/-- The wording of a fault. -/
def Fault.message : Fault → String
  | .endInList => "EOF while parsing a list"
  | .endInObject => "EOF while parsing an object"
  | .endInString => "EOF while parsing a string"
  | .endInValue => "EOF while parsing a value"
  | .colonExpected => "expected `:`"
  | .listEndExpected => "expected `,` or `]`"
  | .objectEndExpected => "expected `,` or `\x7d`"
  | .wordExpected => "expected ident"
  | .valueExpected => "expected value"
  | .badEscape => "invalid escape"
  | .badNumber => "invalid number"
  | .numberOutOfRange => "number out of range"
  | .controlInString => "control character (\\u0000-\\u001F) found while parsing a string"
  | .keyNotString => "key must be a string"
  | .loneSurrogate => "lone leading surrogate in hex escape"
  | .endOfHexEscape => "unexpected end of hex escape"
  | .trailingComma => "trailing comma"
  | .trailingCharacters => "trailing characters"
  | .tooDeep => "recursion limit exceeded"
  | .missingField key => s!"missing field `{key}`"
  | .repeatedField key => s!"duplicate field `{key}`"
  | .unknownLabel label known => s!"unknown variant `{label}`, expected " ++ alternatives known
  | .wrongKind found expected => s!"invalid type: {found.text}, expected {expected}"
  | .wrongInteger n expected => "invalid value: integer `" ++ String.ofList (intText n) ++ s!"`, expected {expected}"
  | .tooFew present record fields => s!"invalid length {present}, expected " ++ sizedRecord record fields
  | .tooMany present => s!"invalid length {present}, expected fewer elements in array"
  | .notSingleKey => "invalid value: map, expected map with a single key"

/-- A fault and the number of bytes that had been read when it showed. -/
structure Flaw where
  fault : Fault
  offset : Nat
  deriving Repr, DecidableEq

/-- The line, and the column in bytes, that are reached after `left` more bytes of the text. -/
def positionFrom (line column : Nat) : Nat → List Char → Nat × Nat
  | _, [] => (line, column)
  | left, c :: rest =>
    if left < c.utf8Size then (line, column + left)
    else if c = '\n' then positionFrom (line + 1) 0 (left - 1) rest
    else positionFrom line (column + c.utf8Size) (left - c.utf8Size) rest

/-- The line and column after a number of bytes of a text; lines count from one. -/
def position (text : List Char) (offset : Nat) : Nat × Nat := positionFrom 1 0 offset text

/-- The wording of a flaw in a text, with the place where it shows. -/
def Flaw.message (text : List Char) (flaw : Flaw) : String :=
  let (line, column) := position text flaw.offset
  s!"{flaw.fault.message} at line {line} column {column}"

end RenderCatalog.Json
