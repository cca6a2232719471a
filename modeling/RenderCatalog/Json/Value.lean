import RenderCatalog.Decimal.Binary64

/-!
# JSON values

A JSON value with its object entries in an order of their own. Objects that were read have their entries sorted by key
and each key once (`insertEntry` keeps both); objects that are built to be printed list their entries as declared.
-/

namespace RenderCatalog.Json

open Decimal (Binary64)

/-- A JSON number: an integer that 64 bits hold, or a floating-point number. -/
inductive Number where
  | int (n : Int)
  | float (x : Binary64)
  deriving Repr, DecidableEq

/-- The number as a floating-point number, in which integers and bounds are compared. -/
def Number.toBinary64 : Number → Binary64
  | .int n => .ofInt n
  | .float x => x

/-- A JSON value; the entries of an object are listed in order. -/
inductive Value where
  | null
  | bool (b : Bool)
  | number (n : Number)
  | string (s : String)
  | array (items : List Value)
  | object (entries : List (String × Value))
  deriving Repr, Inhabited

/-- The six kinds of JSON value. -/
inductive Kind where
  | null
  | boolean
  | number
  | string
  | array
  | object
  deriving Repr, DecidableEq

/-- The word for a kind in messages. -/
def Kind.label : Kind → String
  | .null => "null"
  | .boolean => "boolean"
  | .number => "number"
  | .string => "string"
  | .array => "array"
  | .object => "object"

namespace Value

/-- The kind of a value. -/
def kind : Value → Kind
  | .null => .null
  | .bool _ => .boolean
  | .number _ => .number
  | .string _ => .string
  | .array _ => .array
  | .object _ => .object

/-- The value is `null`. -/
def isNull : Value → Bool
  | .null => true
  | _ => false

/-- An integer value. -/
def ofInt (n : Int) : Value := .number (.int n)

/-- A list of texts. -/
def ofStrings (texts : List String) : Value := .array (texts.map .string)

end Value

/-- The entry for a key takes its place in sorted order; an entry that the key already had is replaced. -/
def insertEntry {α : Type} (key : String) (value : α) : List (String × α) → List (String × α)
  | [] => [(key, value)]
  | (k, v) :: rest =>
    if key < k then (key, value) :: (k, v) :: rest
    else if key = k then (key, value) :: rest
    else (k, v) :: insertEntry key value rest

/-- The entries sorted by key, each key once with its last value. -/
def sortEntries {α : Type} (entries : List (String × α)) : List (String × α) :=
  entries.foldl (fun sorted e => insertEntry e.1 e.2 sorted) []

/-- The entries without those of a key. -/
def eraseEntry {α : Type} (key : String) (entries : List (String × α)) : List (String × α) :=
  entries.filter (·.1 != key)

mutual
/-- The value with the entries of every object in it sorted by key. -/
def Value.sorted : Value → Value
  | .array items => .array (sortedItems items)
  | .object entries => .object (sortEntries (sortedEntries entries))
  | v => v
/-- The items with the objects in them sorted. -/
def sortedItems : List Value → List Value
  | [] => []
  | v :: rest => v.sorted :: sortedItems rest
/-- The entries, in their order, with the objects in them sorted. -/
def sortedEntries : List (String × Value) → List (String × Value)
  | [] => []
  | (key, v) :: rest => (key, v.sorted) :: sortedEntries rest
end

mutual
/-- How many arrays and objects enclose the deepest value, the value itself counted. -/
def Value.depth : Value → Nat
  | .array items => depthOfItems items + 1
  | .object entries => depthOfEntries entries + 1
  | _ => 0
/-- The greatest depth among the items. -/
def depthOfItems : List Value → Nat
  | [] => 0
  | v :: rest => max v.depth (depthOfItems rest)
/-- The greatest depth among the entries. -/
def depthOfEntries : List (String × Value) → Nat
  | [] => 0
  | (_, v) :: rest => max v.depth (depthOfEntries rest)
end

end RenderCatalog.Json
