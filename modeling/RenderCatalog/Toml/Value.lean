/-!
# TOML values

A TOML document is a table. Tables remember how they came about, because that decides how the rest of the document may
extend them, and lists remember whether they were written as a list or grew by one table header at a time. Numbers and
moments keep the text they were written in.
-/

namespace RenderCatalog.Toml

/-- How a table came about: by its own header, by the header of a table inside it, by a dotted key, or in one line. -/
inductive Origin where
  | header
  | implied
  | dotted
  | inline
  deriving Repr, DecidableEq

/-- A TOML value; `grown` marks a list of tables that headers have made. -/
inductive Value where
  | string (s : String)
  | number (text : String)
  | moment (text : String)
  | boolean (b : Bool)
  | array (grown : Bool) (items : List Value)
  | table (origin : Origin) (entries : List (String × Value))
  deriving Repr, Inhabited

/-- The entries of a table. -/
abbrev Entries : Type := List (String × Value)

/-- The entries with the value of a key replaced. -/
def replaceEntry (key : String) (v : Value) (entries : Entries) : Entries :=
  entries.map fun e => if e.1 == key then (key, v) else e

/-- Changes the table that a path of keys leads to, where `origin` and `entries` are the table it starts from. Missing
tables are made on the way, by `making`; a list of tables stands for its last one. Inline tables are closed, and dotted
keys pass only through tables that have no header of their own. -/
def changeAt (making : Origin) (change : Origin → Entries → Option Entries) :
    List String → Origin → Entries → Option Entries
  | [], origin, entries => change origin entries
  | key :: path, _, entries =>
    match entries.lookup key with
    | none => (changeAt making change path making []).map fun inner => entries ++ [(key, .table making inner)]
    | some (.table origin inner) =>
      if origin = .inline || (making = .dotted && origin = .header) then none
      else (changeAt making change path origin inner).map fun inner => replaceEntry key (.table origin inner) entries
    | some (.array true items) =>
      match items.getLast? with
      | some (.table origin inner) =>
        (changeAt making change path origin inner).map fun inner =>
          replaceEntry key (.array true (items.dropLast ++ [.table origin inner])) entries
      | _ => none
    | some _ => none

/-- Gives a key a value in the table that the keys before it lead to. A key is given once, and a dotted key adds only to a
table that dotted keys have made. -/
def assign (path : List String) (key : String) (v : Value) (origin : Origin) (entries : Entries) : Option Entries :=
  changeAt .dotted (fun origin entries =>
    if (origin = .dotted) = path.isEmpty then none
    else if (entries.lookup key).isSome then none
    else some (entries ++ [(key, v)])) path origin entries

/-- Opens a table by its header: a new one, or one that only headers inside it have named so far. -/
def openTable (key : String) (entries : Entries) : Option Entries :=
  match entries.lookup key with
  | none => some (entries ++ [(key, .table .header [])])
  | some (.table .implied inner) => some (replaceEntry key (.table .header inner) entries)
  | some _ => none

/-- Opens one more table of a list by its header. -/
def openItem (key : String) (entries : Entries) : Option Entries :=
  match entries.lookup key with
  | none => some (entries ++ [(key, .array true [.table .header []])])
  | some (.array true items) => some (replaceEntry key (.array true (items ++ [.table .header []])) entries)
  | some _ => none

end RenderCatalog.Toml
