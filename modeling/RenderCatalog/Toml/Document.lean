import RenderCatalog.Toml.Scalar

/-!
# Reading TOML

A document is read line by line: a header opens a table and every other line gives a key its value in the table that is
open. The reader answers only whether a text is a document and what it says, because nothing more is ever told about a
document that is none.
-/

namespace RenderCatalog.Toml

/-- How deep lists and inline tables may nest. -/
def nestingLimit : Nat := 80

/-- The text after a comment, up to the end of its line. -/
def afterComment? (cs : List Char) : Option (List Char) :=
  match cs with
  | '#' :: rest =>
    let after := rest.dropWhile isShown
    if after.isEmpty || startsLine after then some after else none
  | _ => some cs

/-- The text after blanks, line ends and comments; every round takes at least one character. -/
def afterLinesFrom? : Nat → List Char → Option (List Char)
  | 0, cs => some cs
  | rounds + 1, cs => do
    let cs ← afterComment? (afterSpace cs)
    if startsLine cs then afterLinesFrom? rounds (dropLineEnd cs) else some cs

/-- The text after blanks, line ends and comments. -/
def afterLines? (cs : List Char) : Option (List Char) := afterLinesFrom? (cs.length + 1) cs

/-- The items of a list up to its closing bracket; a comma may follow the last one. -/
def readItems? (item : List Char → Option (Value × List Char)) : Nat → List Char → Option (List Value × List Char)
  | 0, _ => none
  | rounds + 1, cs => do
    match ← afterLines? cs with
    | ']' :: rest => some ([], rest)
    | cs =>
      let (v, rest) ← item cs
      match ← afterLines? rest with
      | ']' :: rest => some ([v], rest)
      | ',' :: rest =>
        let (vs, rest) ← readItems? item rounds rest
        some (v :: vs, rest)
      | _ => none

/-- A key with its value, as the keys on the way, the last key and the value. -/
def readPair? (item : List Char → Option (Value × List Char)) (cs : List Char) :
    Option ((List String × String × Value) × List Char) := do
  let (keys, rest) ← readKey? cs
  let key ← keys.getLast?
  match rest with
  | '=' :: rest =>
    let (v, rest) ← item (afterSpace rest)
    some ((keys.dropLast, key, v), rest)
  | _ => none

/-- The entries of an inline table up to its closing brace; a comma may follow the last one. -/
def readEntries? (item : List Char → Option (Value × List Char)) :
    Nat → Entries → List Char → Option (Entries × List Char)
  | 0, _, _ => none
  | rounds + 1, entries, cs => do
    match ← afterLines? cs with
    | '}' :: rest => some (entries, rest)
    | cs =>
      let ((path, key, v), rest) ← readPair? item cs
      let entries ← assign path key v .inline entries
      match ← afterLines? rest with
      | '}' :: rest => some (entries, rest)
      | ',' :: rest => readEntries? item rounds entries rest
      | _ => none

/-- A value, where lists and inline tables may still nest `depth` deep. -/
def readValue? : Nat → List Char → Option (Value × List Char)
  | depth, '[' :: rest =>
    match depth with
    | 0 => none
    | depth + 1 => do
      let (items, rest) ← readItems? (readValue? depth) (rest.length + 1) rest
      some (.array false items, rest)
  | depth, '{' :: rest =>
    match depth with
    | 0 => none
    | depth + 1 => do
      let (entries, rest) ← readEntries? (readValue? depth) (rest.length + 1) [] rest
      some (.table .inline entries, rest)
  | _, '"' :: rest => (readString? ('"' :: rest)).map fun (s, rest) => (.string s, rest)
  | _, '\'' :: rest => (readString? ('\'' :: rest)).map fun (s, rest) => (.string s, rest)
  | _, cs => readWord? cs

/-- A document that is being read: its entries, and the path to the table that is open. -/
structure Draft where
  entries : Entries := []
  path : List String := []

/-- A key given a value in the table that is open. -/
def Draft.assign (d : Draft) (path : List String) (key : String) (v : Value) : Option Draft :=
  (changeAt .implied (fun origin entries => Toml.assign path key v origin entries) d.path .header d.entries).map
    fun entries => { d with entries }

/-- A header opens the table of a key, or one more table of a list. -/
def Draft.header (d : Draft) (keys : List String) (item : Bool) : Option Draft := do
  let key ← keys.getLast?
  let entries ← changeAt .implied (fun _ entries => if item then openItem key entries else openTable key entries)
    keys.dropLast .header d.entries
  some ⟨entries, keys⟩

/-- The part of a line that is a header. -/
def readHeader? (d : Draft) : List Char → Option (Draft × List Char)
  | '[' :: '[' :: rest => do
    match ← readKey? rest with
    | (keys, ']' :: ']' :: rest) => (d.header keys true).map fun d => (d, rest)
    | _ => none
  | '[' :: rest => do
    match ← readKey? rest with
    | (keys, ']' :: rest) => (d.header keys false).map fun d => (d, rest)
    | _ => none
  | _ => none

/-- The part of a line that is not a comment. -/
def readStatement? (d : Draft) (cs : List Char) : Option (Draft × List Char) :=
  match cs with
  | [] => some (d, cs)
  | c :: _ =>
    if c = '#' || startsLine cs then some (d, cs)
    else if c = '[' then readHeader? d cs
    else do
      let ((path, key, v), rest) ← readPair? (readValue? nestingLimit) cs
      some (← d.assign path key v, rest)

/-- The lines of a document; every round but the last takes at least a line end. -/
def readLines? : Nat → Draft → List Char → Option Draft
  | 0, _, _ => none
  | rounds + 1, d, cs => do
    let (d, rest) ← readStatement? d (afterSpace cs)
    let rest ← afterComment? (afterSpace rest)
    if rest.isEmpty then some d
    else if startsLine rest then readLines? rounds d (dropLineEnd rest)
    else none

/-- What a text says, when it is a document. A byte order mark at its front is passed over. -/
def read? (text : List Char) : Option Entries :=
  let cs := match text with
    | '\ufeff' :: rest => rest
    | _ => text
  (readLines? (cs.length + 1) {} cs).map (·.entries)

end RenderCatalog.Toml
