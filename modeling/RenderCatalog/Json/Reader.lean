import RenderCatalog.Json.Cursor
import RenderCatalog.Json.Shape

/-!
# Reading JSON text by shape

One reader takes a text apart along a `Shape` and gives the canonical value or the first flaw in the order of the text,
so what a byte means is decided by what is expected there. Arrays and objects may nest `nestingLimit` deep, and the depth
that is left bounds the recursion; values that nobody asks for are passed over without a limit.
-/

namespace RenderCatalog.Json

/-- How deep arrays and objects may nest. -/
def nestingLimit : Nat := 127

/-- Where the passing over of a value stands: before a part, after an opening bracket, or after a part. -/
inductive Turn where
  | part
  | opened
  | closed
  deriving Repr, DecidableEq

/-- Past a key and its colon, when the part that follows stands in an object. -/
def skipKey (due : List Char) (c : Cursor) : Except Flaw Cursor :=
  match due with
  | '}' :: _ =>
    let c := c.skipGap
    match c.rest with
    | [] => .error (c.flawHere .endInObject)
    | '"' :: _ => do
      let c := (← c.skipString).skipGap
      match c.rest with
      | [] => .error (c.flawHere .endInObject)
      | ':' :: _ => .ok (c.drop 1)
      | _ => .error (c.flawAhead .colonExpected)
    | _ => .error (c.flawAhead .keyNotString)
  | _ => .ok c

/-- Passes over a value; `due` holds the closing brackets that are due, the innermost first. Every second round reads at
least one character, so twice the length of the text bounds the rounds. -/
def skipNested : Nat → Turn → List Char → Cursor → Except Flaw Cursor
  | 0, _, _, c => .error (c.flawHere .endInValue)
  | rounds + 1, .part, due, c => do
    let c := (← skipKey due c).skipGap
    match c.rest with
    | [] => .error (c.flawHere .endInValue)
    | '[' :: _ => skipNested rounds .opened (']' :: due) (c.drop 1)
    | '{' :: _ => skipNested rounds .opened ('}' :: due) (c.drop 1)
    | _ =>
      match c.skipScalar? with
      | some after => skipNested rounds .closed due (← after)
      | none => .error (c.flawAhead .valueExpected)
  | _ + 1, _, [], c => .ok c
  | rounds + 1, turn, closer :: due, c =>
    let c := c.skipGap
    match c.rest with
    | [] => .error (c.flawHere (if closer = ']' then .endInList else .endInObject))
    | x :: _ =>
      if x = closer then skipNested rounds .closed due (c.drop 1)
      else if turn = .opened then skipNested rounds .part (closer :: due) c
      else if x = ',' then skipNested rounds .part (closer :: due) (c.drop 1)
      else .error (c.flawAhead (if closer = ']' then .listEndExpected else .objectEndExpected))

/-- Past any value at the cursor. -/
def Cursor.skipValue (c : Cursor) : Except Flaw Cursor :=
  skipNested (2 * c.rest.length + 2) .part [] c

/-- Past the colon between a key and its value. -/
def Cursor.colon (c : Cursor) : Except Flaw Cursor :=
  let c := c.skipGap
  match c.rest with
  | [] => .error (c.flawHere .endInObject)
  | ':' :: _ => .ok (c.drop 1)
  | _ => .error (c.flawAhead .colonExpected)

/-- Whether a list goes on with another item, and the cursor at that item or at the closing bracket. -/
def Cursor.moreItems (first : Bool) (c : Cursor) : Except Flaw (Bool × Cursor) :=
  let c := c.skipGap
  match c.rest with
  | [] => .error (c.flawHere .endInList)
  | ']' :: _ => .ok (false, c)
  | x :: _ =>
    if first then .ok (true, c)
    else if x = ',' then
      let c := (c.drop 1).skipGap
      match c.rest with
      | [] => .error (c.flawHere .endInValue)
      | ']' :: _ => .error (c.flawAhead .trailingComma)
      | _ => .ok (true, c)
    else .error (c.flawAhead .listEndExpected)

/-- Whether an object goes on with another key, and the cursor at that key or at the closing bracket. -/
def Cursor.moreKeys (first : Bool) (c : Cursor) : Except Flaw (Bool × Cursor) :=
  let c := c.skipGap
  match c.rest with
  | [] => .error (c.flawHere .endInObject)
  | '}' :: _ => .ok (false, c)
  | x :: _ =>
    if first then
      if x = '"' then .ok (true, c) else .error (c.flawAhead .keyNotString)
    else if x = ',' then
      let c := (c.drop 1).skipGap
      match c.rest with
      | [] => .error (c.flawHere .endInValue)
      | '"' :: _ => .ok (true, c)
      | '}' :: _ => .error (c.flawAhead .trailingComma)
      | _ => .error (c.flawAhead .keyNotString)
    else .error (c.flawAhead .objectEndExpected)

/-- The items of a list up to its closing bracket; each takes at least one character, so the length of the text bounds
their number. -/
def readItems (item : Cursor → Except Flaw (Value × Cursor)) : Nat → Bool → Cursor → Except Flaw (List Value × Cursor)
  | 0, _, c => .error (c.flawHere .endInList)
  | rounds + 1, first, c => do
    let (more, c) ← c.moreItems first
    if more then
      let (v, c) ← item c
      let (rest, c) ← readItems item rounds false c
      .ok (v :: rest, c)
    else .ok ([], c.drop 1)

/-- Reads the members of an object up to its closing bracket, which stays unread. What to do with a member is said by
`member`, which starts right after the key. -/
def readMembers {σ : Type} (member : σ → String → Cursor → Except Flaw (σ × Cursor)) : Nat → Bool → σ → Cursor → Except Flaw (σ × Cursor)
  | 0, _, _, c => .error (c.flawHere .endInObject)
  | rounds + 1, first, state, c => do
    let (more, c) ← c.moreKeys first
    if more then
      let (key, c) ← c.readString
      let (state, c) ← member state key c
      readMembers member rounds false state c
    else .ok (state, c)

/-- A member of a table: the last value of a key counts. -/
def tableMember (item : Cursor → Except Flaw (Value × Cursor)) (entries : List (String × Value)) (key : String) (c : Cursor) :
    Except Flaw (List (String × Value) × Cursor) := do
  let (v, c) ← item (← c.colon)
  .ok (insertEntry key v entries, c)

/-- The value of a field: null stands for an absent value where the field is optional. -/
def readField {ρ : Type} (read : Shape ρ → Cursor → Except Flaw (Value × Cursor)) (f : RecordField ρ) (c : Cursor) :
    Except Flaw (Option Value × Cursor) :=
  let c := c.skipGap
  match f.presence, c.rest with
  | .optional, 'n' :: _ => do .ok (none, ← Cursor.word ['u', 'l', 'l'] (c.drop 1))
  | _, _ => do
    let (v, c) ← read f.shape c
    .ok (some v, c)

/-- A member of a record. A known key must not come twice; an unknown one has a value all the same. -/
def recordMember {ρ : Type} (read : Shape ρ → Cursor → Except Flaw (Value × Cursor)) (l : Layout ρ) (found : Findings) (key : String)
    (c : Cursor) : Except Flaw (Findings × Cursor) :=
  match l.field? key with
  | none => do .ok (found, ← (← c.colon).skipValue)
  | some f =>
    if (found.lookup key).isSome then
      let c := c.skipGap
      let c := match c.rest with
        | '}' :: _ => c.drop 1
        | _ => c
      .error (c.flawHere (.repeatedField key))
    else do
      let (v, c) ← readField read f (← c.colon)
      .ok (found ++ [(key, v)], c)

/-- A record written as an object, from after its opening bracket on. -/
def readRecord {ρ : Type} (read : Shape ρ → Cursor → Except Flaw (Value × Cursor)) (l : Layout ρ) (c : Cursor) : Except Flaw (Value × Cursor) := do
  let (found, c) ← readMembers (recordMember read l) (c.rest.length + 1) true [] c
  let c := c.drop 1
  match l.missing? found with
  | some f => .error (c.flawHere (.missingField f.key))
  | none => .ok (l.assemble found, c)

/-- The fields of a record written as a list, from one field on; `present` counts the fields before it. -/
def readPositional {ρ : Type} (read : Shape ρ → Cursor → Except Flaw (Value × Cursor)) (l : Layout ρ) (present : Nat) (found : Findings) :
    List (RecordField ρ) → Cursor → Except Flaw (Findings × Cursor)
  | [], c => .ok (found, c)
  | f :: rest, c => do
    let (more, c) ← c.moreItems (present == 0)
    if more then
      let (v, c) ← readField read f c
      readPositional read l (present + 1) (found ++ [(f.key, v)]) rest c
    else if f.presence = .required then
      .error ((c.drop 1).flawHere (.tooFew present l.title l.fields.length))
    else readPositional read l present found rest c

/-- Past the bracket that closes a record written as a list. -/
def Cursor.closeRecord (c : Cursor) : Except Flaw Cursor :=
  let c := c.skipGap
  match c.rest with
  | [] => .error (c.flawHere .endInList)
  | ']' :: _ => .ok (c.drop 1)
  | ',' :: _ =>
    let c := (c.drop 1).skipGap
    match c.rest with
    | ']' :: _ => .error (c.flawAhead .trailingComma)
    | _ => .error (c.flawAhead .trailingCharacters)
  | _ => .error (c.flawAhead .trailingCharacters)

/-- A string at the cursor that has to be one of the labels. -/
def Cursor.readLabel (names : List String) (c : Cursor) : Except Flaw (Value × Cursor) := do
  let (s, c) ← c.readString
  if names.contains s then .ok (.string s, c) else .error (c.flawHere (.unknownLabel s names))

/-- A label written as an object with the label as its one key and null as its value, from after the opening bracket on. -/
def Cursor.readLabelObject (names : List String) (c : Cursor) : Except Flaw (Value × Cursor) := do
  let c := c.skipGap
  let (v, c) ← match c.rest with
    | [] => .error (c.flawHere .endInObject)
    | '"' :: _ => c.readLabel names
    | '}' :: _ => .error (c.flawAhead .valueExpected)
    | _ => .error (c.flawAhead .keyNotString)
  let c := (← c.colon).skipGap
  let c ← match c.rest with
    | [] => .error (c.flawHere .endInValue)
    | 'n' :: _ => Cursor.word ['u', 'l', 'l'] (c.drop 1)
    | _ => .error (c.mismatch "unit")
  let c := c.skipGap
  match c.rest with
  | [] => .error (c.flawHere .endInObject)
  | '}' :: _ => .ok (v, c.drop 1)
  | _ => .error (c.flawHere .valueExpected)

/-- The range of the integers that are stored. -/
def fitsInteger (n : Int) : Bool := Int64.minValue.toInt ≤ n && n ≤ Int64.maxValue.toInt

/-- An integer at the cursor. -/
def Cursor.readInteger (c : Cursor) : Except Flaw (Value × Cursor) := do
  let (n, after) ← c.readNumber
  match n with
  | .int i =>
    if fitsInteger i then .ok (.number n, after) else .error (after.flawHere (.wrongInteger i "i64"))
  | .float _ => .error (after.flawHere (.wrongKind (.number n) "i64"))

/-- The shape is written with this opening bracket. -/
def Shape.opensWith {ρ : Type} : Shape ρ → Char → Bool
  | .list _, x => x == '['
  | .table _, x => x == '{'
  | .label _, x => x == '{'
  | .record _, x => x == '[' || x == '{'
  | .any, x => x == '[' || x == '{'
  | _, _ => false

/-- A value that does not start with a bracket of its shape: a scalar, or something else than was expected. -/
def readFlat {ρ : Type} [Records ρ] (shape : Shape ρ) (x : Char) (c : Cursor) : Except Flaw (Value × Cursor) :=
  match shape with
  | .text => if x = '"' then c.readString.map fun (s, c) => (.string s, c) else .error (c.mismatch "a string")
  | .path => if x = '"' then c.readString.map fun (s, c) => (.string s, c) else .error (c.mismatch "path string")
  | .flag =>
    if x = 't' || x = 'f' then c.scalar?.getD (.error (c.flawAhead .valueExpected)) else .error (c.mismatch "a boolean")
  | .integer => if x = '-' || x.isDigit then c.readInteger else .error (c.mismatch "i64")
  | .label names => if x = '"' then c.readLabel names else .error (c.flawAhead .valueExpected)
  | .list _ => .error (c.mismatch "a sequence")
  | .table _ => .error (c.mismatch "a map")
  | .record r => .error (c.mismatch (Records.layout r).expectation)
  | .any => c.scalar?.getD (.error (c.flawAhead .valueExpected))

/-- A value that starts with a bracket of its shape, from after the bracket `x` on; `read` reads the values inside. -/
def readNested {ρ : Type} [Records ρ] (read : Shape ρ → Cursor → Except Flaw (Value × Cursor)) (shape : Shape ρ) (x : Char)
    (c : Cursor) : Except Flaw (Value × Cursor) :=
  let items (item : Shape ρ) := do
    let (vs, c) ← readItems (read item) (c.rest.length + 1) true c
    .ok (.array vs, c)
  let table (item : Shape ρ) := do
    let (entries, c) ← readMembers (tableMember (read item)) (c.rest.length + 1) true [] c
    .ok (.object entries, c.drop 1)
  match shape with
  | .list item => items item
  | .table item => table item
  | .label names => c.readLabelObject names
  | .record r =>
    let l := Records.layout r
    if x = '{' then readRecord read l c
    else do
      let (found, c) ← readPositional read l 0 [] l.fields c
      .ok (l.assemble found, ← c.closeRecord)
  | _ => if x = '{' then table .any else items .any

/-- The value of a shape at the cursor, where arrays and objects may still nest `depth` deep. -/
def readShape {ρ : Type} [Records ρ] : Nat → Shape ρ → Cursor → Except Flaw (Value × Cursor)
  | depth, shape, start =>
    let c := start.skipGap
    match c.rest with
    | [] => .error (c.flawHere .endInValue)
    | x :: _ =>
      if shape.opensWith x then
        match depth with
        | 0 => .error (c.flawAhead .tooDeep)
        | depth + 1 => readNested (readShape depth) shape x (c.drop 1)
      else readFlat shape x c

/-- The canonical value that a whole text writes for a shape; only blanks may follow it. -/
def Shape.read {ρ : Type} [Records ρ] (shape : Shape ρ) (text : List Char) : Except Flaw Value := do
  let (v, c) ← readShape nestingLimit shape (.ofText text)
  let c := c.skipGap
  if c.rest.isEmpty then .ok v else .error (c.flawAhead .trailingCharacters)

/-- There are no records in a text that is read without a shape. -/
instance : Records Empty := ⟨nofun⟩

/-- The value that a whole text writes. -/
def Value.read (text : List Char) : Except Flaw Value := (Shape.any : Shape Empty).read text

end RenderCatalog.Json
