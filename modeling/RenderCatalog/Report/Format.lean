import RenderCatalog.Error
import RenderCatalog.Json.Printer
import RenderCatalog.Text.Blank
import RenderCatalog.Text.Case
import RenderCatalog.Text.Search

/-!
# Reports

Every command ends in a report, a JSON value, which is shown in one of three formats: JSON as it is, plain text with one
`path=value` line for each leaf, or an indented outline for people. The last two sort the entries of objects. Colour only
wraps what the outline shows in terminal codes.
-/

namespace RenderCatalog

open Json (Value)

/-- How a report is shown. -/
inductive Format where
  | json
  | text
  | pretty
  deriving Repr, DecidableEq

namespace Format

/-- All formats. -/
def all : List Format := [.json, .text, .pretty]

/-- The name of a format. -/
def label : Format → String
  | .json => "json"
  | .text => "text"
  | .pretty => "pretty"

/-- The format with a name, in whatever case. -/
def parse (s : String) : Except Error Format :=
  match all.find? fun f => f.label.toList == Text.lowercase s.toList with
  | some f => .ok f
  | none => .error (.invalidArgument s!"invalid output format: '{s}' (expected: json, text, or pretty)")

end Format

namespace Report

/-- A leaf in plain text: strings stand for themselves. -/
def leafText : Value → List Char
  | .string s => s.toList
  | v => v.render .compact 0

/-- The line of a leaf; at the top there is no path to name. -/
def leafLine (path : List Char) (v : Value) : List Char :=
  if path.isEmpty then leafText v else path ++ '=' :: leafText v

/-- The path of an entry. -/
def entryPath (path key : List Char) : List Char := if path.isEmpty then key else path ++ '.' :: key

/-- The path of an item. -/
def itemPath (path : List Char) (i : Nat) : List Char := path ++ '[' :: (Nat.toDigits 10 i ++ [']'])

mutual
/-- The lines of a value, one for each leaf; an empty list or object is a leaf. -/
def textLines (path : List Char) : Value → List (List Char)
  | .array (v :: rest) => textLines (itemPath path 0) v ++ itemLines path 1 rest
  | .object ((key, v) :: rest) => textLines (entryPath path key.toList) v ++ entryLines path rest
  | .array [] => [leafLine path (.array [])]
  | .object [] => [leafLine path (.object [])]
  | .null => [leafLine path .null]
  | .bool b => [leafLine path (.bool b)]
  | .number n => [leafLine path (.number n)]
  | .string s => [leafLine path (.string s)]
/-- The lines of items, counted from `i`. -/
def itemLines (path : List Char) (i : Nat) : List Value → List (List Char)
  | [] => []
  | v :: rest => textLines (itemPath path i) v ++ itemLines path (i + 1) rest
/-- The lines of entries. -/
def entryLines (path : List Char) : List (String × Value) → List (List Char)
  | [] => []
  | (key, v) :: rest => textLines (entryPath path key.toList) v ++ entryLines path rest
end

/-- A value in plain text. -/
def text (v : Value) : List Char := Text.joinWith ['\n'] (textLines [] v.sorted)

/-- What is set off by colour. -/
inductive Tint where
  | key
  | faint
  | flag
  | number
  | string
  deriving Repr, DecidableEq

/-- The terminal code of a tint. -/
def Tint.code : Tint → List Char
  | .key => ['1', ';', '3', '4']
  | .faint => ['2']
  | .flag => ['3', '3']
  | .number => ['3', '6']
  | .string => ['3', '2']

/-- The sequence that switches to a terminal code. -/
def sequence (code : List Char) : List Char := '\x1b' :: '[' :: (code ++ ['m'])

/-- The sequence that ends all tints. -/
def reset : List Char := sequence ['0']

/-- A text in a tint, when colour is on. Where the text itself ends all tints, the tint is taken up again. -/
def paint (colour : Bool) (tint : Tint) (s : List Char) : List Char :=
  if colour then
    sequence tint.code ++ Text.replaceAll reset (reset ++ sequence tint.code) s ++ reset
  else s

/-- A leaf in the outline. -/
def outlineLeaf (colour : Bool) : Value → List Char
  | .null => paint colour .faint ['-']
  | .bool b => paint colour .flag (if b then ['t', 'r', 'u', 'e'] else ['f', 'a', 'l', 's', 'e'])
  | .number n => paint colour .number n.text
  | .string s => paint colour .string s.toList
  | .array _ => paint colour .faint ['[', ']']
  | .object _ => paint colour .faint ['{', '}']

/-- The value takes lines of its own in the outline. -/
def isNested : Value → Bool
  | .array (_ :: _) => true
  | .object (_ :: _) => true
  | _ => false

/-- The blanks that a line at a depth starts with. -/
def indentation (depth : Nat) : List Char := List.replicate (2 * depth) ' '

/-- The head of an entry or an item, up to its value: a nested value goes on in the next line. -/
def headLine (depth : Nat) (head : List Char) (colour : Bool) (v : Value) : List Char :=
  indentation depth ++ head ++ (if isNested v then ['\n'] else ' ' :: (outlineLeaf colour v ++ ['\n']))

mutual
/-- The lines of a nested value at a depth; a leaf has none of its own. -/
def outlineNested (colour : Bool) (depth : Nat) : Value → List Char
  | .array items => outlineItems colour depth items
  | .object entries => outlineEntries colour depth entries
  | _ => []
/-- The lines of items. -/
def outlineItems (colour : Bool) (depth : Nat) : List Value → List Char
  | [] => []
  | v :: rest => headLine depth ['-'] colour v ++ outlineNested colour (depth + 1) v ++ outlineItems colour depth rest
/-- The lines of entries. -/
def outlineEntries (colour : Bool) (depth : Nat) : List (String × Value) → List Char
  | [] => []
  | (key, v) :: rest =>
    headLine depth (paint colour .key key.toList ++ [':']) colour v ++ outlineNested colour (depth + 1) v ++
      outlineEntries colour depth rest
end

/-- The outline of a value before its end is trimmed. -/
def outlineLines (colour : Bool) (v : Value) : List Char :=
  if isNested v then outlineNested colour 0 v else outlineLeaf colour v ++ ['\n']

/-- The outline of a value. -/
def outline (colour : Bool) (v : Value) : List Char := Text.trimEnd (outlineLines colour v.sorted)

/-- A report in a format. -/
def render (format : Format) (colour : Bool) (v : Value) : String :=
  match format with
  | .json => v.pretty
  | .text => String.ofList (text v)
  | .pretty => String.ofList (outline colour v)

end Report

end RenderCatalog
