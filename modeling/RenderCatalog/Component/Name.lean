import RenderCatalog.Text.Blank
import RenderCatalog.Text.Case

/-!
# Names

One component has four spellings: the hyphenated stem of its file, the Pascal-case name, the title in words, and the
snake-case name that tools and payloads carry. All conversions are functions on the characters of the name; a hyphen
separates the words of a stem and a capital starts a word of a name.
-/

namespace RenderCatalog

/-- A function on characters, applied to a text. -/
def Text.on (f : List Char → List Char) (s : String) : String := String.ofList (f s.toList)

namespace Name

/-- The segments of a stem between hyphens, the empty ones left out. -/
def segments (stem : List Char) : List (List Char) := (Text.pieces (· == '-') stem).filter (!·.isEmpty)

/-- The Pascal-case name of a stem: its segments, each with a capital. -/
def pascal (stem : List Char) : List Char := ((segments stem).map Text.capitalize).flatten

/-- The title of a stem: its segments, each with a capital, with spaces between. -/
def stemTitle (stem : List Char) : List Char := Text.joinWith [' '] ((segments stem).map Text.capitalize)

/-- One character of a snake-case name: a capital turns small, after an underscore unless it is the first character. -/
def snakeChar (first : Bool) (c : Char) : List Char :=
  if Text.isCapital c then (if first then [] else ['_']) ++ Text.small c else [c]

/-- The snake-case form of a name. -/
def snake : List Char → List Char
  | [] => []
  | c :: rest => snakeChar true c ++ rest.flatMap (snakeChar false)

/-- The title of a Pascal-case name: a space before every capital but a leading one. -/
def title : List Char → List Char
  | [] => []
  | c :: rest => c :: rest.flatMap fun c => if Text.isCapital c then [' ', c] else [c]

/-- The words of an identifier, written so far in reverse: hyphens and underscores become single spaces, and a capital
after the first character starts a word in small letters. -/
def phraseStep (first : Bool) (written : List Char) (c : Char) : List Char :=
  let spaced := written.head? == some ' '
  if c = '_' || c = '-' then
    if spaced || written.isEmpty then written else ' ' :: written
  else if Text.isCapital c && !first then
    (Text.small c).reverse ++ (if spaced then written else ' ' :: written)
  else c :: written

/-- The words of an identifier. -/
def phraseWords : List Char → List Char
  | [] => []
  | c :: rest => (rest.foldl (phraseStep false) (phraseStep true [] c)).reverse

/-- An identifier as a phrase that starts with a capital. -/
def phrase (name : List Char) : List Char := Text.capitalize (Text.trimEnd (phraseWords name))

/-- What every tool name starts with. -/
def toolStart : List Char := "render_".toList

/-- The tool name of a component name. -/
def tool (name : List Char) : List Char := toolStart ++ snake name

/-- A tool name that every consumer accepts: ASCII letters, digits and underscores, at least one. -/
def isToolName (name : List Char) : Bool :=
  !name.isEmpty && name.all fun c => c.isAlphanum || c == '_'

end Name

end RenderCatalog
