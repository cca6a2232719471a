import RenderCatalog.Text.Blank

/-!
# Component declarations

A component is an exported function, or an exported constant that holds one, whose name starts with a capital and whose
first parameter is taken apart in braces. The matcher looks at one position of a flattened source; the only choice it has
to try both ways is whether a word before a bracket wraps the component or is the word `async`.
-/

namespace RenderCatalog.Source

/-- The text after a word that it starts with. -/
def afterWord? (word cs : List Char) : Option (List Char) :=
  if word.isPrefixOf cs then some (cs.drop word.length) else none

/-- The text after any blanks. -/
def afterBlanks (cs : List Char) : List Char := cs.dropWhile Text.isBlank

/-- The text after at least one blank. -/
def afterGap? : List Char → Option (List Char)
  | [] => none
  | c :: rest => if Text.isBlank c then some (afterBlanks rest) else none

/-- A character inside a name. -/
def isNameChar (c : Char) : Bool := c.isAlphanum || c == '_'

/-- The text after a name that starts with an ASCII capital. -/
def afterName? : List Char → Option (List Char)
  | [] => none
  | c :: rest => if c.isUpper then some (rest.dropWhile isNameChar) else none

/-- The parameter text between braces: it ends at the first closing brace. -/
def inBraces? (cs : List Char) : Option (List Char) := do
  let rest ← afterWord? ['{'] (afterBlanks cs)
  let (params, after) := (rest.takeWhile (· != '}'), rest.dropWhile (· != '}'))
  if after.isEmpty then none else some params

/-- The parameter text of a bracket that opens here. -/
def inBracket? (cs : List Char) : Option (List Char) := (afterWord? ['('] cs).bind inBraces?

/-- The text after type parameters and the blanks that follow them, or the text itself when there are none. Type
parameters hold no bracket. -/
def afterTypeParams? (cs : List Char) : Option (List Char) :=
  match cs with
  | '<' :: rest =>
    match rest.dropWhile fun c => c != '>' && c != '(' with
    | '>' :: after => some (afterBlanks after)
    | _ => none
  | _ => some cs

/-- The parameter text of a function, from after its keyword on. -/
def functionParams? (cs : List Char) : Option (List Char) := do
  let cs ← afterName? (← afterGap? cs)
  inBracket? (← afterTypeParams? (afterBlanks cs))

/-- The text after a type and before the equals sign, or the text itself when there is none. -/
def afterType? (cs : List Char) : Option (List Char) :=
  match cs with
  | ':' :: c :: rest => if c = '=' then none else some (rest.dropWhile (· != '='))
  | ':' :: [] => none
  | _ => some cs

/-- The parameter text of a function value, after the word `async` or without it. -/
def asyncParams? (cs : List Char) : Option (List Char) :=
  ((afterWord? "async".toList cs).bind fun cs => inBracket? (afterBlanks cs)) <|> inBracket? cs

/-- A character of a wrapper's name. -/
def isWrapperChar (c : Char) : Bool := c.isAlpha || c == '_' || c == '.'

/-- The text after a wrapper and its bracket. -/
def afterWrapper? (cs : List Char) : Option (List Char) :=
  match cs.takeWhile isWrapperChar with
  | [] => none
  | _ => (afterWord? ['('] (cs.dropWhile isWrapperChar)).map afterBlanks

/-- The parameter text of the value of a constant: with a wrapper first, and without one when that fails. -/
def valueParams? (cs : List Char) : Option (List Char) := (afterWrapper? cs).bind asyncParams? <|> asyncParams? cs

/-- The parameter text of a constant, from after its keyword on. -/
def constParams? (cs : List Char) : Option (List Char) := do
  let cs ← afterName? (← afterGap? cs)
  let cs ← afterType? (afterBlanks cs)
  valueParams? (afterBlanks (← afterWord? ['='] cs))

/-- The text after the word `default` and its blanks, or the text itself. -/
def afterDefault (cs : List Char) : List Char := ((afterWord? "default".toList cs).bind afterGap?).getD cs

/-- The parameter text of a declaration that starts at the front of the text. -/
def declarationParams? (cs : List Char) : Option (List Char) := do
  let cs := afterDefault (← afterGap? (← afterWord? "export".toList cs))
  ((afterWord? "function".toList cs).bind functionParams?) <|> ((afterWord? "const".toList cs).bind constParams?)

/-- A declaration inside a source: the text before it and the text of its parameters. -/
structure Declaration where
  before : List Char
  params : List Char
  deriving Repr, DecidableEq

/-- The first declaration of a source, where `passed` holds the characters before the rest, the nearest first. -/
def findDeclaration? (passed : List Char) : List Char → Option Declaration
  | [] => none
  | c :: rest =>
    match declarationParams? (c :: rest) with
    | some params => some ⟨passed.reverse, params⟩
    | none => findDeclaration? (c :: passed) rest

end RenderCatalog.Source
