import RenderCatalog.Component.Prop
import RenderCatalog.Text.Search

/-!
# Parameter lists

The text between the braces of a component's parameter is a list of tokens with commas between them. A comma always
separates, also inside a type or a default value. A token gives a prop unless it is empty or gathers the rest; a question
mark after the name or a default value makes the prop optional, and of repeated names the first one stays.
-/

namespace RenderCatalog.Source

/-- A separator between a name and what follows it. -/
def endsName (c : Char) : Bool := c == ':' || c == '='

/-- The prop that a token declares. -/
def propOfToken? (token : List Char) : Option DeclaredProp :=
  let token := Text.trim token
  if token.isEmpty || ['.', '.', '.'].isPrefixOf token then none
  else
    let part := Text.trim (token.takeWhile fun c => !endsName c)
    let (name, optional) :=
      match Text.dropSuffix? ['?'] part with
      | some name => (Text.trimEnd name, true)
      | none => (part, false)
    if name.isEmpty then none
    else some ⟨String.ofList name, !(optional || token.contains '=')⟩

/-- The props that the tokens of a parameter list declare, repeated names included. -/
def tokenProps (params : List Char) : List DeclaredProp :=
  (Text.pieces (· == ',') params).filterMap propOfToken?

/-- The props whose names are not among `seen` and do not come twice. -/
def firstOfEach (seen : List String) : List DeclaredProp → List DeclaredProp
  | [] => []
  | p :: rest =>
    if seen.contains p.name then firstOfEach seen rest else p :: firstOfEach (p.name :: seen) rest

/-- The names that come again, in order. -/
def repeatedNames (seen : List String) : List DeclaredProp → List String
  | [] => []
  | p :: rest =>
    if seen.contains p.name then p.name :: repeatedNames seen rest else repeatedNames (p.name :: seen) rest

/-- The props that a parameter list declares. -/
def paramProps (params : List Char) : List DeclaredProp := firstOfEach [] (tokenProps params)

end RenderCatalog.Source
