import RenderCatalog.Component.Rules
import RenderCatalog.Error
import RenderCatalog.Text.Blank

/-!
# Categories

Every component belongs to one of four categories, by which consumers narrow the tools they offer. The file name decides.
-/

namespace RenderCatalog

/-- The category of a component. -/
inductive Category where
  | dataVisualization
  | dataDisplay
  | content
  | general
  deriving Repr, DecidableEq

namespace Category

/-- All categories in order of precedence. -/
def all : List Category := [.dataVisualization, .dataDisplay, .content, .general]

/-- The label under which a category is stored. -/
def label : Category → String
  | .dataVisualization => "data_visualization"
  | .dataDisplay => "data_display"
  | .content => "content"
  | .general => "general"

/-- The category with a label. -/
def ofLabel? (s : String) : Option Category := all.find? (·.label == s)

/-- A category as a user writes it: blanks around it, the case of its letters and hyphens for underscores do not matter. -/
def parse (s : String) : Except Error Category :=
  let written := (Text.lowercase (Text.trim s.toList)).map fun c => if c = '-' then '_' else c
  match ofLabel? (String.ofList written) with
  | some category => .ok category
  | none => .error <| .invalidArgument <|
      s!"invalid category: '{s}' (expected: data_visualization, data_display, content, or general)"

/-- Words that place a component. -/
def rules : NameRules Category where
  rules := [
    (["chart", "graph"], .dataVisualization),
    (["table", "list", "weather"], .dataDisplay),
    (["info", "card"], .content)]
  fallback := .general

/-- The category that a file name suggests. -/
def ofFileName (name : String) : Category := rules.outcome name

end Category

end RenderCatalog
