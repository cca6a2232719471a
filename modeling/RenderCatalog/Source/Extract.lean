import RenderCatalog.Component.Basic
import RenderCatalog.Event
import RenderCatalog.Source.Declaration
import RenderCatalog.Source.DocComment
import RenderCatalog.Source.Params

/-!
# From a source to a component

A source file gives one component: that of its first declaration, described by the comment before it. Files whose stem
contains an exclusion pattern, and files without a declaration, are left out on purpose and with a reason.
-/

namespace RenderCatalog

namespace Source

/-- The patterns of file stems that hold no component, unless others are configured. -/
def defaultExclusions : List String := ["component-renderer", "index"]

/-- Patterns ready for comparison: in small letters, the empty ones left out. -/
def exclusions (patterns : List String) : List String :=
  (patterns.map (Text.on Text.lowercase)).filter (!·.isEmpty)

/-- The first pattern that occurs in the stem of a path, in small letters. -/
def exclusionFor? (patterns : List String) (path : String) : Option String :=
  let stem := Text.lowercase (Path.stem path).toList
  patterns.find? fun pattern => Text.occurs pattern.toList stem

/-- Why a source gives no component. -/
inductive Skip where
  | excluded (pattern : String)
  | undeclared
  deriving Repr, DecidableEq

/-- The wording of a reason. -/
def Skip.text : Skip → String
  | .excluded pattern => s!"file name matches exclusion '{pattern}'"
  | .undeclared => "no exported component declaration found"

/-- The component of a source, or why it gives none; `patterns` are ready for comparison. -/
def extract (patterns : List String) (source path : String) : Except Skip Component :=
  match exclusionFor? patterns path with
  | some pattern => .error (.excluded pattern)
  | none =>
    match findDeclaration? [] (Text.flatten source.toList) with
    | none => .error .undeclared
    | some d =>
      let c := Component.describe path (paramProps d.params)
      match leadingComment? d.before with
      | some comment => .ok { c with description := String.ofList comment }
      | none => .ok c

/-- What there is to log of an extraction. -/
def extractEvents (patterns : List String) (source path : String) : List Event :=
  match extract patterns source path with
  | .error (.excluded pattern) => [.excluded path pattern]
  | .error .undeclared => [.undeclared path]
  | .ok c =>
    let tokens := (findDeclaration? [] (Text.flatten source.toList)).elim [] fun d => tokenProps d.params
    (repeatedNames [] tokens).map .repeatedProp ++ [.extracted c.name c.props.length path]

end Source

end RenderCatalog
