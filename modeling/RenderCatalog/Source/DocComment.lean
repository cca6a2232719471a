import RenderCatalog.Text.Blank
import RenderCatalog.Text.Search

/-!
# Leading comments

The comment that documents a declaration is the `/** … */` block that ends right before it. Its words up to the first tag,
without the stars at the left edge, are the description of the component.
-/

namespace RenderCatalog.Source

/-- The opener of a documenting comment. -/
def opener : List Char := ['/', '*', '*']

/-- The end of a comment. -/
def closer : List Char := ['*', '/']

/-- The words of the comment that ends right before the end of a text, joined by single spaces. -/
def leadingComment? (before : List Char) : Option (List Char) := do
  let body ← Text.dropSuffix? closer (Text.trimEnd before)
  let text ← Text.afterLast? opener body
  if Text.occurs closer text then none
  else
    let said := (Text.words (Text.beforeFirst [' ', '@'] text)).filter (· != ['*'])
    if said.isEmpty then none else some (Text.joinWith [' '] said)

end RenderCatalog.Source
