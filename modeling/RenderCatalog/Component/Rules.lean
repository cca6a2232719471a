import RenderCatalog.Text.Case
import RenderCatalog.Text.Search

/-!
# Rules that go by a name

What a name stands for is guessed from the words in it. The first rule with a word that occurs in the name, in small letters,
wins, so the order of the rules is their precedence.
-/

namespace RenderCatalog

/-- Rules by precedence, each with its words and its outcome, and the outcome for names that no rule fits. -/
structure NameRules (α : Type) where
  rules : List (List String × α)
  fallback : α

namespace NameRules

variable {α : Type}

/-- A rule fits a name when one of its words occurs in the small form of the name. -/
def fits (small : List Char) (rule : List String × α) : Bool := rule.1.any fun word => Text.occurs word.toList small

/-- The outcome for a name. -/
def outcome (r : NameRules α) (name : String) : α :=
  (r.rules.find? (fits (Text.lowercase name.toList))).elim r.fallback (·.2)

end NameRules

end RenderCatalog
