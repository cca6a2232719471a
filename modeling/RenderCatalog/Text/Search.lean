/-!
# Searching a text

First and last occurrences of a needle, on lists of characters. Each function is one recursion over the text searched,
so that a statement about it is an induction over that text.
-/

namespace RenderCatalog.Text

/-- The needle occurs somewhere in the text; an empty needle occurs everywhere. -/
def occurs (needle : List Char) : List Char → Bool
  | [] => needle.isEmpty
  | c :: r => needle.isPrefixOf (c :: r) || occurs needle r

/-- The text after the last occurrence of the needle. -/
def afterLast? (needle : List Char) : List Char → Option (List Char)
  | [] => if needle.isEmpty then some [] else none
  | c :: r =>
    match afterLast? needle r with
    | some rest => some rest
    | none => if needle.isPrefixOf (c :: r) then some ((c :: r).drop needle.length) else none

/-- The text before the first occurrence of the needle, or the whole text when there is none. -/
def beforeFirst (needle : List Char) : List Char → List Char
  | [] => []
  | c :: r => if needle.isPrefixOf (c :: r) then [] else c :: beforeFirst needle r

/-- The text without the suffix, when it ends with it. -/
def dropSuffix? (suffix cs : List Char) : Option (List Char) :=
  if suffix.isSuffixOf cs then some (cs.take (cs.length - suffix.length)) else none

/-- Every occurrence of `old`, found from the left and never overlapping, is replaced by `new`; `skip` counts the
characters of the last occurrence that are still to be passed over. -/
def replaceFrom (old new : List Char) : Nat → List Char → List Char
  | _, [] => []
  | skip + 1, _ :: r => replaceFrom old new skip r
  | 0, c :: r =>
    if old.isPrefixOf (c :: r) then new ++ replaceFrom old new (old.length - 1) r
    else c :: replaceFrom old new 0 r

/-- Every occurrence of `old`, found from the left and never overlapping, is replaced by `new`. -/
def replaceAll (old new cs : List Char) : List Char := replaceFrom old new 0 cs

end RenderCatalog.Text
