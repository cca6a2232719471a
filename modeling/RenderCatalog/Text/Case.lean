import RenderCatalog.Text.CaseTable

/-!
# Letter case

Capital and small forms of single characters, and the small form of a whole text. A single character may have a form of
several characters (`ß` has the capital form `SS`). In a whole text a capital sigma that ends a word takes the final
small form; on its own it never does, which is why `small` and `lowercase` are two functions.
-/

namespace RenderCatalog.Text

/-- The character is plain ASCII. -/
def isPlain (c : Char) : Bool := c.val < 128

/-- The code point lies in one of the spans. -/
def inSpans (spans : List Span) (c : Char) : Bool := spans.any (·.has c.val.toNat)

/-- The character that the first fitting run moves `c` to. -/
def shifted? (runs : List CaseRun) (c : Char) : Option Char :=
  (runs.find? (·.has c.val.toNat)).map fun run => Char.ofNat (Int.toNat (c.val.toNat + run.shift))

/-- The capital form of a character, itself when it has none. -/
def capital (c : Char) : List Char :=
  if isPlain c then [c.toUpper]
  else match capitalSpellings.lookup c.val.toNat with
    | some spelling => spelling.map Char.ofNat
    | none => [(shifted? capitalRuns c).getD c]

/-- The small form of a character, itself when it has none; only the dotted capital I takes two characters. -/
def small (c : Char) : List Char :=
  if isPlain c then [c.toLower]
  else if c = 'İ' then ['i', '\u0307']
  else [(shifted? smallRuns c).getD c]

/-- A capital: an uppercase letter, or a sign such as a Roman numeral that counts as one. -/
def isCapital (c : Char) : Bool :=
  if isPlain c then c.isUpper else inSpans capitals c

/-- The search for a neighbouring cased letter passes over the character. -/
def isCaseIgnorable (c : Char) : Bool :=
  if isPlain c then c == '\x27' || c == '.' || c == ':' || c == '^' || c == '\x60' else inSpans caseIgnorables c

/-- A cased character that is not case-ignorable. -/
def isCased (c : Char) : Bool :=
  if isPlain c then c.isAlpha else inSpans cased c

/-- The nearest character that is not case-ignorable is cased. -/
def meetsCased (cs : List Char) : Bool :=
  match cs.dropWhile isCaseIgnorable with
  | [] => false
  | c :: _ => isCased c

/-- The small form of the rest of a text, where `before` holds the characters before it, nearest first. -/
def lowercaseAfter (before : List Char) : List Char → List Char
  | [] => []
  | c :: r =>
    (if c = 'Σ' then [if meetsCased before && !meetsCased r then 'ς' else 'σ'] else small c) ++
      lowercaseAfter (c :: before) r

/-- The small form of a text: character by character, but for a sigma that ends a word. -/
def lowercase (cs : List Char) : List Char := lowercaseAfter [] cs

/-- The first character takes its capital form and the rest stays as it is. -/
def capitalize : List Char → List Char
  | [] => []
  | c :: r => capital c ++ r

end RenderCatalog.Text
