/-!
# Blank characters

The blank characters are the White_Space class of Unicode: the no-break spaces and the ideographic space belong to it,
the zero-width space and the byte order mark do not. Trimming, splitting into words and flattening a source all use
this one class, so a text is cut at the same places wherever it is read.
-/

namespace RenderCatalog.Text

/-- A character is blank when it has the White_Space property. -/
def isBlank (c : Char) : Bool :=
  let n := c.val.toNat
  (9 ≤ n && n ≤ 13) || n == 0x20 || n == 0x85 || n == 0xA0 || n == 0x1680 || (0x2000 ≤ n && n ≤ 0x200A) ||
    n == 0x2028 || n == 0x2029 || n == 0x202F || n == 0x205F || n == 0x3000

/-- The text without the blanks it starts with. -/
def trimStart (cs : List Char) : List Char := cs.dropWhile isBlank

/-- The text without the blanks it ends with. -/
def trimEnd (cs : List Char) : List Char := (cs.reverse.dropWhile isBlank).reverse

/-- The text without the blanks at either end. -/
def trim (cs : List Char) : List Char := trimEnd (trimStart cs)

/-- The pieces between the characters that satisfy `p`: one more than there are such characters, and some may be empty. -/
def pieces (p : Char → Bool) : List Char → List (List Char)
  | [] => [[]]
  | c :: r =>
    if p c then [] :: pieces p r
    else match pieces p r with
      | [] => [[c]]
      | w :: ws => (c :: w) :: ws

/-- The words of a text: its pieces between blanks, less the empty ones. -/
def words (cs : List Char) : List (List Char) := (pieces isBlank cs).filter (!·.isEmpty)

/-- Every run of blanks becomes one space, so a declaration spread over lines reads as one line. -/
def flatten : List Char → List Char
  | [] => []
  | c :: r =>
    if isBlank c then
      match r with
      | [] => [' ']
      | d :: _ => if isBlank d then flatten r else ' ' :: flatten r
    else c :: flatten r

/-- The words joined by single copies of `sep`. -/
def joinWith (sep : List Char) : List (List Char) → List Char
  | [] => []
  | [w] => w
  | w :: ws => w ++ sep ++ joinWith sep ws

end RenderCatalog.Text
