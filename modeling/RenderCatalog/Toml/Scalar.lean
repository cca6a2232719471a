import RenderCatalog.Text.Hex
import RenderCatalog.Toml.Value

/-!
# TOML scalars

Strings in their four spellings, keys, and the words that stand for truth values, numbers and moments. Each reader takes
its part from the front of the text and gives the rest, or nothing when the text is not well formed.
-/

namespace RenderCatalog.Toml

/-- A blank inside a line. -/
def isSpace (c : Char) : Bool := c == ' ' || c == '\t'

/-- A character that may stand in a comment or a string as it is; line ends and quotes are looked at before. -/
def isShown (c : Char) : Bool := c == '\t' || (0x20 ≤ c.val && c.val ≠ 0x7F)

/-- The character whose number the hexadecimal digits spell; surrogates and numbers beyond the last character have none. -/
def hexChar? (digits : List Char) : Option Char := do
  let n ← digits.foldlM (fun n c => (Text.hexValue? c).map (n * 16 + ·)) 0
  if n < 0xD800 || (0xDFFF < n && n < 0x110000) then some (Char.ofNat n) else none

/-- The character that a letter after a backslash stands for. -/
def escapeOf? (c : Char) : Option Char :=
  if c = 'b' then some '\x08'
  else if c = 't' then some '\t'
  else if c = 'n' then some '\n'
  else if c = 'f' then some '\x0c'
  else if c = 'r' then some '\r'
  else if c = 'e' then some '\x1b'
  else if c = '"' then some '"'
  else if c = '\\' then some '\\'
  else none

/-- The text starts with a line end. -/
def startsLine : List Char → Bool
  | '\n' :: _ => true
  | '\r' :: '\n' :: _ => true
  | _ => false

/-- The end of a string in triple quotes, from after its three quotes on: up to two more quotes belong to the string. -/
def extraQuotes (quote : Char) (rest : List Char) : List Char × List Char :=
  match rest with
  | a :: b :: after =>
    if a = quote then if b = quote then ([quote, quote], after) else ([quote], b :: after) else ([], rest)
  | [a] => if a = quote then ([quote], []) else ([], rest)
  | [] => ([], [])

/-- The rest of a string with escapes after its opening quote or quotes. In a string of several lines, `skipping` is set
after a backslash that ends a line, until the next character that shows. Line ends stay as they are spelled. -/
def basicTail (multiline : Bool) (skipping : Bool) : List Char → Option (List Char × List Char)
  | [] => none
  | '\\' :: 'x' :: a :: b :: rest => do
    let c ← hexChar? [a, b]
    let (s, rest) ← basicTail multiline false rest
    some (c :: s, rest)
  | '\\' :: 'u' :: a :: b :: c :: d :: rest => do
    let c ← hexChar? [a, b, c, d]
    let (s, rest) ← basicTail multiline false rest
    some (c :: s, rest)
  | '\\' :: 'U' :: a :: b :: c :: d :: e :: f :: g :: h :: rest => do
    let c ← hexChar? [a, b, c, d, e, f, g, h]
    let (s, rest) ← basicTail multiline false rest
    some (c :: s, rest)
  | '\\' :: x :: rest =>
    if multiline && startsLine ((x :: rest).dropWhile isSpace) then basicTail multiline true (x :: rest)
    else match escapeOf? x with
      | some c => do
        let (s, rest) ← basicTail multiline false rest
        some (c :: s, rest)
      | none => none
  | '"' :: rest =>
    if multiline then
      match rest with
      | '"' :: '"' :: after => some (extraQuotes '"' after)
      | _ => do
        let (s, rest) ← basicTail multiline false rest
        some ('"' :: s, rest)
    else some ([], rest)
  | '\r' :: '\n' :: rest =>
    if multiline then do
      let (s, rest) ← basicTail multiline skipping rest
      some (if skipping then s else '\r' :: '\n' :: s, rest)
    else none
  | c :: rest =>
    if c = '\n' then
      if multiline then do
        let (s, rest) ← basicTail multiline skipping rest
        some (if skipping then s else '\n' :: s, rest)
      else none
    else if skipping && isSpace c then basicTail multiline skipping rest
    else if isShown c then do
      let (s, rest) ← basicTail multiline false rest
      some (c :: s, rest)
    else none

/-- The rest of a string without escapes after its opening quote or quotes. Line ends stay as they are spelled. -/
def literalTail (multiline : Bool) : List Char → Option (List Char × List Char)
  | [] => none
  | '\'' :: rest =>
    if multiline then
      match rest with
      | '\'' :: '\'' :: after => some (extraQuotes '\'' after)
      | _ => do
        let (s, rest) ← literalTail multiline rest
        some ('\'' :: s, rest)
    else some ([], rest)
  | '\r' :: '\n' :: rest =>
    if multiline then do
      let (s, rest) ← literalTail multiline rest
      some ('\r' :: '\n' :: s, rest)
    else none
  | c :: rest =>
    if isShown c || (multiline && c = '\n') then do
      let (s, rest) ← literalTail multiline rest
      some (c :: s, rest)
    else none

/-- The text without a line end at its front: a string of several lines starts after it. -/
def dropLineEnd : List Char → List Char
  | '\n' :: rest => rest
  | '\r' :: '\n' :: rest => rest
  | cs => cs

/-- A string in any of its spellings. -/
def readString? : List Char → Option (String × List Char)
  | '"' :: '"' :: '"' :: rest => (basicTail true false (dropLineEnd rest)).map fun (s, r) => (String.ofList s, r)
  | '"' :: rest => (basicTail false false rest).map fun (s, r) => (String.ofList s, r)
  | '\'' :: '\'' :: '\'' :: rest => (literalTail true (dropLineEnd rest)).map fun (s, r) => (String.ofList s, r)
  | '\'' :: rest => (literalTail false rest).map fun (s, r) => (String.ofList s, r)
  | _ => none

/-- A character of a key without quotes. -/
def isBare (c : Char) : Bool := c.isAlphanum || c == '_' || c == '-'

/-- One part of a key: bare, or a string in one line. -/
def readKeyPart? : List Char → Option (String × List Char)
  | '"' :: rest => (basicTail false false rest).map fun (s, r) => (String.ofList s, r)
  | '\'' :: rest => (literalTail false rest).map fun (s, r) => (String.ofList s, r)
  | cs =>
    let bare := cs.takeWhile isBare
    if bare.isEmpty then none else some (String.ofList bare, cs.dropWhile isBare)

/-- The text after the blanks at its front. -/
def afterSpace (cs : List Char) : List Char := cs.dropWhile isSpace

/-- A key, its parts joined by dots; each part takes at least one character, so the length of the text bounds their
number. The blanks after a key are taken with it. -/
def readKeyFrom? : Nat → List Char → Option (List String × List Char)
  | 0, _ => none
  | rounds + 1, cs => do
    let (part, rest) ← readKeyPart? (afterSpace cs)
    match afterSpace rest with
    | '.' :: rest =>
      let (parts, rest) ← readKeyFrom? rounds rest
      some (part :: parts, rest)
    | rest => some ([part], rest)

/-- How many parts a key may have. -/
def keyLimit : Nat := 80

/-- A key at the front of the text. -/
def readKey? (cs : List Char) : Option (List String × List Char) :=
  (readKeyFrom? (cs.length + 1) cs).filter (·.1.length ≤ keyLimit)

/-- Digits of a kind with single underscores between them. -/
def isDigitRun (isDigit : Char → Bool) : List Char → Bool
  | [] => false
  | [c] => isDigit c
  | c :: '_' :: rest => isDigit c && isDigitRun isDigit rest
  | c :: rest => isDigit c && isDigitRun isDigit rest

/-- The text without a sign at its front. -/
def dropSign : List Char → List Char
  | '+' :: rest => rest
  | '-' :: rest => rest
  | cs => cs

/-- A decimal integer without sign: no zero at the front but a lone one. -/
def isWhole (cs : List Char) : Bool :=
  isDigitRun Char.isDigit cs && (cs.head? != some '0' || cs.length == 1)

/-- A character that is part of the text of an exponent. -/
def isExponentMark (c : Char) : Bool := c == 'e' || c == 'E'

/-- A decimal with a fraction, an exponent, or both. -/
def isFraction (cs : List Char) : Bool :=
  let mantissa := cs.takeWhile (!isExponentMark ·)
  let exponent := cs.dropWhile (!isExponentMark ·)
  let whole := mantissa.takeWhile (· != '.')
  let places := mantissa.dropWhile (· != '.')
  isWhole whole && (places.isEmpty || isDigitRun Char.isDigit (places.drop 1)) &&
    (exponent.isEmpty || isDigitRun Char.isDigit (dropSign (exponent.drop 1))) &&
    !(places.isEmpty && exponent.isEmpty)

/-- The text of a number. -/
def isNumber (cs : List Char) : Bool :=
  match cs with
  | '0' :: 'x' :: rest => isDigitRun (fun c => (Text.hexValue? c).isSome) rest
  | '0' :: 'o' :: rest => isDigitRun (fun c => '0' ≤ c && c ≤ '7') rest
  | '0' :: 'b' :: rest => isDigitRun (fun c => c == '0' || c == '1') rest
  | _ =>
    let size := dropSign cs
    isWhole size || isFraction size || size == "inf".toList || size == "nan".toList

/-- The number that decimal digits spell. -/
def decimal (cs : List Char) : Nat := cs.foldl (fun n c => n * 10 + (c.toNat - '0'.toNat)) 0

/-- The number of days in a month. -/
def daysIn (year month : Nat) : Nat :=
  if month = 2 then if (year % 4 = 0 && year % 100 ≠ 0) || year % 400 = 0 then 29 else 28
  else if month = 4 || month = 6 || month = 9 || month = 11 then 30 else 31

/-- The text after a date. -/
def afterDate? : List Char → Option (List Char)
  | a :: b :: c :: d :: '-' :: e :: f :: '-' :: g :: h :: rest =>
    let month := decimal [e, f]
    let day := decimal [g, h]
    if [a, b, c, d, e, f, g, h].all Char.isDigit && 1 ≤ month && month ≤ 12 && 1 ≤ day &&
        day ≤ daysIn (decimal [a, b, c, d]) month then some rest else none
  | _ => none

/-- The text after the seconds of a time, which may be left out. -/
def afterSeconds? : List Char → Option (List Char)
  | ':' :: a :: b :: rest =>
    if a.isDigit && b.isDigit && decimal [a, b] ≤ 60 then
      match rest with
      | '.' :: places =>
        if (places.takeWhile Char.isDigit).isEmpty then none else some (places.dropWhile Char.isDigit)
      | _ => some rest
    else none
  | ':' :: _ => none
  | cs => some cs

/-- The text after hours and minutes. -/
def afterMinutes? : List Char → Option (List Char)
  | a :: b :: ':' :: c :: d :: rest =>
    if [a, b, c, d].all Char.isDigit && decimal [a, b] ≤ 23 && decimal [c, d] ≤ 59 then some rest else none
  | _ => none

/-- The text after a time of day. -/
def afterTime? (cs : List Char) : Option (List Char) := (afterMinutes? cs).bind afterSeconds?

/-- The text is an offset from universal time, or empty. -/
def isOffset : List Char → Bool
  | [] => true
  | ['Z'] => true
  | ['z'] => true
  | '+' :: rest => afterMinutes? rest == some []
  | '-' :: rest => afterMinutes? rest == some []
  | _ => false

/-- The text of a date, a time, or both. -/
def isMoment (cs : List Char) : Bool :=
  match afterDate? cs with
  | some [] => true
  | some (c :: rest) =>
    (c == 'T' || c == 't' || c == ' ') && (afterTime? rest).elim false isOffset
  | none => afterTime? cs == some []

/-- A character of a word that stands for a scalar. -/
def isWordChar (c : Char) : Bool := c.isAlphanum || c == '_' || c == '-' || c == '+' || c == '.' || c == ':'

/-- A word at the front of the text; a date takes the time after a single space with it. -/
def takeWord (cs : List Char) : List Char × List Char :=
  let word := cs.takeWhile isWordChar
  let rest := cs.dropWhile isWordChar
  match rest with
  | ' ' :: d :: more =>
    if afterDate? word == some [] && d.isDigit then
      (word ++ ' ' :: (d :: more).takeWhile isWordChar, (d :: more).dropWhile isWordChar)
    else (word, rest)
  | _ => (word, rest)

/-- A truth value, a number or a moment. -/
def readWord? (cs : List Char) : Option (Value × List Char) :=
  let (word, rest) := takeWord cs
  if word = "true".toList then some (.boolean true, rest)
  else if word = "false".toList then some (.boolean false, rest)
  else if isNumber word then some (.number (String.ofList word), rest)
  else if isMoment word then some (.moment (String.ofList word), rest)
  else none

end RenderCatalog.Toml
