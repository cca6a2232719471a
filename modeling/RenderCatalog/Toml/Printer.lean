import RenderCatalog.Toml.Scalar

/-!
# Writing TOML

Strings take the plainest spelling that holds them: in double quotes, in single quotes, or in triple quotes, without
escapes as long as one of these allows it. Lists of more than one item take a line for each.
-/

namespace RenderCatalog.Toml

/-- The length of the longest run of a character; `here` is the length of the run that ends right before the text. -/
def longestRun (q : Char) (here : Nat) : List Char → Nat
  | [] => here
  | c :: rest => if c = q then longestRun q (here + 1) rest else max here (longestRun q 0 rest)

/-- A control character that no spelling shows as it is. -/
def needsEscape (c : Char) : Bool := !isShown c && c != '\n'

/-- How a string is spelled. -/
inductive Spelling where
  | basic
  | literal
  | basicLines
  | literalLines
  deriving Repr, DecidableEq

/-- The plainest spelling that holds a string. -/
def spellingOf (s : List Char) : Spelling :=
  let escapes := s.any needsEscape
  let lines := s.contains '\n'
  let backslash := s.contains '\\'
  let double := longestRun '"' 0 s
  let single := longestRun '\'' 0 s
  if !escapes && !backslash && double == 0 && !lines then .basic
  else if !escapes && single == 0 && !lines then .literal
  else if !escapes && !backslash && double ≤ 2 then .basicLines
  else if !escapes && single ≤ 2 then .literalLines
  else if lines then .basicLines else .basic

/-- An upper-case hexadecimal digit. -/
def upperHex (n : Nat) : Char := (Text.hexDigit n).toUpper

/-- A character of a string with escapes; quotes and line ends are dealt with by the spelling. -/
def escaped (c : Char) : List Char :=
  if c = '\x08' then ['\\', 'b']
  else if c = '\t' then ['\\', 't']
  else if c = '\x0c' then ['\\', 'f']
  else if c = '\r' then ['\\', 'r']
  else if c = '\\' then ['\\', '\\']
  else if needsEscape c then ['\\', 'u', '0', '0', upperHex (c.val.toNat / 16), upperHex c.val.toNat]
  else [c]

/-- The inside of a string in double quotes. -/
def basicText (s : List Char) : List Char :=
  s.flatMap fun c => if c = '"' then ['\\', '"'] else if c = '\n' then ['\\', 'n'] else escaped c

/-- The inside of a string in triple double quotes: of quotes in a row every third is escaped. -/
def basicLinesText (quotes : Nat) : List Char → List Char
  | [] => []
  | c :: rest =>
    if c = '"' then
      if quotes = 2 then '\\' :: '"' :: basicLinesText 0 rest else '"' :: basicLinesText (quotes + 1) rest
    else if c = '\n' then '\n' :: basicLinesText 0 rest
    else escaped c ++ basicLinesText 0 rest

/-- A string as it is written. -/
def stringText (text : String) : List Char :=
  let s := text.toList
  let start := if s.contains '\n' then ['\n'] else []
  match spellingOf s with
  | .basic => '"' :: (basicText s ++ ['"'])
  | .literal => '\'' :: (s ++ ['\''])
  | .basicLines => ['"', '"', '"'] ++ start ++ basicLinesText 0 s ++ ['"', '"', '"']
  | .literalLines => ['\'', '\'', '\''] ++ start ++ s ++ ['\'', '\'', '\'']

/-- A list of strings as it is written. -/
def stringsText : List String → List Char
  | [] => ['[', ']']
  | [s] => '[' :: (stringText s ++ [']'])
  | ss => ['[', '\n'] ++ ss.flatMap (fun s => "    ".toList ++ stringText s ++ [',', '\n']) ++ [']']

/-- A truth value as it is written. -/
def flagText (b : Bool) : List Char := if b then "true".toList else "false".toList

/-- A key and its value on a line. -/
def lineText (key : String) (value : List Char) : List Char := key.toList ++ " = ".toList ++ value ++ ['\n']

/-- The header of a table on a line. -/
def headerText (key : String) : List Char := '[' :: (key.toList ++ [']', '\n'])

end RenderCatalog.Toml
