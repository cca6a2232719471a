import RenderCatalog.Decimal.Shortest
import RenderCatalog.Json.Value
import RenderCatalog.Text.Hex

/-!
# Printing JSON

One printer for both layouts: a `Style` says what stands between the parts of arrays and objects, and the compact and the
indented text differ in nothing else. An empty array or object is closed at once in every style.
-/

namespace RenderCatalog.Json

open Decimal (Binary64 Digits shortest)

/-- The decimal digits of an integer, after its sign. -/
def intText (n : Int) : List Char :=
  (if n < 0 then ['-'] else []) ++ Nat.toDigits 10 n.natAbs

/-- The greatest and the least exponent of the leading digit that are written without an exponent. -/
def plainExponents : Int × Int := (-5, 15)

/-- Digits with a point: whole numbers keep one place after it, and fractions start with a zero. -/
def plainText (digits : List Char) (exponent : Int) : List Char :=
  if exponent < 0 then ['0', '.'] ++ List.replicate (-exponent - 1).toNat '0' ++ digits
  else
    let whole := exponent.toNat + 1
    let padded := digits ++ List.replicate (whole - digits.length) '0'
    let fraction := padded.drop whole
    padded.take whole ++ ['.'] ++ (if fraction.isEmpty then ['0'] else fraction)

/-- Digits with an exponent, whose sign is always written. -/
def scientificText (digits : List Char) (exponent : Int) : List Char :=
  let fraction := digits.drop 1
  digits.take 1 ++ (if fraction.isEmpty then [] else '.' :: fraction) ++
    ['e', if exponent < 0 then '-' else '+'] ++ Nat.toDigits 10 exponent.natAbs

/-- A floating-point number by its shortest digits, positional for moderate exponents and scientific for others. -/
def floatText (x : Binary64) : List Char :=
  let d := shortest x
  (if x.negative then ['-'] else []) ++
    (if plainExponents.1 ≤ d.exponent && d.exponent ≤ plainExponents.2 then plainText d.digits d.exponent
     else scientificText d.digits d.exponent)

/-- The text of a number. -/
def Number.text : Number → List Char
  | .int n => intText n
  | .float x => floatText x

/-- One character inside a JSON string: only quotes, backslashes and controls are escaped. -/
def escapedChar (c : Char) : List Char :=
  if c = '"' then ['\\', '"']
  else if c = '\\' then ['\\', '\\']
  else if c = '\x08' then ['\\', 'b']
  else if c = '\x0c' then ['\\', 'f']
  else if c = '\n' then ['\\', 'n']
  else if c = '\r' then ['\\', 'r']
  else if c = '\t' then ['\\', 't']
  else if c.val < 0x20 then ['\\', 'u', '0', '0', Text.hexDigit (c.val.toNat / 16), Text.hexDigit c.val.toNat]
  else [c]

/-- A JSON string with its quotes. -/
def stringText (s : String) : List Char :=
  '"' :: (s.toList.flatMap escapedChar ++ ['"'])

/-- What stands between the parts of a printed value: `gap n` before each part at depth `n` and before the bracket that
closes depth `n`, and `afterColon` between the colon and the value. -/
structure Style where
  gap : Nat → List Char
  afterColon : List Char

/-- Nothing between the parts. -/
def Style.compact : Style := ⟨fun _ => [], []⟩

/-- Each part on a line of its own, indented by two spaces a level. -/
def Style.indented : Style := ⟨fun n => '\n' :: List.replicate (2 * n) ' ', [' ']⟩

mutual
/-- The text of a value that stands at a depth. -/
def Value.render (style : Style) (depth : Nat) : Value → List Char
  | .null => ['n', 'u', 'l', 'l']
  | .bool true => ['t', 'r', 'u', 'e']
  | .bool false => ['f', 'a', 'l', 's', 'e']
  | .number n => n.text
  | .string s => stringText s
  | .array [] => ['[', ']']
  | .array (v :: rest) =>
    '[' :: (style.gap (depth + 1) ++ v.render style (depth + 1) ++ renderItems style (depth + 1) rest ++
      style.gap depth ++ [']'])
  | .object [] => ['\x7b', '\x7d']
  | .object ((key, v) :: rest) =>
    '\x7b' :: (style.gap (depth + 1) ++ stringText key ++ [':'] ++ style.afterColon ++ v.render style (depth + 1) ++
      renderEntries style (depth + 1) rest ++ style.gap depth ++ ['\x7d'])
/-- The texts of further items, each after its comma. -/
def renderItems (style : Style) (depth : Nat) : List Value → List Char
  | [] => []
  | v :: rest => ',' :: (style.gap depth ++ v.render style depth ++ renderItems style depth rest)
/-- The texts of further entries, each after its comma. -/
def renderEntries (style : Style) (depth : Nat) : List (String × Value) → List Char
  | [] => []
  | (key, v) :: rest =>
    ',' :: (style.gap depth ++ stringText key ++ [':'] ++ style.afterColon ++ v.render style depth ++
      renderEntries style depth rest)
end

/-- The text on one line without spaces. -/
def Value.compact (v : Value) : String := String.ofList (v.render .compact 0)

/-- The text with one part a line. -/
def Value.pretty (v : Value) : String := String.ofList (v.render .indented 0)

end RenderCatalog.Json
