import RenderCatalog.Text.Hex
import RenderCatalog.Text.PrintableTable

/-!
# Quoted texts in messages

A text that a message quotes is written so that a reader sees every character: quotes and backslashes are escaped, the
common controls have letters, and whatever has no face of its own is spelled by its number.
-/

namespace RenderCatalog.Text

/-- A character has a face of its own when it can be shown as it is. -/
def hasFace (c : Char) : Bool :=
  let n := c.val.toNat
  if n < 128 then 0x20 ≤ n && n < 0x7F else !faceless.any (·.has n)

/-- One character inside a quoted text. -/
def quotedChar (c : Char) : List Char :=
  if c = '\x00' then ['\\', '0']
  else if c = '\t' then ['\\', 't']
  else if c = '\r' then ['\\', 'r']
  else if c = '\n' then ['\\', 'n']
  else if c = '"' then ['\\', '"']
  else if c = '\\' then ['\\', '\\']
  else if hasFace c then [c]
  else ['\\', 'u', '\x7b'] ++ hexDigits c.val.toNat ++ ['\x7d']

/-- The text between double quotes, every character visible. -/
def quoted (s : String) : String :=
  String.ofList ('"' :: s.toList.flatMap quotedChar ++ ['"'])

end RenderCatalog.Text
