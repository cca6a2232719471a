import RenderCatalog.Json.Fault

/-!
# Reading the scalars of JSON

A `Cursor` is the text still to be read and the number of bytes read so far. The readers here take one scalar from its
front: words, strings and numbers. Each reader also has a twin that only passes over the scalar, for values that nobody
asks for: the twin does not look at what an escape or a number means, so it refuses less.
-/

namespace RenderCatalog.Json

open Decimal (Binary64)

/-- The rest of a text and the number of bytes before it. -/
structure Cursor where
  rest : List Char
  offset : Nat
  deriving Repr, DecidableEq

/-- The blanks between the parts of a JSON text. -/
def isGap (c : Char) : Bool := c == ' ' || c == '\n' || c == '\t' || c == '\r'

/-- The number of bytes that characters take. -/
def byteCount : List Char → Nat
  | [] => 0
  | c :: rest => c.utf8Size + byteCount rest

namespace Cursor

/-- The front of a text. -/
def ofText (cs : List Char) : Cursor := ⟨cs, 0⟩

/-- A flaw at the bytes read so far. -/
def flawHere (c : Cursor) (fault : Fault) : Flaw := ⟨fault, c.offset⟩

/-- A flaw at the next byte; at the end of the text, at its last byte. -/
def flawAhead (c : Cursor) (fault : Fault) : Flaw := ⟨fault, if c.rest.isEmpty then c.offset else c.offset + 1⟩

/-- Past the first `n` characters. -/
def drop (c : Cursor) (n : Nat) : Cursor := ⟨c.rest.drop n, c.offset + byteCount (c.rest.take n)⟩

/-- Past the blanks at the front. -/
def skipGap (c : Cursor) : Cursor :=
  ⟨c.rest.dropWhile isGap, c.offset + (c.rest.takeWhile isGap).length⟩

/-- Past the letters of a word; a letter that differs is a flaw, and so is the end of the text. -/
def word : List Char → Cursor → Except Flaw Cursor
  | [], c => .ok c
  | w :: ws, c =>
    match c.rest with
    | [] => .error (c.flawHere .endInValue)
    | x :: rest => if x = w then word ws ⟨rest, c.offset + 1⟩ else .error (c.flawAhead .wordExpected)

end Cursor

/-- The number that four hexadecimal digits spell. -/
def fourHex? (a b c d : Char) : Option Nat :=
  match Text.hexValue? a, Text.hexValue? b, Text.hexValue? c, Text.hexValue? d with
  | some a, some b, some c, some d => some (((a * 16 + b) * 16 + c) * 16 + d)
  | _, _, _, _ => none

/-- The flaw of a text that does not go on with four hexadecimal digits: it is found after four bytes, or at the end of a
text that has fewer. -/
def hexFlaw (rest : List Char) (offset : Nat) : Flaw :=
  if byteCount rest < 4 then ⟨.endInString, offset + byteCount rest⟩ else ⟨.badEscape, offset + 4⟩

/-- The character that a letter after a backslash stands for. -/
def escapeOf? (c : Char) : Option Char :=
  if c = '"' then some '"'
  else if c = '\\' then some '\\'
  else if c = '/' then some '/'
  else if c = 'b' then some '\x08'
  else if c = 'f' then some '\x0c'
  else if c = 'n' then some '\n'
  else if c = 'r' then some '\r'
  else if c = 't' then some '\t'
  else none

/-- A code unit that opens a pair. -/
def isLeadingUnit (n : Nat) : Bool := 0xD800 ≤ n && n ≤ 0xDBFF

/-- A code unit that closes a pair. -/
def isTrailingUnit (n : Nat) : Bool := 0xDC00 ≤ n && n ≤ 0xDFFF

/-- The character that a pair of code units spells. -/
def pairedChar (lead trail : Nat) : Char := Char.ofNat ((lead - 0xD800) * 0x400 + (trail - 0xDC00) + 0x10000)

/-- The rest of a string after its opening quote; `read` holds its characters so far, the last one first. -/
def readStringTail (read : List Char) : List Char → Nat → Except Flaw (String × Cursor)
  | [], offset => .error ⟨.endInString, offset⟩
  | '"' :: rest, offset => .ok (String.ofList read.reverse, ⟨rest, offset + 1⟩)
  | '\\' :: [], offset => .error ⟨.endInString, offset + 1⟩
  | '\\' :: 'u' :: a :: b :: c :: d :: rest, offset =>
    match fourHex? a b c d with
    | none => .error (hexFlaw (a :: b :: c :: d :: rest) (offset + 2))
    | some n =>
      if isTrailingUnit n then .error ⟨.loneSurrogate, offset + 6⟩
      else if isLeadingUnit n then
        match rest with
        | [] => .error ⟨.endInString, offset + 6⟩
        | '\\' :: [] => .error ⟨.endInString, offset + 7⟩
        | '\\' :: 'u' :: e :: f :: g :: h :: rest =>
          match fourHex? e f g h with
          | none => .error (hexFlaw (e :: f :: g :: h :: rest) (offset + 8))
          | some m =>
            if isTrailingUnit m then readStringTail (pairedChar n m :: read) rest (offset + 12)
            else .error ⟨.loneSurrogate, offset + 12⟩
        | '\\' :: 'u' :: short => .error (hexFlaw short (offset + 8))
        | '\\' :: _ :: _ => .error ⟨.endOfHexEscape, offset + 8⟩
        | _ :: _ => .error ⟨.endOfHexEscape, offset + 7⟩
      else readStringTail (Char.ofNat n :: read) rest (offset + 6)
  | '\\' :: 'u' :: short, offset => .error (hexFlaw short (offset + 2))
  | '\\' :: x :: rest, offset =>
    match escapeOf? x with
    | some c => readStringTail (c :: read) rest (offset + 2)
    | none => .error ⟨.badEscape, offset + 2⟩
  | c :: rest, offset =>
    if c.val < 0x20 then .error ⟨.controlInString, offset + 1⟩
    else readStringTail (c :: read) rest (offset + c.utf8Size)

/-- Past the rest of a string after its opening quote. -/
def skipStringTail : List Char → Nat → Except Flaw Cursor
  | [], offset => .error ⟨.endInString, offset⟩
  | '"' :: rest, offset => .ok ⟨rest, offset + 1⟩
  | '\\' :: [], offset => .error ⟨.endInString, offset + 1⟩
  | '\\' :: 'u' :: a :: b :: c :: d :: rest, offset =>
    match fourHex? a b c d with
    | none => .error (hexFlaw (a :: b :: c :: d :: rest) (offset + 2))
    | some _ => skipStringTail rest (offset + 6)
  | '\\' :: 'u' :: short, offset => .error (hexFlaw short (offset + 2))
  | '\\' :: x :: rest, offset =>
    match escapeOf? x with
    | some _ => skipStringTail rest (offset + 2)
    | none => .error ⟨.badEscape, offset + 2⟩
  | c :: rest, offset =>
    if c.val < 0x20 then .error ⟨.controlInString, offset⟩
    else skipStringTail rest (offset + c.utf8Size)

/-- A string that starts at the cursor with its opening quote. -/
def Cursor.readString (c : Cursor) : Except Flaw (String × Cursor) := readStringTail [] (c.rest.drop 1) (c.offset + 1)

/-- Past a string that starts at the cursor with its opening quote. -/
def Cursor.skipString (c : Cursor) : Except Flaw Cursor := skipStringTail (c.rest.drop 1) (c.offset + 1)

/-- The value of a decimal digit. -/
def digitValue (c : Char) : Nat := c.toNat - '0'.toNat

/-- The digits at the front of the cursor, and the cursor past them. -/
def Cursor.digits (c : Cursor) : List Char × Cursor :=
  (c.rest.takeWhile Char.isDigit, ⟨c.rest.dropWhile Char.isDigit, c.offset + (c.rest.takeWhile Char.isDigit).length⟩)

/-- A coefficient takes further digits as long as it fits 64 bits; the first digit that does not fit and all after
it are left. -/
def absorb (coefficient : Nat) : List Char → Nat × List Char
  | [] => (coefficient, [])
  | d :: rest =>
    let more := coefficient * 10 + digitValue d
    if more < UInt64.size then absorb more rest else (coefficient, d :: rest)

/-- The greatest exponent whose digits are all read. -/
def greatestExponent : Nat := Nat.pow 2 31 - 1

/-- How many digits make the exponent exceed the greatest one, if they do. -/
def overflowAfter? (exponent count : Nat) : List Char → Option Nat
  | [] => none
  | d :: rest =>
    let more := exponent * 10 + digitValue d
    if greatestExponent < more then some (count + 1) else overflowAfter? more (count + 1) rest

/-- The natural that digits spell. -/
def naturalOf (digits : List Char) : Nat := digits.foldl (fun n d => n * 10 + digitValue d) 0

/-- The floating-point number of a coefficient and a decimal exponent. -/
def floatNumber (negative : Bool) (coefficient : Nat) (exponent : Int) (c : Cursor) : Except Flaw (Number × Cursor) :=
  match (Binary64.ofInt coefficient).scale? exponent with
  | some x => .ok (.float (x.withSign negative), c)
  | none => .error (c.flawHere .numberOutOfRange)

/-- The exponent of a number, from its letter on. -/
def readExponent (negative : Bool) (coefficient : Nat) (exponent : Int) (c : Cursor) : Except Flaw (Number × Cursor) :=
  let c := c.drop 1
  let (down, c) := match c.rest with
    | '+' :: _ => (false, c.drop 1)
    | '-' :: _ => (true, c.drop 1)
    | _ => (false, c)
  let (digits, after) := c.digits
  if digits.isEmpty then
    .error (if c.rest.isEmpty then c.flawHere .endInValue else c.flawAhead .badNumber)
  else match overflowAfter? 0 0 digits with
    | some count =>
      if coefficient ≠ 0 && !down then .error ⟨.numberOutOfRange, c.offset + count⟩
      else .ok (.float (Binary64.zero.withSign negative), after)
    | none =>
      let shift : Int := naturalOf digits
      floatNumber negative coefficient (if down then exponent - shift else exponent + shift) after

/-- What follows the digits of a number: an exponent, or nothing that belongs to it. -/
def readScaled (negative : Bool) (coefficient : Nat) (exponent : Int) (c : Cursor) : Except Flaw (Number × Cursor) :=
  match c.rest with
  | 'e' :: _ => readExponent negative coefficient exponent c
  | 'E' :: _ => readExponent negative coefficient exponent c
  | _ => floatNumber negative coefficient exponent c

/-- The places of a number after its point. -/
def readPlaces (negative : Bool) (coefficient : Nat) (exponent : Int) (c : Cursor) : Except Flaw (Number × Cursor) :=
  let c := c.drop 1
  let (digits, after) := c.digits
  if digits.isEmpty then
    .error (if c.rest.isEmpty then c.flawHere .endInValue else c.flawAhead .badNumber)
  else
    let (coefficient, left) := absorb coefficient digits
    readScaled negative coefficient (exponent - (digits.length - left.length : Nat)) after

/-- An integer stays one when 64 bits hold it; minus zero has no integer of its own. -/
def wholeNumber (negative : Bool) (n : Nat) : Number :=
  if !negative then .int n
  else if n = 0 || Nat.pow 2 63 < n then .float ((Binary64.ofInt n).withSign true)
  else .int (-(n : Int))

/-- A number without its sign. -/
def readUnsigned (negative : Bool) (c : Cursor) : Except Flaw (Number × Cursor) :=
  let (digits, after) := c.digits
  match digits with
  | [] => .error (if c.rest.isEmpty then c.flawHere .endInValue else c.flawAhead .badNumber)
  | '0' :: _ :: _ => .error ⟨.badNumber, c.offset + 2⟩
  | _ =>
    let (coefficient, left) := absorb 0 digits
    match after.rest with
    | '.' :: _ => readPlaces negative coefficient left.length after
    | 'e' :: _ => readExponent negative coefficient left.length after
    | 'E' :: _ => readExponent negative coefficient left.length after
    | _ =>
      if left.isEmpty then .ok (wholeNumber negative coefficient, after)
      else floatNumber negative coefficient left.length after

/-- A number that starts at the cursor with its sign or its first digit. -/
def Cursor.readNumber (c : Cursor) : Except Flaw (Number × Cursor) :=
  match c.rest with
  | '-' :: _ => readUnsigned true (c.drop 1)
  | _ => readUnsigned false c

/-- Past an exponent, from its letter on. -/
def skipExponent (c : Cursor) : Except Flaw Cursor :=
  let c := c.drop 1
  let c := match c.rest with
    | '+' :: _ => c.drop 1
    | '-' :: _ => c.drop 1
    | _ => c
  let (digits, after) := c.digits
  if digits.isEmpty then .error (c.flawAhead .badNumber) else .ok after

/-- Past an exponent if there is one. -/
def skipScaled (c : Cursor) : Except Flaw Cursor :=
  match c.rest with
  | 'e' :: _ => skipExponent c
  | 'E' :: _ => skipExponent c
  | _ => .ok c

/-- Past a number that starts at the cursor with its sign or its first digit. -/
def Cursor.skipNumber (c : Cursor) : Except Flaw Cursor :=
  let c := match c.rest with
    | '-' :: _ => c.drop 1
    | _ => c
  let (digits, after) := c.digits
  match digits with
  | [] => .error (c.flawAhead .badNumber)
  | '0' :: _ :: _ => .error ⟨.badNumber, c.offset + 2⟩
  | _ =>
    match after.rest with
    | '.' :: _ =>
      let c := after.drop 1
      let (places, after) := c.digits
      if places.isEmpty then .error (c.flawAhead .badNumber) else skipScaled after
    | _ => skipScaled after

/-- The scalar at the cursor, when one starts there. -/
def Cursor.scalar? (c : Cursor) : Option (Except Flaw (Value × Cursor)) :=
  match c.rest with
  | 'n' :: _ => some ((Cursor.word ['u', 'l', 'l'] (c.drop 1)).map fun after => (.null, after))
  | 't' :: _ => some ((Cursor.word ['r', 'u', 'e'] (c.drop 1)).map fun after => (.bool true, after))
  | 'f' :: _ => some ((Cursor.word ['a', 'l', 's', 'e'] (c.drop 1)).map fun after => (.bool false, after))
  | '"' :: _ => some (c.readString.map fun (s, after) => (.string s, after))
  | x :: _ => if x = '-' || x.isDigit then some (c.readNumber.map fun (n, after) => (.number n, after)) else none
  | [] => none

/-- Past the scalar at the cursor, when one starts there. -/
def Cursor.skipScalar? (c : Cursor) : Option (Except Flaw Cursor) :=
  match c.rest with
  | 'n' :: _ => some (Cursor.word ['u', 'l', 'l'] (c.drop 1))
  | 't' :: _ => some (Cursor.word ['r', 'u', 'e'] (c.drop 1))
  | 'f' :: _ => some (Cursor.word ['a', 'l', 's', 'e'] (c.drop 1))
  | '"' :: _ => some c.skipString
  | x :: _ => if x = '-' || x.isDigit then some c.skipNumber else none
  | [] => none

/-- The flaw of meeting something else than `expected` at the cursor. A scalar is read to its end first, so that a fault
inside it is reported in its place; a bracket is only named. -/
def Cursor.mismatch (c : Cursor) (expected : String) : Flaw :=
  match c.scalar? with
  | some (.ok (v, after)) => after.flawHere (.wrongKind (.ofValue v) expected)
  | some (.error flaw) => flaw
  | none =>
    match c.rest with
    | '[' :: _ => c.flawHere (.wrongKind .sequence expected)
    | '{' :: _ => c.flawHere (.wrongKind .map expected)
    | _ => c.flawAhead .valueExpected

end RenderCatalog.Json
