import RenderCatalog.Event
import RenderCatalog.Text.Blank
import RenderCatalog.Text.LetterTable

/-!
# Which events a log takes, and how it shows them

A filter is a list of directives. Each is about the events whose target starts with the target it names, and says how
grave an event has to be; of the directives about an event the most specific counts. Filters are written as directives
between commas. In the lines of a log the controls that a terminal would act on are spelled by number.
-/

namespace RenderCatalog

/-- How grave an event has to be: up to a level, or nothing is grave enough. -/
structure Threshold where
  most? : Option Level
  deriving Repr, DecidableEq

namespace Threshold

/-- Everything passes. -/
def everything : Threshold := ⟨some .trace⟩

/-- Nothing passes. -/
def nothing : Threshold := ⟨none⟩

/-- An event of a level passes. -/
def passes (t : Threshold) (level : Level) : Bool :=
  match t.most? with
  | some most => level.rank ≤ most.rank
  | none => false

/-- A small letter in place of a capital one, among the letters of ASCII. -/
def smallAscii (c : Char) : Char := if 'A' ≤ c ∧ c ≤ 'Z' then Char.ofNat (c.toNat + 32) else c

/-- The words for thresholds. -/
def words : List (String × Threshold) :=
  [("off", nothing), ("error", ⟨some .error⟩), ("warn", ⟨some .warn⟩), ("info", ⟨some .info⟩),
    ("debug", ⟨some .debug⟩), ("trace", ⟨some .trace⟩)]

/-- The number that decimal digits spell, after a plus or nothing. -/
def number? (word : List Char) : Option Nat :=
  let digits := match word with
    | '+' :: rest => rest
    | _ => word
  if !digits.isEmpty && digits.all Char.isDigit then
    some (digits.foldl (fun n c => n * 10 + (c.toNat - '0'.toNat)) 0)
  else none

/-- The threshold that a word names, in whatever case, or a number, which is its place among the words. -/
def parse (word : List Char) : Option Threshold :=
  match number? word with
  | some n => (words[n]?).map (·.2)
  | none => words.lookup (String.ofList (word.map smallAscii))

end Threshold

/-- What a directive asks of the fields of an event: that there is one of a name, and maybe that it has a value. -/
structure FieldTest where
  name : List Char
  value? : Option (List Char) := none
  deriving Repr, DecidableEq

/-- A directive of a log filter: it is about the events whose target starts with its own, inside the span that it names and
with the field that it names, and says how grave they have to be. -/
structure Directive where
  target : List Char := []
  span? : Option (List Char) := none
  field? : Option FieldTest := none
  threshold : Threshold := .everything
  deriving Repr, DecidableEq

namespace Directive

/-- The one field that events have. -/
def messageField : List Char := "message".toList

/-- The directive is about an event. Events happen outside all spans and have a message without a value to test. -/
def covers (d : Directive) (e : Event) : Bool :=
  d.target.isPrefixOf e.source.target.toList && d.span?.isNone &&
    d.field?.all fun f => f.name == messageField && f.value?.isNone

/-- A directive gives way to a later one that is at least as specific: by a longer target, or by naming a field where the
targets are of one length. -/
def yieldsTo (earlier later : Directive) : Bool :=
  if earlier.target.length = later.target.length then later.field?.isSome || earlier.field?.isNone
  else earlier.target.length < later.target.length

/-- The one of two directives that counts. -/
def prefer (earlier? : Option Directive) (later : Directive) : Option Directive :=
  match earlier? with
  | some earlier => if earlier.yieldsTo later then some later else some earlier
  | none => some later

/-- A directive may start with this, or with a bracket. -/
def opens (c : Char) : Bool := Text.isLetterOrNumeral c || c == '-' || c == ':' || c == '_'

/-- A directive that ends in the given text for its threshold: without one it lets everything through. -/
def withThreshold (d : Directive) (word : List Char) : Option Directive :=
  if word.isEmpty then some d else (Threshold.parse word).map fun threshold => { d with threshold }

/-- What a directive says about a field: its name, and after `=` its value. -/
def fieldTest (s : List Char) : FieldTest :=
  match Text.pieces (· == '=') s with
  | name :: value :: _ => ⟨name, some value⟩
  | _ => ⟨s, none⟩

/-- Part of a text, by the place of its first character and its length. -/
def cut (s : List Char) (start length : Nat) : List Char := (s.drop start).take length

/-- The end of a directive, from `start` on: nothing, or `=` and a threshold. -/
def readEnd (full shown : List Char) (start : Nat) (d : Directive) : Option Directive :=
  match shown.drop start with
  | [] => some d
  | '=' :: _ => d.withThreshold (full.drop (start + 1))
  | _ => none

/-- The rest of a directive after the bracket that opens its span: a name, a field in braces, or both. -/
def readSpan (full shown : List Char) (start : Nat) (d : Directive) : Option Directive :=
  let size := ((shown.drop start).takeWhile fun c => c != ']' && c != '\x7b').length
  let name := cut full start size
  match shown.drop (start + size) with
  | ']' :: _ => readEnd full shown (start + size + 1) { d with span? := some name }
  | '\x7b' :: inner =>
    let width := (inner.takeWhile (· != '\x7d')).length
    match inner.drop width with
    | '\x7d' :: ']' :: _ =>
      if width = 0 then none
      else
        readEnd full shown (start + size + 1 + width + 2)
          { d with
            span? := if name.isEmpty then none else some name
            field? := some (fieldTest (cut full (start + size + 1) width)) }
    | _ => none
  | _ => none

/-- Reads a directive: a threshold, a target, or a target with a span, a field and a threshold. The blanks around it are
passed over only to find the places of its parts, which are then taken from the text with its blanks; so a target keeps the
blanks before it, and no threshold is read between blanks. -/
def parse (full : List Char) : Option Directive :=
  let shown := Text.trim full
  match shown with
  | [] => none
  | '[' :: _ => readSpan full shown 1 {}
  | c :: _ =>
    if opens c then
      let size := (shown.takeWhile fun c => c != '=' && c != '[').length
      match shown.drop size with
      | [] =>
        match Threshold.parse full with
        | some threshold => some { threshold }
        | none => some { target := full }
      | '[' :: _ => readSpan full shown (size + 1) { target := full.take size }
      | _ => readEnd full shown size { target := full.take size }
    else none

end Directive

/-- What a log takes, as the directives that say so. -/
structure LogFilter where
  directives : List Directive
  deriving Repr, DecidableEq

namespace LogFilter

/-- A filter with the same threshold for all events. -/
def ofThreshold (threshold : Threshold) : LogFilter := ⟨[{ threshold }]⟩

/-- A filter that takes everything. -/
def everything : LogFilter := .ofThreshold .everything

/-- A filter that takes nothing. -/
def nothing : LogFilter := .ofThreshold .nothing

/-- The directive that counts for an event. -/
def directiveFor? (f : LogFilter) (e : Event) : Option Directive :=
  (f.directives.filter (·.covers e)).foldl Directive.prefer none

/-- The filter takes an event; one that no directive is about is not taken. -/
def takes (f : LogFilter) (e : Event) : Bool :=
  match f.directiveFor? e with
  | some d => d.threshold.passes e.level
  | none => false

/-- What directives say together: without any directive, only errors are taken. -/
def ofDirectives (ds : List Directive) : LogFilter := if ds.isEmpty then .ofThreshold ⟨some .error⟩ else ⟨ds⟩

/-- The filter that a text writes; a text with a directive that cannot be read gives none. -/
def parse (s : String) : Option LogFilter :=
  (((Text.pieces (· == ',') s.toList).filter (!·.isEmpty)).mapM Directive.parse).map ofDirectives

end LogFilter

/-- A character in a line of a log. The controls that a terminal would act on are spelled by number: it would ring, move or
change its colours. -/
def logChar (c : Char) : List Char :=
  let n := c.toNat
  if n = 0x07 ∨ n = 0x08 ∨ n = 0x0C ∨ n = 0x1B ∨ n = 0x7F then
    ['\\', 'x', Nat.digitChar (n / 16), Nat.digitChar (n % 16)]
  else if 0x80 ≤ n ∧ n ≤ 0x9F then
    ['\\', 'u', '\x7b', Nat.digitChar (n / 16), Nat.digitChar (n % 16), '\x7d']
  else [c]

/-- The wording of an event as a log shows it. -/
def Event.logText (e : Event) : String := String.ofList (e.text.toList.flatMap logChar)

end RenderCatalog
