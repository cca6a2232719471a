import RenderCatalog.Proofs.Path
import RenderCatalog.Proofs.Report.Leaves

/-!
# A report in plain text

The plain text of a report has one line for each leaf, and the line begins with the path to the leaf (`textLines_eq`). A path is
read from its front: every step but a first key begins with a point or a bracket, keys have none of these in them, and the first
equals sign ends the path, whatever the text of the leaf may be (`way_inj`). So from values without keys or texts that would break
a line the same text comes exactly when the values differ at most in what has the same text (`render_text_eq_iff`): a list without
items and the text `[]` look alike, but no key, no length and no place of a leaf is lost.
-/

namespace RenderCatalog.Report

open Json (Value)

/-! ## Values that can be read from their text -/

/-- A key that a path can be read with: it is not empty, and has neither a line break nor any sign in it at which a key ends. -/
def IsPathKey (key : String) : Prop :=
  key.toList ≠ [] ∧ '.' ∉ key.toList ∧ '[' ∉ key.toList ∧ '=' ∉ key.toList ∧ '\n' ∉ key.toList

instance (key : String) : Decidable (IsPathKey key) :=
  inferInstanceAs (Decidable (key.toList ≠ [] ∧ '.' ∉ key.toList ∧ '[' ∉ key.toList ∧ '=' ∉ key.toList ∧ '\n' ∉ key.toList))

/-- All keys in the value are ones that a path can be read with, and no text in it has a line break. -/
inductive Legible : Value → Prop where
  | null : Legible .null
  | bool (b : Bool) : Legible (.bool b)
  | number (n : Json.Number) : Legible (.number n)
  | string {s : String} (h : '\n' ∉ s.toList) : Legible (.string s)
  | array {items : List Value} (h : ∀ v ∈ items, Legible v) : Legible (.array items)
  | object {entries : List (String × Value)} (hkeys : ∀ e ∈ entries, IsPathKey e.1) (h : ∀ e ∈ entries, Legible e.2) :
    Legible (.object entries)

variable {v w : Value} {path : List Char} {way way' : List Step} {l l' : Leaf}

/-- Every entry of a sorted object is one of the object, with its value sorted. -/
theorem exists_of_mem_sortEntries {entries : List (String × Value)} {e : String × Value}
    (h : e ∈ Json.sortEntries (Json.sortedEntries entries)) : ∃ e' ∈ entries, (e'.1, e'.2.sorted) = e := by
  rw [Json.sortedEntries_eq] at h
  exact List.mem_map.1 (Json.mem_sortEntries h)

/-- Sorting leaves no key twice, and a value as legible as it was. -/
theorem Legible.sorted (h : Legible v) : Legible v.sorted ∧ Distinct v.sorted := by
  induction h with
  | null => exact ⟨.null, .leaf rfl⟩
  | bool b => exact ⟨.bool b, .leaf rfl⟩
  | number n => exact ⟨.number n, .leaf rfl⟩
  | string h => exact ⟨.string h, .leaf rfl⟩
  | @array items h ih =>
    rw [Value.sorted, Json.sortedItems_eq]
    exact ⟨.array (List.forall_mem_map.2 fun v hv => (ih v hv).1), .array (List.forall_mem_map.2 fun v hv => (ih v hv).2)⟩
  | @object entries hkeys h ih =>
    refine ⟨.object (fun e he => ?_) (fun e he => ?_), .object (Json.rising_sortEntries _).nodup_keys (fun e he => ?_)⟩
    · obtain ⟨e', he', rfl⟩ := exists_of_mem_sortEntries he
      exact hkeys e' he'
    · obtain ⟨e', he', rfl⟩ := exists_of_mem_sortEntries he
      exact (ih e' he').1
    · obtain ⟨e', he', rfl⟩ := exists_of_mem_sortEntries he
      exact (ih e' he').2

/-- What has something in it still has it after sorting. -/
theorem isNested_sorted (h : isNested v = true) : isNested v.sorted = true := by
  rcases leaf_or_nested v with hleaf | ⟨items, hne, rfl⟩ | ⟨entries, hne, rfl⟩
  · exact absurd (hleaf.symm.trans h) nofun
  · rw [Value.sorted, Json.sortedItems_eq]
    exact isNested_array (by simpa using hne)
  · obtain ⟨e, rest, rfl⟩ := List.exists_cons_of_ne_nil hne
    rw [Value.sorted]
    refine isNested_object fun hempty => ?_
    have hkey : e.1 ∈ (Json.sortEntries (Json.sortedEntries (e :: rest))).map (·.1) :=
      (Json.mem_keys_sortEntries _ _).2 (by simp [Json.sortedEntries])
    rw [hempty] at hkey
    cases hkey

/-! ## Texts of leaves -/

/-- A character that numbers are written with. -/
def isNumberSign (c : Char) : Bool := c.isDigit || c == '-' || c == '+' || c == '.' || c == 'e'

/-- Digits are signs of numbers. -/
theorem isNumberSign_toDigits (n : Nat) : ∀ c ∈ Nat.toDigits 10 n, isNumberSign c = true := by
  intro c hc
  rw [isNumberSign, Nat.isDigit_of_mem_toDigits (by decide) (by decide) hc]
  rfl

/-- A number without an exponent is written with the signs of numbers. -/
theorem isNumberSign_plainText {digits : List Char} (h : ∀ c ∈ digits, isNumberSign c = true) (exponent : Int) :
    ∀ c ∈ Json.plainText digits exponent, isNumberSign c = true := by
  have hzeros : ∀ n, ∀ c ∈ List.replicate n '0', isNumberSign c = true := by
    intro n c hc
    rw [List.eq_of_mem_replicate hc]
    rfl
  unfold Json.plainText
  split
  · exact List.forall_mem_append.2 ⟨List.forall_mem_append.2 ⟨List.all_eq_true.1 rfl, hzeros _⟩, h⟩
  · have hpadded : ∀ n, ∀ c ∈ digits ++ List.replicate n '0', isNumberSign c = true :=
      fun n => List.forall_mem_append.2 ⟨h, hzeros n⟩
    refine List.forall_mem_append.2 ⟨List.forall_mem_append.2 ⟨fun c hc => hpadded _ c (List.mem_of_mem_take hc),
      List.all_eq_true.1 rfl⟩, ?_⟩
    split
    · exact List.all_eq_true.1 rfl
    · exact fun c hc => hpadded _ c (List.mem_of_mem_drop hc)

theorem isNumberSign_scientificText {digits : List Char} (h : ∀ c ∈ digits, isNumberSign c = true) (exponent : Int) :
    ∀ c ∈ Json.scientificText digits exponent, isNumberSign c = true := by
  unfold Json.scientificText
  refine List.forall_mem_append.2 ⟨List.forall_mem_append.2 ⟨List.forall_mem_append.2
    ⟨fun c hc => h c (List.mem_of_mem_take hc), ?_⟩, ?_⟩, isNumberSign_toDigits _⟩
  · split
    · exact nofun
    · exact List.forall_mem_cons.2 ⟨rfl, fun c hc => h c (List.mem_of_mem_drop hc)⟩
  · split <;> exact List.all_eq_true.1 rfl

/-- Whatever its size, a decimal is written with the signs of numbers. -/
theorem isNumberSign_floatText (x : Decimal.Binary64) : ∀ c ∈ Json.floatText x, isNumberSign c = true := by
  have hdigits : ∀ c ∈ (Decimal.shortest x).digits, isNumberSign c = true := by
    unfold Decimal.shortest
    split
    · exact List.all_eq_true.1 rfl
    · intro c hc
      exact isNumberSign_toDigits _ c (List.mem_reverse.1 ((List.dropWhile_suffix _).subset (List.mem_reverse.1 hc)))
  unfold Json.floatText
  refine List.forall_mem_append.2 ⟨by split <;> exact List.all_eq_true.1 rfl, ?_⟩
  split
  · exact isNumberSign_plainText hdigits _
  · exact isNumberSign_scientificText hdigits _

theorem isNumberSign_intText (n : Int) : ∀ c ∈ Json.intText n, isNumberSign c = true := by
  unfold Json.intText
  exact List.forall_mem_append.2 ⟨by split <;> exact List.all_eq_true.1 rfl, isNumberSign_toDigits _⟩

/-- A character that numbers are not written with is in no text of a number. -/
theorem not_mem_numberText {c : Char} (hc : isNumberSign c = false) (n : Json.Number) : c ∉ n.text := by
  have htext : ∀ c ∈ n.text, isNumberSign c = true := by
    cases n with
    | int n => exact isNumberSign_intText n
    | float x => exact isNumberSign_floatText x
  intro hmem
  exact absurd (htext c hmem) (by rw [hc]; nofun)

/-- No line breaks inside an index. -/
theorem no_break_toDigits (n : Nat) : '\n' ∉ Nat.toDigits 10 n :=
  fun hmem => absurd (isNumberSign_toDigits n _ hmem) (by decide)

/-- A leaf that can be read from its line: by its way, and without a line break in its text. -/
structure Leaf.IsLegible (l : Leaf) : Prop where
  keys : ∀ name, .key name ∈ l.way → IsPathKey name
  text : '\n' ∉ l.text

/-- A leaf stays legible below an index and below a legible key. -/
theorem Leaf.IsLegible.under (h : l.IsLegible) {s : Step} (hs : ∀ name, s = .key name → IsPathKey name) : (l.under s).IsLegible := by
  refine ⟨fun name hname => ?_, h.text⟩
  rcases List.mem_cons.1 hname with heq | hmem
  · exact hs name heq.symm
  · exact h.keys name hmem

/-- A leaf that is the whole value is legible when its text is in one line. -/
theorem isLegible_of_leaf (h : isNested v = false) (htext : '\n' ∉ leafText v) : ∀ l ∈ leaves v, l.IsLegible := by
  rw [(leaf_eq h).1]
  intro l hl
  rw [List.mem_singleton.1 hl]
  exact ⟨nofun, htext⟩

/-- The leaves of a legible value are legible. -/
theorem Legible.isLegible (h : Legible v) : ∀ l ∈ leaves v, l.IsLegible := by
  induction h with
  | null => exact isLegible_of_leaf rfl (by decide)
  | bool b => exact isLegible_of_leaf rfl (by cases b <;> decide)
  | number n => exact isLegible_of_leaf rfl (not_mem_numberText (by decide) n)
  | string h => exact isLegible_of_leaf rfl h
  | @array items h ih =>
    by_cases hne : items = []
    · subst hne
      exact isLegible_of_leaf rfl (by decide)
    · rw [leaves_array hne]
      intro l hl
      obtain ⟨v, hv, j, -, l', hl', rfl⟩ := mem_itemLeaves hl
      exact (ih v hv l' hl').under nofun
  | @object entries hkeys h ih =>
    by_cases hne : entries = []
    · subst hne
      exact isLegible_of_leaf rfl (by decide)
    · rw [leaves_object hne]
      intro l hl
      obtain ⟨e, he, l', hl', rfl⟩ := mem_entryLeaves hl
      refine (ih e he l' hl').under fun name heq => ?_
      rw [← Step.key.inj heq]
      exact hkeys e he

/-! ## Lines -/

/-- The path one step further down. -/
def Step.extend (path : List Char) : Step → List Char
  | .key name => entryPath path name.toList
  | .index i => itemPath path i

/-- The line of a leaf below a path. -/
def Leaf.line (path : List Char) (l : Leaf) : List Char :=
  let path := l.way.foldl Step.extend path
  if path.isEmpty then l.text else path ++ '=' :: l.text

mutual
/-- The lines of a value are those of its leaves. -/
theorem textLines_eq : ∀ (v : Value) (path : List Char), textLines path v = (leaves v).map (Leaf.line path)
  | .array (v :: rest), path => by
    rw [textLines, leaves, List.map_append, List.map_map, textLines_eq v, itemLines_eq rest]
    rfl
  | .object ((key, v) :: rest), path => by
    rw [textLines, leaves, List.map_append, List.map_map, textLines_eq v, entryLines_eq rest]
    rfl
  | .array [], _ | .object [], _ | .null, _ | .bool _, _ | .number _, _ | .string _, _ => rfl

/-- The lines of items are those of their leaves. -/
theorem itemLines_eq : ∀ (items : List Value) (path : List Char) (i : Nat),
    itemLines path i items = (itemLeaves i items).map (Leaf.line path)
  | [], _, _ => rfl
  | v :: rest, path, i => by
    rw [itemLines, itemLeaves, List.map_append, List.map_map, textLines_eq v, itemLines_eq rest]
    rfl

/-- The lines of entries are those of their leaves. -/
theorem entryLines_eq : ∀ (entries : List (String × Value)) (path : List Char),
    entryLines path entries = (entryLeaves entries).map (Leaf.line path)
  | [], _ => rfl
  | (key, v) :: rest, path => by
    rw [entryLines, entryLeaves, List.map_append, List.map_map, textLines_eq v, entryLines_eq rest]
    rfl
end

/-- A step as it stands inside a path. -/
def Step.text : Step → List Char
  | .key name => '.' :: name.toList
  | .index i => '[' :: (Nat.toDigits 10 i ++ [']'])

/-- Behind a path that is not empty every step is spelled in one way. -/
theorem foldl_extend (h : path ≠ []) (way : List Step) : way.foldl Step.extend path = path ++ way.flatMap Step.text := by
  induction way generalizing path with
  | nil => simp
  | cons s rest ih =>
    have hstep : s.extend path = path ++ s.text := by
      cases s with
      | key name => rw [Step.extend, entryPath, if_neg (by simpa using h), Step.text]
      | index i => rfl
    rw [List.foldl_cons, ih (by simp [hstep, h]), hstep, List.append_assoc, List.flatMap_cons]

/-- A sign that ends a key in a path. -/
def endsKey (c : Char) : Bool := c == '.' || c == '[' || c == '='

/-- No character of a legible key ends it. -/
theorem IsPathKey.endsKey_eq_false {name : String} (h : IsPathKey name) : ∀ c ∈ name.toList, endsKey c = false := by
  obtain ⟨-, hpoint, hbracket, hequals, -⟩ := h
  intro c hc
  simp only [endsKey, Bool.or_eq_false_iff, beq_eq_false_iff_ne]
  exact ⟨⟨fun heq => hpoint (heq ▸ hc), fun heq => hbracket (heq ▸ hc)⟩, fun heq => hequals (heq ▸ hc)⟩

/-- A step is read from the front of what is left of a path. -/
theorem step_inj {s s' : Step} {rest rest' : List Char} (hs : ∀ name, s = .key name → IsPathKey name)
    (hs' : ∀ name, s' = .key name → IsPathKey name) (hrest : ∀ c ∈ rest.head?, endsKey c = true)
    (hrest' : ∀ c ∈ rest'.head?, endsKey c = true) (h : s.text ++ rest = s'.text ++ rest') : s = s' ∧ rest = rest' := by
  cases s with
  | key name =>
    cases s' with
    | key name' =>
      obtain ⟨hname, hrest⟩ := append_inj_of_marked (hs name rfl).endsKey_eq_false (hs' name' rfl).endsKey_eq_false hrest hrest'
        (List.cons.inj h).2
      exact ⟨congrArg Step.key (String.toList_inj.1 hname), hrest⟩
    | index i' => exact absurd (List.cons.inj h).1 (by decide)
  | index i =>
    cases s' with
    | key name' => exact absurd (List.cons.inj h).1 (by decide)
    | index i' =>
      -- digits end at the closing bracket, and tell the number
      have hdigits : ∀ i, ∀ c ∈ Nat.toDigits 10 i, (c == ']') = false := by
        intro i c hc
        have hdigit := Nat.isDigit_of_mem_toDigits (by decide) (by decide) hc
        rw [beq_eq_false_iff_ne]
        rintro rfl
        exact absurd hdigit (by decide)
      have htail := (List.cons.inj h).2
      simp only [List.append_eq, List.append_assoc, List.singleton_append] at htail
      obtain ⟨hi, hrest⟩ := append_inj_of_marked (hdigits i) (hdigits i') (by simp) (by simp) htail
      have hindex : i = i' := by rw [← Nat.ofDigitChars_ten_toDigits (n := i), hi, Nat.ofDigitChars_ten_toDigits]
      exact ⟨congrArg Step.index hindex, (List.cons.inj hrest).2⟩

/-- What is left of a path, with the text of the leaf, begins with a sign that ends a key. -/
theorem endsKey_head (way : List Step) (text : List Char) :
    ∀ c ∈ (way.flatMap Step.text ++ '=' :: text).head?, endsKey c = true := by
  intro c hc
  cases way with
  | nil =>
    obtain rfl : '=' = c := Option.some.inj hc
    rfl
  | cons s rest =>
    cases s with
    | key name =>
      obtain rfl : '.' = c := Option.some.inj hc
      rfl
    | index i =>
      obtain rfl : '[' = c := Option.some.inj hc
      rfl

/-- The first equals sign ends the path, and the path is read step by step. -/
theorem way_inj {text text' : List Char} (h : ∀ name, .key name ∈ way → IsPathKey name)
    (h' : ∀ name, .key name ∈ way' → IsPathKey name)
    (heq : way.flatMap Step.text ++ '=' :: text = way'.flatMap Step.text ++ '=' :: text') : way = way' ∧ text = text' := by
  -- on the first way; each step is cut off by the sign that begins the next one, or by the equals sign
  induction way generalizing way' with
  | nil =>
    cases way' with
    | nil => exact ⟨rfl, (List.cons.inj heq).2⟩
    | cons s' rest' => cases s' <;> exact absurd (List.cons.inj heq).1 (by decide)
  | cons s rest ih =>
    cases way' with
    | nil => cases s <;> exact absurd (List.cons.inj heq).1 (by decide)
    | cons s' rest' =>
      rw [List.flatMap_cons, List.flatMap_cons, List.append_assoc, List.append_assoc] at heq
      obtain ⟨rfl, hrest⟩ := step_inj (fun name hs => h name (by simp [hs])) (fun name hs => h' name (by simp [hs]))
        (endsKey_head _ _) (endsKey_head _ _) heq
      obtain ⟨rfl, htext⟩ := ih (fun name hmem => h name (List.mem_cons_of_mem _ hmem))
        (fun name hmem => h' name (List.mem_cons_of_mem _ hmem)) hrest
      exact ⟨rfl, htext⟩

/-- A line with a point before it, where it does not begin with an item: then it begins as the inside of a path does. -/
def pointed (line : List Char) : List Char := if line.head? = some '[' then line else '.' :: line

/-- The first step of a path lacks the point that it has inside one. -/
theorem pointed_extend {s : Step} (hs : ∀ name, s = .key name → IsPathKey name) (more : List Char) :
    s.extend [] ≠ [] ∧ pointed (s.extend [] ++ more) = s.text ++ more := by
  cases s with
  | key name =>
    obtain ⟨hne, -, hbracket, -⟩ := hs name rfl
    refine ⟨hne, ?_⟩
    change pointed (name.toList ++ more) = '.' :: name.toList ++ more
    unfold pointed
    rw [if_neg, List.cons_append]
    rw [List.head?_append_of_ne_nil _ hne]
    exact fun hhead => hbracket (List.mem_of_head? hhead)
  | index i => exact ⟨List.cons_ne_nil _ _, if_pos rfl⟩

/-- The line of a leaf that is not the whole value tells its way and its text. -/
theorem pointed_line (h : l.IsLegible) (hway : l.way ≠ []) : pointed (l.line []) = l.way.flatMap Step.text ++ '=' :: l.text := by
  obtain ⟨way, text⟩ := l
  obtain ⟨s, rest, rfl⟩ := List.exists_cons_of_ne_nil hway
  obtain ⟨hne, hpointed⟩ := pointed_extend (s := s) (fun name hs => h.keys name (by simp [hs]))
    (rest.flatMap Step.text ++ '=' :: text)
  have hline : Leaf.line [] ⟨s :: rest, text⟩ = s.extend [] ++ (rest.flatMap Step.text ++ '=' :: text) := by
    simp only [Leaf.line, List.foldl_cons, foldl_extend hne]
    rw [if_neg (by simp [hne]), List.append_assoc]
  rw [hline, hpointed, List.flatMap_cons, List.append_assoc]

/-- A leaf is read off its line. -/
theorem line_inj (h : l.IsLegible) (h' : l'.IsLegible) (hway : l.way ≠ []) (hway' : l'.way ≠ []) (heq : l.line [] = l'.line []) :
    l = l' := by
  have hpointed := congrArg pointed heq
  rw [pointed_line h hway, pointed_line h' hway'] at hpointed
  obtain ⟨way, text⟩ := l
  obtain ⟨way', text'⟩ := l'
  obtain ⟨rfl, rfl⟩ := way_inj h.keys h'.keys hpointed
  rfl

/-- The line of a legible leaf is one line. -/
theorem no_break_line (h : l.IsLegible) (hway : l.way ≠ []) : '\n' ∉ l.line [] := by
  have hsteps : '\n' ∉ l.way.flatMap Step.text := by
    intro hmem
    obtain ⟨s, hs, hbreak⟩ := List.mem_flatMap.1 hmem
    cases s with
    | key name =>
      obtain ⟨-, -, -, -, hname⟩ := h.keys name hs
      rcases List.mem_cons.1 hbreak with heq | hmem
      · exact absurd heq (by decide)
      · exact hname hmem
    | index i => simp [Step.text, no_break_toDigits] at hbreak
  have hpointed : '\n' ∉ pointed (l.line []) := by
    rw [pointed_line h hway]
    simp [hsteps, h.text]
  intro hmem
  refine hpointed ?_
  unfold pointed
  split
  · exact hmem
  · exact List.mem_cons_of_mem _ hmem

/-! ## The text of a report -/

/-- No leaf of a list or an object is the whole value. -/
theorem way_ne_nil (h : isNested v = true) : ∀ l ∈ leaves v, l.way ≠ [] := by
  rintro l hl hway
  rcases leaf_or_nested v with hleaf | ⟨items, hne, rfl⟩ | ⟨entries, hne, rfl⟩
  · exact absurd (hleaf.symm.trans h) nofun
  · have hfirst := first_of_array hne hl
    rw [hway] at hfirst
    cases hfirst
  · have hfirst := first_of_object hne hl
    rw [hway] at hfirst
    cases hfirst

/-- Leaves are read off their lines one by one. -/
theorem map_line_inj {ls ls' : List Leaf} (h : ∀ l ∈ ls, l.IsLegible ∧ l.way ≠ []) (h' : ∀ l ∈ ls', l.IsLegible ∧ l.way ≠ [])
    (heq : ls.map (Leaf.line []) = ls'.map (Leaf.line [])) : ls = ls' := by
  induction ls generalizing ls' with
  | nil => exact (List.map_eq_nil_iff.1 heq.symm).symm
  | cons l rest ih =>
    cases ls' with
    | nil => cases heq
    | cons l' rest' =>
      obtain ⟨⟨hl, hway⟩, hrest⟩ := List.forall_mem_cons.1 h
      obtain ⟨⟨hl', hway'⟩, hrest'⟩ := List.forall_mem_cons.1 h'
      obtain ⟨hline, hlines⟩ := List.cons.inj heq
      rw [line_inj hl hl' hway hway' hline, ih hrest hrest' hlines]

/-- The leaves of a legible value are read from its text. -/
theorem leaves_of_text (hv : Legible v) (hw : Legible w) (hnested : isNested v = true) (hnested' : isNested w = true)
    (h : Text.joinWith ['\n'] (textLines [] v) = Text.joinWith ['\n'] (textLines [] w)) : leaves v = leaves w := by
  have hleaves : ∀ {v}, Legible v → isNested v = true → ∀ l ∈ leaves v, l.IsLegible ∧ l.way ≠ [] := by
    intro v hv hnested l hl
    exact ⟨hv.isLegible l hl, way_ne_nil hnested l hl⟩
  have hpieces : ∀ {v}, Legible v → isNested v = true →
      Text.pieces (· == '\n') (Text.joinWith ['\n'] (textLines [] v)) = (leaves v).map (Leaf.line []) := by
    intro v hv hnested
    rw [textLines_eq]
    obtain ⟨l, ls, hcons⟩ := List.exists_cons_of_ne_nil (leaves_ne_nil v)
    rw [hcons, List.map_cons]
    refine Text.pieces_joinWith ?_
    rw [← List.map_cons, ← hcons, List.forall_mem_map]
    intro l hl
    obtain ⟨hlegible, hway⟩ := hleaves hv hnested l hl
    exact no_break_line hlegible hway
  have hlines := congrArg (Text.pieces (· == '\n')) h
  rw [hpieces hv hnested, hpieces hw hnested'] at hlines
  exact map_line_inj (hleaves hv hnested) (hleaves hw hnested') hlines

/-- The plain texts of two legible lists or objects are the same exactly when the two become the same once every leaf is replaced
by its text: they have the same keys, the same lengths, and leaves of the same text in the same places. -/
theorem render_text_eq_iff (hv : Legible v) (hw : Legible w) (hnested : isNested v = true) (hnested' : isNested w = true)
    (colour colour' : Bool) : render .text colour v = render .text colour' w ↔ spelled v.sorted = spelled w.sorted := by
  obtain ⟨hlegible, hdistinct⟩ := hv.sorted
  obtain ⟨hlegible', hdistinct'⟩ := hw.sorted
  constructor
  · intro h
    have htext : text v = text w := String.ofList_inj.1 h
    exact hdistinct.spelled_eq _ hdistinct'
      (leaves_of_text hlegible hlegible' (isNested_sorted hnested) (isNested_sorted hnested') htext)
  · intro h
    have hleaves : leaves v.sorted = leaves w.sorted := by rw [← leaves_spelled v.sorted, h, leaves_spelled]
    change String.ofList (text v) = String.ofList (text w)
    rw [text, text, textLines_eq, textLines_eq, hleaves]

/-- A report with a text that looks like an empty list, and a number. -/
def bracketsReport : Value := .object [("b", .array [.ofInt 1, .object [("c", .string "x=y")]]), ("a", .string "[]")]

/-- A report with an empty list, and a text that looks like the number. -/
def emptyListReport : Value := .object [("a", .array []), ("b", .array [.string "1", .object [("c", .string "x=y")]])]

/-- Two reports that have the same lines: one has an empty list where the other has the text of one, and both have a mark inside a
text. -/
theorem render_text_brackets :
    Legible bracketsReport ∧ Legible emptyListReport ∧ isNested bracketsReport = true ∧ isNested emptyListReport = true ∧
      render .text false bracketsReport = "a=[]\nb[0]=1\nb[1].c=x=y" ∧ render .text true emptyListReport = "a=[]\nb[0]=1\nb[1].c=x=y" ∧
      bracketsReport.sorted ≠ emptyListReport.sorted ∧ spelled bracketsReport.sorted = spelled emptyListReport.sorted := by
  have hinner : Legible (.object [("c", .string "x=y")]) :=
    .object (List.forall_mem_singleton.2 (by decide)) (List.forall_mem_singleton.2 (.string (by decide)))
  have hlegible : Legible bracketsReport :=
    .object (by decide) (List.forall_mem_cons.2
      ⟨.array (List.forall_mem_cons.2 ⟨.number _, List.forall_mem_singleton.2 hinner⟩),
        List.forall_mem_singleton.2 (.string (by decide))⟩)
  have hlegible' : Legible emptyListReport :=
    .object (by decide) (List.forall_mem_cons.2
      ⟨.array nofun, List.forall_mem_singleton.2
        (.array (List.forall_mem_cons.2 ⟨.string (by decide), List.forall_mem_singleton.2 hinner⟩))⟩)
  have htext : render .text false bracketsReport = "a=[]\nb[0]=1\nb[1].c=x=y" := by decide +kernel
  have htext' : render .text true emptyListReport = "a=[]\nb[0]=1\nb[1].c=x=y" := by decide +kernel
  have hcompact : bracketsReport.sorted.compact ≠ emptyListReport.sorted.compact := by decide +kernel
  exact ⟨hlegible, hlegible', rfl, rfl, htext, htext', fun h => hcompact (congrArg Value.compact h),
    (render_text_eq_iff hlegible hlegible' rfl rfl false true).1 (htext.trans htext'.symm)⟩

end RenderCatalog.Report
