import RenderCatalog.Proofs.Json.Entries
import RenderCatalog.Report.Format

/-!
# The leaves of a value

The leaves of a value in order, each with the way to it from the top and its text (`leaves`). They are what is left of a value
when only the texts of its leaves are seen (`leaves_spelled`), and nothing else is lost: when no object has a key twice, the
leaves tell the shape of the value, every key and every length in it (`Distinct.spelled_eq`).
-/

namespace RenderCatalog

/-- A list without anything marked, with something marked behind it or nothing, is told apart from what follows it. -/
theorem append_inj_of_marked {α : Type} {marked : α → Bool} {a a' b b' : List α} (ha : ∀ x ∈ a, marked x = false)
    (ha' : ∀ x ∈ a', marked x = false) (hb : ∀ x ∈ b.head?, marked x = true) (hb' : ∀ x ∈ b'.head?, marked x = true)
    (h : a ++ b = a' ++ b') : a = a' ∧ b = b' := by
  have hcut : ∀ {a b : List α}, (∀ x ∈ a, marked x = false) → (∀ x ∈ b.head?, marked x = true) →
      (a ++ b).takeWhile (!marked ·) = a := by
    intro a b ha hb
    have hnone : b.takeWhile (!marked ·) = [] := by
      cases b with
      | nil => rfl
      | cons x rest => rw [List.takeWhile_cons, hb x rfl]; rfl
    rw [List.takeWhile_append_of_pos fun x hx => by rw [ha x hx]; rfl, hnone, List.append_nil]
  have heq : a = a' := by rw [← hcut ha hb, h, hcut ha' hb']
  subst heq
  exact ⟨rfl, List.append_cancel_left h⟩

namespace Report

open Json (Value)

/-- A step down in a value: to the entry of a key, or to an item. -/
inductive Step where
  | key (name : String)
  | index (i : Nat)
  deriving Repr, DecidableEq

/-- The step is one into an object. -/
def Step.isKey : Step → Bool
  | .key _ => true
  | .index _ => false

/-- A leaf of a value: the way to it from the top, and its text. -/
structure Leaf where
  way : List Step
  text : List Char
  deriving Repr, DecidableEq

/-- The leaf seen from one step further up. -/
def Leaf.under (s : Step) (l : Leaf) : Leaf := { l with way := s :: l.way }

mutual
/-- The leaves of a value in order; an empty list or object is a leaf. -/
def leaves : Value → List Leaf
  | .array (v :: rest) => (leaves v).map (Leaf.under (.index 0)) ++ itemLeaves 1 rest
  | .object ((key, v) :: rest) => (leaves v).map (Leaf.under (.key key)) ++ entryLeaves rest
  | .array [] => [⟨[], leafText (.array [])⟩]
  | .object [] => [⟨[], leafText (.object [])⟩]
  | .null => [⟨[], leafText .null⟩]
  | .bool b => [⟨[], leafText (.bool b)⟩]
  | .number n => [⟨[], leafText (.number n)⟩]
  | .string s => [⟨[], leafText (.string s)⟩]
/-- The leaves of items, counted from `i`. -/
def itemLeaves (i : Nat) : List Value → List Leaf
  | [] => []
  | v :: rest => (leaves v).map (Leaf.under (.index i)) ++ itemLeaves (i + 1) rest
/-- The leaves of entries. -/
def entryLeaves : List (String × Value) → List Leaf
  | [] => []
  | (key, v) :: rest => (leaves v).map (Leaf.under (.key key)) ++ entryLeaves rest
end

mutual
/-- The value with the text of each leaf in place of the leaf. -/
def spelled : Value → Value
  | .array (v :: rest) => .array (spelled v :: spelledItems rest)
  | .object ((key, v) :: rest) => .object ((key, spelled v) :: spelledEntries rest)
  | .array [] => .string (String.ofList (leafText (.array [])))
  | .object [] => .string (String.ofList (leafText (.object [])))
  | .null => .string (String.ofList (leafText .null))
  | .bool b => .string (String.ofList (leafText (.bool b)))
  | .number n => .string (String.ofList (leafText (.number n)))
  | .string s => .string (String.ofList (leafText (.string s)))
/-- The items with the texts of their leaves. -/
def spelledItems : List Value → List Value
  | [] => []
  | v :: rest => spelled v :: spelledItems rest
/-- The entries with the texts of their leaves. -/
def spelledEntries : List (String × Value) → List (String × Value)
  | [] => []
  | (key, v) :: rest => (key, spelled v) :: spelledEntries rest
end

variable {v w : Value} {items items' : List Value} {entries entries' : List (String × Value)} {i : Nat} {l : Leaf} {s : Step}

/-! ## Kinds of value -/

/-- A value is a leaf, a list with items or an object with entries. -/
theorem leaf_or_nested (v : Value) : isNested v = false ∨ (∃ items, items ≠ [] ∧ v = .array items) ∨
    ∃ entries, entries ≠ [] ∧ v = .object entries := by
  cases v with
  | array items =>
    cases items with
    | nil => exact Or.inl rfl
    | cons v rest => exact Or.inr (Or.inl ⟨_, List.cons_ne_nil _ _, rfl⟩)
  | object entries =>
    cases entries with
    | nil => exact Or.inl rfl
    | cons e rest => exact Or.inr (Or.inr ⟨_, List.cons_ne_nil _ _, rfl⟩)
  | null => exact Or.inl rfl
  | bool b => exact Or.inl rfl
  | number n => exact Or.inl rfl
  | string s => exact Or.inl rfl

/-- A leaf is its only leaf. -/
theorem leaf_eq (h : isNested v = false) :
    leaves v = [⟨[], leafText v⟩] ∧ spelled v = .string (String.ofList (leafText v)) := by
  cases v with
  | array items =>
    cases items with
    | nil => exact ⟨rfl, rfl⟩
    | cons v rest => cases h
  | object entries =>
    cases entries with
    | nil => exact ⟨rfl, rfl⟩
    | cons e rest => cases h
  | null => exact ⟨rfl, rfl⟩
  | bool b => exact ⟨rfl, rfl⟩
  | number n => exact ⟨rfl, rfl⟩
  | string s => exact ⟨rfl, rfl⟩

/-- A list with items is no leaf. -/
theorem isNested_array (h : items ≠ []) : isNested (.array items) = true := by
  cases items with
  | nil => exact absurd rfl h
  | cons v rest => rfl

theorem isNested_object (h : entries ≠ []) : isNested (.object entries) = true := by
  cases entries with
  | nil => exact absurd rfl h
  | cons e rest => rfl

/-- The leaves of a list with items are those of its items. -/
theorem leaves_array (h : items ≠ []) : leaves (.array items) = itemLeaves 0 items := by
  cases items with
  | nil => exact absurd rfl h
  | cons v rest => rfl

theorem leaves_object (h : entries ≠ []) : leaves (.object entries) = entryLeaves entries := by
  cases entries with
  | nil => exact absurd rfl h
  | cons e rest => rfl

/-- The leaves of a list with items are replaced item by item. -/
theorem spelled_array (h : items ≠ []) : spelled (.array items) = .array (spelledItems items) := by
  cases items with
  | nil => exact absurd rfl h
  | cons v rest => rfl

theorem spelled_object (h : entries ≠ []) : spelled (.object entries) = .object (spelledEntries entries) := by
  cases entries with
  | nil => exact absurd rfl h
  | cons e rest => rfl

/-! ## Where leaves are -/

/-- Every leaf of items is a leaf of one of them. -/
theorem mem_itemLeaves (h : l ∈ itemLeaves i items) :
    ∃ v ∈ items, ∃ j, i ≤ j ∧ ∃ l' ∈ leaves v, l = l'.under (.index j) := by
  induction items generalizing i with
  | nil => cases h
  | cons v rest ih =>
    rw [itemLeaves, List.mem_append, List.mem_map] at h
    rcases h with ⟨l', hl', rfl⟩ | h
    · exact ⟨v, List.mem_cons_self, i, le_refl i, l', hl', rfl⟩
    · obtain ⟨v', hv', j, hj, hl⟩ := ih h
      exact ⟨v', List.mem_cons_of_mem v hv', j, by omega, hl⟩

/-- Every leaf of entries is a leaf of one of them. -/
theorem mem_entryLeaves (h : l ∈ entryLeaves entries) : ∃ e ∈ entries, ∃ l' ∈ leaves e.2, l = l'.under (.key e.1) := by
  induction entries with
  | nil => cases h
  | cons e rest ih =>
    rw [entryLeaves, List.mem_append, List.mem_map] at h
    rcases h with ⟨l', hl', rfl⟩ | h
    · exact ⟨e, List.mem_cons_self, l', hl', rfl⟩
    · obtain ⟨e', he', hl⟩ := ih h
      exact ⟨e', List.mem_cons_of_mem e he', hl⟩

/-- Every value has a leaf. -/
theorem leaves_ne_nil : ∀ v : Value, leaves v ≠ []
  | .array (v :: rest) => by simp [leaves, leaves_ne_nil v]
  | .object ((key, v) :: rest) => by simp [leaves, leaves_ne_nil v]
  | .array [] | .object [] | .null | .bool _ | .number _ | .string _ => List.cons_ne_nil _ _

/-- No leaf of later items is under the index of an earlier one. -/
theorem head?_itemLeaves (h : l ∈ itemLeaves (i + 1) items) : l.way.head? ≠ some (.index i) := by
  obtain ⟨v, -, j, hj, l', -, rfl⟩ := mem_itemLeaves h
  simp only [Leaf.under, List.head?_cons, ne_eq, Option.some.injEq, Step.index.injEq]
  omega

/-- No leaf of entries is under a key that they do not have. -/
theorem head?_entryLeaves {key : String} (hkey : key ∉ entries.map (·.1)) (h : l ∈ entryLeaves entries) :
    l.way.head? ≠ some (.key key) := by
  obtain ⟨e, he, l', -, rfl⟩ := mem_entryLeaves h
  simp only [Leaf.under, List.head?_cons, ne_eq, Option.some.injEq, Step.key.injEq]
  rintro rfl
  exact hkey (List.mem_map_of_mem he)

/-- The leaves under one step are told apart from those behind them. -/
theorem under_append_inj {ls ls' rest rest' : List Leaf} (hrest : ∀ l ∈ rest, l.way.head? ≠ some s)
    (hrest' : ∀ l ∈ rest', l.way.head? ≠ some s)
    (h : ls.map (Leaf.under s) ++ rest = ls'.map (Leaf.under s) ++ rest') : ls = ls' ∧ rest = rest' := by
  have hunder : ∀ ls : List Leaf, ∀ l ∈ ls.map (Leaf.under s), decide (l.way.head? ≠ some s) = false := by
    intro ls l hl
    obtain ⟨l', -, rfl⟩ := List.mem_map.1 hl
    simp [Leaf.under]
  have hhead : ∀ {rest : List Leaf}, (∀ l ∈ rest, l.way.head? ≠ some s) →
      ∀ l ∈ rest.head?, decide (l.way.head? ≠ some s) = true := by
    intro rest hrest l hl
    exact decide_eq_true (hrest l (List.mem_of_head? hl))
  obtain ⟨hmap, hrest⟩ := append_inj_of_marked (hunder ls) (hunder ls') (hhead hrest) (hhead hrest') h
  refine ⟨List.map_injective_iff.2 ?_ hmap, hrest⟩
  rintro ⟨way, text⟩ ⟨way', text'⟩ heq
  simpa [Leaf.under] using heq

/-! ## What leaves tell -/

/-- No object in the value has a key twice. -/
inductive Distinct : Value → Prop where
  | leaf {v : Value} (h : isNested v = false) : Distinct v
  | array {items : List Value} (h : ∀ v ∈ items, Distinct v) : Distinct (.array items)
  | object {entries : List (String × Value)} (hkeys : (entries.map (·.1)).Nodup) (h : ∀ e ∈ entries, Distinct e.2) :
    Distinct (.object entries)

/-- No item of a list has an object with a key twice when the list has none. -/
theorem Distinct.of_array (h : Distinct (.array items)) (hne : items ≠ []) : ∀ v ∈ items, Distinct v := by
  cases h with
  | leaf hleaf => exact absurd (hleaf.symm.trans (isNested_array hne)) nofun
  | array h => exact h

/-- An object has no key twice, and none of its values has an object that does. -/
theorem Distinct.of_object (h : Distinct (.object entries)) (hne : entries ≠ []) :
    (entries.map (·.1)).Nodup ∧ ∀ e ∈ entries, Distinct e.2 := by
  cases h with
  | leaf hleaf => exact absurd (hleaf.symm.trans (isNested_object hne)) nofun
  | object hkeys h => exact ⟨hkeys, h⟩

/-- Items with the same leaves agree but for what the leaves were, when this holds of each. -/
theorem spelledItems_eq (h : ∀ v ∈ items, ∀ w, Distinct w → leaves v = leaves w → spelled v = spelled w)
    (hdistinct : ∀ w ∈ items', Distinct w) (heq : itemLeaves i items = itemLeaves i items') :
    spelledItems items = spelledItems items' := by
  induction items generalizing i items' with
  | nil =>
    cases items' with
    | nil => rfl
    | cons w rest' => simp [itemLeaves, leaves_ne_nil] at heq
  | cons v rest ih =>
    cases items' with
    | nil => simp [itemLeaves, leaves_ne_nil] at heq
    | cons w rest' =>
      obtain ⟨hv, hrest⟩ := List.forall_mem_cons.1 h
      obtain ⟨hw, hrest'⟩ := List.forall_mem_cons.1 hdistinct
      rw [itemLeaves, itemLeaves] at heq
      obtain ⟨hfirst, hbehind⟩ := under_append_inj (fun _ => head?_itemLeaves) (fun _ => head?_itemLeaves) heq
      rw [spelledItems, spelledItems, hv w hw hfirst, ih hrest hrest' hbehind]

/-- Entries with the same leaves have the same keys, and agree as items do. -/
theorem spelledEntries_eq (h : ∀ e ∈ entries, ∀ w, Distinct w → leaves e.2 = leaves w → spelled e.2 = spelled w)
    (hkeys : (entries.map (·.1)).Nodup) (hkeys' : (entries'.map (·.1)).Nodup) (hdistinct : ∀ e ∈ entries', Distinct e.2)
    (heq : entryLeaves entries = entryLeaves entries') : spelledEntries entries = spelledEntries entries' := by
  induction entries generalizing entries' with
  | nil =>
    cases entries' with
    | nil => rfl
    | cons e rest' => simp [entryLeaves, leaves_ne_nil] at heq
  | cons e rest ih =>
    cases entries' with
    | nil => simp [entryLeaves, leaves_ne_nil] at heq
    | cons e' rest' =>
      obtain ⟨key, v⟩ := e
      obtain ⟨key', w⟩ := e'
      obtain ⟨hv, hrest⟩ := List.forall_mem_cons.1 h
      obtain ⟨hw, hrest'⟩ := List.forall_mem_cons.1 hdistinct
      obtain ⟨hkey, hnodup⟩ := List.nodup_cons.1 hkeys
      obtain ⟨hkey', hnodup'⟩ := List.nodup_cons.1 hkeys'
      rw [entryLeaves, entryLeaves] at heq
      obtain rfl : key = key' := by
        -- The first leaf of each side is the first one of its first entry.
        obtain ⟨l, ls, hl⟩ := List.exists_cons_of_ne_nil (leaves_ne_nil v)
        obtain ⟨l', ls', hl'⟩ := List.exists_cons_of_ne_nil (leaves_ne_nil w)
        rw [hl, hl'] at heq
        have hway := congrArg Leaf.way (List.cons.inj heq).1
        exact Step.key.inj (List.cons.inj hway).1
      obtain ⟨hfirst, hbehind⟩ := under_append_inj (fun _ => head?_entryLeaves hkey) (fun _ => head?_entryLeaves hkey') heq
      rw [spelledEntries, spelledEntries, hv w hw hfirst, ih hrest hnodup hnodup' hrest' hbehind]

/-- The way to a leaf that is the whole value has no step. -/
theorem first_of_leaf (h : isNested v = false) (hl : l ∈ leaves v) : l.way.head?.map Step.isKey = none := by
  rw [(leaf_eq h).1, List.mem_singleton] at hl
  rw [hl]
  rfl

/-- The way to a leaf of a list starts with an index. -/
theorem first_of_array (h : items ≠ []) (hl : l ∈ leaves (.array items)) : l.way.head?.map Step.isKey = some false := by
  rw [leaves_array h] at hl
  obtain ⟨v, -, j, -, l', -, rfl⟩ := mem_itemLeaves hl
  rfl

theorem first_of_object (h : entries ≠ []) (hl : l ∈ leaves (.object entries)) : l.way.head?.map Step.isKey = some true := by
  rw [leaves_object h] at hl
  obtain ⟨e, -, l', -, rfl⟩ := mem_entryLeaves hl
  rfl

/-- Values with the same leaves are both leaves, both lists or both objects: the first steps of the leaves tell. -/
theorem alike_of_leaves (h : leaves v = leaves w) : (isNested v = false ∧ isNested w = false) ∨
    (∃ items items', v = .array items ∧ w = .array items' ∧ items ≠ [] ∧ items' ≠ []) ∨
    ∃ entries entries', v = .object entries ∧ w = .object entries' ∧ entries ≠ [] ∧ entries' ≠ [] := by
  obtain ⟨l, hl⟩ := List.exists_mem_of_ne_nil _ (leaves_ne_nil v)
  have hl' : l ∈ leaves w := h ▸ hl
  rcases leaf_or_nested v with hv | ⟨items, hne, rfl⟩ | ⟨entries, hne, rfl⟩
  · have hfirst := first_of_leaf hv hl
    rcases leaf_or_nested w with hw | ⟨items', hne', rfl⟩ | ⟨entries', hne', rfl⟩
    · exact Or.inl ⟨hv, hw⟩
    · exact absurd (hfirst.symm.trans (first_of_array hne' hl')) nofun
    · exact absurd (hfirst.symm.trans (first_of_object hne' hl')) nofun
  · have hfirst := first_of_array hne hl
    rcases leaf_or_nested w with hw | ⟨items', hne', rfl⟩ | ⟨entries', hne', rfl⟩
    · exact absurd (hfirst.symm.trans (first_of_leaf hw hl')) nofun
    · exact Or.inr (Or.inl ⟨items, items', rfl, rfl, hne, hne'⟩)
    · exact absurd (hfirst.symm.trans (first_of_object hne' hl')) nofun
  · have hfirst := first_of_object hne hl
    rcases leaf_or_nested w with hw | ⟨items', hne', rfl⟩ | ⟨entries', hne', rfl⟩
    · exact absurd (hfirst.symm.trans (first_of_leaf hw hl')) nofun
    · exact absurd (hfirst.symm.trans (first_of_array hne' hl')) nofun
    · exact Or.inr (Or.inr ⟨entries, entries', rfl, rfl, hne, hne'⟩)

/-- Two leaves with the same text agree. -/
theorem spelled_eq_of_leaf (hv : isNested v = false) (hw : isNested w = false) (h : leaves v = leaves w) :
    spelled v = spelled w := by
  obtain ⟨hleaves, hspelled⟩ := leaf_eq hv
  obtain ⟨hleaves', hspelled'⟩ := leaf_eq hw
  rw [hleaves, hleaves'] at h
  have htext : leafText v = leafText w := congrArg Leaf.text (List.cons.inj h).1
  rw [hspelled, hspelled', htext]

/-- Where no key is repeated, values with the same leaves are the same but for what their leaves are. -/
theorem Distinct.spelled_eq (hv : Distinct v) : ∀ w, Distinct w → leaves v = leaves w → spelled v = spelled w := by
  -- on the first value; what kind of value the second one is, the first steps to its leaves tell
  induction hv with
  | @leaf v hleaf =>
    intro w _ heq
    rcases alike_of_leaves heq with ⟨-, hleaf'⟩ | ⟨items, -, rfl, -, hne, -⟩ | ⟨entries, -, rfl, -, hne, -⟩
    · exact spelled_eq_of_leaf hleaf hleaf' heq
    · exact absurd (hleaf.symm.trans (isNested_array hne)) nofun
    · exact absurd (hleaf.symm.trans (isNested_object hne)) nofun
  | @array items h ih =>
    intro w hw heq
    rcases alike_of_leaves heq with ⟨hleaf, hleaf'⟩ | ⟨_, items', hitems, rfl, hne, hne'⟩ | ⟨_, _, hentries, -⟩
    · exact spelled_eq_of_leaf hleaf hleaf' heq
    · obtain rfl := Value.array.inj hitems
      rw [leaves_array hne, leaves_array hne'] at heq
      rw [spelled_array hne, spelled_array hne', spelledItems_eq ih (hw.of_array hne') heq]
    · cases hentries
  | @object entries hkeys h ih =>
    intro w hw heq
    rcases alike_of_leaves heq with ⟨hleaf, hleaf'⟩ | ⟨_, _, hitems, -⟩ | ⟨_, entries', hentries, rfl, hne, hne'⟩
    · exact spelled_eq_of_leaf hleaf hleaf' heq
    · cases hitems
    · obtain rfl := Value.object.inj hentries
      obtain ⟨hkeys', hdistinct⟩ := hw.of_object hne'
      rw [leaves_object hne, leaves_object hne'] at heq
      rw [spelled_object hne, spelled_object hne', spelledEntries_eq ih hkeys hkeys' hdistinct heq]

mutual
/-- The leaves are all that is left of a value when each leaf is replaced by its text. -/
theorem leaves_spelled : ∀ v : Value, leaves (spelled v) = leaves v
  | .array (v :: rest) => by rw [spelled, leaves, leaves, leaves_spelled v, itemLeaves_spelled rest]
  | .object ((key, v) :: rest) => by rw [spelled, leaves, leaves, leaves_spelled v, entryLeaves_spelled rest]
  | .array [] | .object [] | .null | .bool _ | .number _ | .string _ => by
    simp only [spelled, leaves, leafText, String.toList_ofList]

/-- The leaves of items stay when each of them is replaced by its text. -/
theorem itemLeaves_spelled : ∀ (items : List Value) (i : Nat), itemLeaves i (spelledItems items) = itemLeaves i items
  | [], _ => rfl
  | v :: rest, i => by rw [spelledItems, itemLeaves, itemLeaves, leaves_spelled v, itemLeaves_spelled rest]

/-- The leaves of entries stay when each of them is replaced by its text. -/
theorem entryLeaves_spelled : ∀ entries : List (String × Value), entryLeaves (spelledEntries entries) = entryLeaves entries
  | [] => rfl
  | (key, v) :: rest => by rw [spelledEntries, entryLeaves, entryLeaves, leaves_spelled v, entryLeaves_spelled rest]
end

end Report

end RenderCatalog
