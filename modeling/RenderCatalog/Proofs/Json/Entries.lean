import Mathlib
import RenderCatalog.Json.Value

/-!
# Tables of entries

A table lists its entries by strictly rising keys (`Rising`), so each key comes once. Putting in an entry keeps that order, an
entry whose key is beyond all others goes to the end, and `sortEntries` establishes the order from any list: of the entries with
one key it keeps the last (`lookup_sortEntries`), and a list that rises stays as it is.
-/

namespace RenderCatalog.Json

variable {α : Type}

/-- The keys rise strictly. -/
def Rising (entries : List (String × α)) : Prop := entries.Pairwise (·.1 < ·.1)

@[simp] theorem rising_nil : Rising ([] : List (String × α)) := List.Pairwise.nil

/-- Entries rise when the first one is before all others and these rise. -/
theorem rising_cons {e : String × α} {rest : List (String × α)} :
    Rising (e :: rest) ↔ (∀ x ∈ rest, e.1 < x.1) ∧ Rising rest :=
  List.pairwise_cons

/-- Only the keys matter. -/
theorem rising_map {β : Type} (f : α → β) (entries : List (String × α)) :
    Rising (entries.map fun e => (e.1, f e.2)) ↔ Rising entries :=
  List.pairwise_map

/-- Every entry of a list with one more put in is the new one or was there. -/
theorem mem_insertEntry {key : String} {a : α} {entries : List (String × α)} {e : String × α}
    (h : e ∈ insertEntry key a entries) : e = (key, a) ∨ e ∈ entries := by
  induction entries with
  | nil => exact Or.inl (by simpa [insertEntry] using h)
  | cons x rest ih =>
    simp only [insertEntry] at h
    split at h
    · simpa using h
    · split at h
      · rcases List.mem_cons.1 h with h | h
        · exact Or.inl h
        · exact Or.inr (List.mem_cons_of_mem _ h)
      · rcases List.mem_cons.1 h with h | h
        · exact Or.inr (by simp [h])
        · rcases ih h with h | h
          · exact Or.inl h
          · exact Or.inr (List.mem_cons_of_mem _ h)

/-- Putting in an entry keeps the keys rising. -/
theorem rising_insertEntry {key : String} {a : α} {entries : List (String × α)} (h : Rising entries) :
    Rising (insertEntry key a entries) := by
  induction entries with
  | nil => simp [insertEntry, Rising]
  | cons x rest ih =>
    obtain ⟨hx, hrest⟩ := rising_cons.1 h
    simp only [insertEntry]
    split
    · rename_i hlt
      refine rising_cons.2 ⟨fun y hy => ?_, h⟩
      rcases List.mem_cons.1 hy with rfl | hy
      · exact hlt
      · exact hlt.trans (hx y hy)
    · rename_i hlt
      split
      · rename_i heq
        subst heq
        exact rising_cons.2 ⟨hx, hrest⟩
      · rename_i hne
        have hgt : x.1 < key := lt_of_le_of_ne (not_lt.1 hlt) (Ne.symm hne)
        refine rising_cons.2 ⟨fun y hy => ?_, ih hrest⟩
        rcases mem_insertEntry hy with rfl | hy
        · exact hgt
        · exact hx y hy

/-- An entry whose key is beyond all others goes to the end. -/
theorem insertEntry_of_forall_lt {key : String} {a : α} {entries : List (String × α)} (h : ∀ e ∈ entries, e.1 < key) :
    insertEntry key a entries = entries ++ [(key, a)] := by
  induction entries with
  | nil => rfl
  | cons x rest ih =>
    have hx : x.1 < key := h x (by simp)
    simp only [insertEntry, if_neg (not_lt.2 hx.le), if_neg hx.ne', List.cons_append]
    rw [ih fun e he => h e (List.mem_cons_of_mem _ he)]

/-- Every sorted entry was there. -/
theorem mem_sortEntries {entries : List (String × α)} {e : String × α} (h : e ∈ sortEntries entries) : e ∈ entries := by
  have key : ∀ (l sorted : List (String × α)),
      e ∈ l.foldl (fun sorted e => insertEntry e.1 e.2 sorted) sorted → e ∈ sorted ∨ e ∈ l := by
    intro l
    induction l with
    | nil => intro sorted h; exact Or.inl h
    | cons x rest ih =>
      intro sorted h
      rcases ih _ h with h | h
      · rcases mem_insertEntry h with rfl | h
        · exact Or.inr (by simp)
        · exact Or.inl h
      · exact Or.inr (List.mem_cons_of_mem _ h)
  rcases key entries [] h with h | h
  · simp at h
  · exact h

/-- Sorted entries rise. -/
theorem rising_sortEntries (entries : List (String × α)) : Rising (sortEntries entries) := by
  have key : ∀ (l sorted : List (String × α)), Rising sorted →
      Rising (l.foldl (fun sorted e => insertEntry e.1 e.2 sorted) sorted) := by
    intro l
    induction l with
    | nil => intro sorted h; exact h
    | cons x rest ih => intro sorted h; exact ih _ (rising_insertEntry h)
  exact key entries [] rising_nil

/-! ## Looking up -/

/-- A key is looked up in vain exactly when no entry has it. -/
theorem lookup_isNone_iff (entries : List (String × α)) (name : String) :
    (entries.lookup name).isNone = true ↔ name ∉ entries.map (·.1) := by
  rw [Option.isNone_iff_eq_none, List.lookup_eq_none_iff, List.mem_map]
  constructor
  · rintro h ⟨e, he, rfl⟩
    exact absurd (h e he) (by simp)
  · intro h e he
    rw [bne_iff_ne]
    rintro rfl
    exact h ⟨e, he, rfl⟩

/-- What a look-up finds is an entry. -/
theorem mem_of_lookup_eq_some {κ : Type} [BEq κ] [LawfulBEq κ] {entries : List (κ × α)} {name : κ} {a : α}
    (h : entries.lookup name = some a) : (name, a) ∈ entries := by
  obtain ⟨front, back, rfl, -⟩ := List.lookup_eq_some_iff.1 h
  simp

/-- Of entries with different keys each one is found under its key. -/
theorem lookup_of_mem {κ : Type} [BEq κ] [LawfulBEq κ] {entries : List (κ × α)} (hkeys : (entries.map (·.1)).Nodup) {name : κ}
    {a : α} (h : (name, a) ∈ entries) : entries.lookup name = some a := by
  obtain ⟨front, back, rfl⟩ := List.append_of_mem h
  refine List.lookup_eq_some_iff.2 ⟨front, back, rfl, fun x hx => ?_⟩
  rw [bne_iff_ne]
  rw [List.map_append, List.nodup_append] at hkeys
  exact (hkeys.2.2 x.1 (List.mem_map_of_mem hx) name (by simp)).symm

/-- An entry that was put in is found under its key, and the other keys are looked up as before. -/
theorem lookup_insertEntry (key : String) (a : α) (entries : List (String × α)) (name : String) :
    (insertEntry key a entries).lookup name = if name = key then some a else entries.lookup name := by
  induction entries with
  | nil =>
    by_cases h : name = key
    · simp [insertEntry, h]
    · rw [insertEntry, List.lookup_cons, beq_false_of_ne h, if_neg h]
  | cons x rest ih =>
    simp only [insertEntry]
    split
    · by_cases h : name = key
      · simp [h]
      · rw [List.lookup_cons, beq_false_of_ne h, if_neg h]
    · split
      · rename_i hsame
        by_cases h : name = key
        · simp [h]
        · rw [List.lookup_cons, beq_false_of_ne h, if_neg h, List.lookup_cons, ← hsame, beq_false_of_ne h]
      · rename_i hne
        rw [List.lookup_cons, List.lookup_cons, ih]
        by_cases h : name = x.1
        · have hkey : name ≠ key := fun heq => hne (heq.symm.trans h)
          simp only [if_neg hkey]
        · rw [beq_false_of_ne h]

/-- Of the entries with one key the last one stays. -/
theorem lookup_sortEntries (entries : List (String × α)) (name : String) :
    (sortEntries entries).lookup name = entries.reverse.lookup name := by
  have key : ∀ l sorted : List (String × α),
      (l.foldl (fun sorted e => insertEntry e.1 e.2 sorted) sorted).lookup name = (l.reverse ++ sorted).lookup name := by
    intro l
    induction l with
    | nil => exact fun sorted => rfl
    | cons x rest ih =>
      intro sorted
      rw [List.foldl_cons, ih, List.reverse_cons, List.append_assoc, List.singleton_append, List.lookup_append,
        List.lookup_append, lookup_insertEntry, List.lookup_cons]
      by_cases h : name = x.1
      · simp [h]
      · rw [if_neg h, beq_false_of_ne h]
  rw [sortEntries, key, List.append_nil]

/-- Sorting keeps the keys that there are. -/
theorem mem_keys_sortEntries (entries : List (String × α)) (name : String) :
    name ∈ (sortEntries entries).map (·.1) ↔ name ∈ entries.map (·.1) := by
  rw [← not_iff_not, ← lookup_isNone_iff, lookup_sortEntries, lookup_isNone_iff, List.map_reverse, List.mem_reverse]

/-- Entries whose keys rise have each key once. -/
theorem Rising.nodup_keys {entries : List (String × α)} (h : Rising entries) : (entries.map (·.1)).Nodup :=
  List.pairwise_map.2 (h.imp fun hlt => hlt.ne)

/-- Sorting entries whose keys differ gives the same keys. -/
theorem keys_sortEntries_perm {entries : List (String × α)} (h : (entries.map (·.1)).Nodup) :
    ((sortEntries entries).map (·.1)).Perm (entries.map (·.1)) :=
  (List.perm_ext_iff_of_nodup (rising_sortEntries entries).nodup_keys h).2 (mem_keys_sortEntries entries)

/-- Entries whose keys rise are sorted. -/
theorem sortEntries_of_rising {entries : List (String × α)} (h : Rising entries) : sortEntries entries = entries := by
  have key : ∀ l sorted : List (String × α), Rising (sorted ++ l) →
      l.foldl (fun sorted e => insertEntry e.1 e.2 sorted) sorted = sorted ++ l := by
    intro l
    induction l with
    | nil => exact fun sorted _ => (List.append_nil sorted).symm
    | cons x rest ih =>
      intro sorted hrising
      have hlast : ∀ e ∈ sorted, e.1 < x.1 := fun e he =>
        (List.pairwise_append.1 hrising).2.2 e he x List.mem_cons_self
      rw [List.foldl_cons, insertEntry_of_forall_lt hlast, ih, List.append_assoc, List.singleton_append]
      rwa [List.append_assoc, List.singleton_append]
  exact key entries [] h

/-! ## Values -/

/-- Items are sorted one by one, and stay where they are. -/
theorem sortedItems_eq (items : List Value) : sortedItems items = items.map Value.sorted := by
  induction items with
  | nil => rfl
  | cons v rest ih => rw [sortedItems, ih, List.map_cons]

/-- The values of entries are sorted one by one. -/
theorem sortedEntries_eq (entries : List (String × Value)) : sortedEntries entries = entries.map fun e => (e.1, e.2.sorted) := by
  induction entries with
  | nil => rfl
  | cons e rest ih => rw [sortedEntries, ih, List.map_cons]

end RenderCatalog.Json
