import RenderCatalog.Proofs.Json.Entries
import RenderCatalog.Json.Reader

/-!
# Canonical values

A value is `Canonical` for a shape when it is written as that shape is written by the library: labels as strings, tables with
rising keys, records as objects that list the fields that are present in the order of the layout. Both readers of a shape end
in such values. The statements about them hold where every field has a shape of its own (`Shape.Plain`) and the fields of a
record have different keys; `Records.Proper` gathers this.
-/

namespace RenderCatalog.Json

variable {ρ : Type}

/-- The shape asks for something in particular. -/
def Shape.Plain : Shape ρ → Prop
  | .list item => item.Plain
  | .table item => item.Plain
  | .any => False
  | _ => True

/-- Layouts whose fields have different keys and shapes of their own. -/
structure Records.Proper (ρ : Type) [Records ρ] : Prop where
  plain : ∀ r : ρ, ∀ f ∈ (Records.layout r).fields, f.shape.Plain
  distinct : ∀ r : ρ, ((Records.layout r).fields.map (·.key)).Nodup

/-- Entries that list fields in their order, each with a value that `p` accepts for its shape; only fields that need not be
there are left out. -/
inductive Listed (p : Shape ρ → Value → Prop) : List (RecordField ρ) → List (String × Value) → Prop where
  | nil : Listed p [] []
  | present {f : RecordField ρ} {fields : List (RecordField ρ)} {v : Value} {entries : List (String × Value)}
      (value : p f.shape v) (rest : Listed p fields entries) : Listed p (f :: fields) ((f.key, v) :: entries)
  | absent {f : RecordField ρ} {fields : List (RecordField ρ)} {entries : List (String × Value)}
      (dispensable : f.presence ≠ .required) (rest : Listed p fields entries) : Listed p (f :: fields) entries

/-- The value is written as values of the shape are written. -/
inductive Canonical [Records ρ] : Shape ρ → Value → Prop where
  | text (s : String) : Canonical .text (.string s)
  | path (s : String) : Canonical .path (.string s)
  | flag (b : Bool) : Canonical .flag (.bool b)
  | integer {n : Int} (fits : fitsInteger n = true) : Canonical .integer (.number (.int n))
  | label {names : List String} {s : String} (known : s ∈ names) : Canonical (.label names) (.string s)
  | list {item : Shape ρ} {items : List Value} (each : ∀ v ∈ items, Canonical item v) :
      Canonical (.list item) (.array items)
  | table {item : Shape ρ} {entries : List (String × Value)} (rising : Rising entries)
      (each : ∀ e ∈ entries, Canonical item e.2) : Canonical (.table item) (.object entries)
  | record {r : ρ} {entries : List (String × Value)} (fields : Listed Canonical (Records.layout r).fields entries) :
      Canonical (.record r) (.object entries)

/-! ## Entries of records -/

namespace Listed

variable {p q : Shape ρ → Value → Prop} {fields : List (RecordField ρ)} {entries : List (String × Value)}

/-- Every entry belongs to a field, with a value that is accepted for it. -/
theorem exists_field (h : Listed p fields entries) : ∀ e ∈ entries, ∃ f ∈ fields, f.key = e.1 ∧ p f.shape e.2 := by
  induction h with
  | nil => intro e he; simp at he
  | @present f fields v entries value _ ih =>
    intro e he
    rcases List.mem_cons.1 he with rfl | he
    · exact ⟨f, by simp, rfl, value⟩
    · obtain ⟨g, hg, hkey, hp⟩ := ih e he
      exact ⟨g, List.mem_cons_of_mem _ hg, hkey, hp⟩
  | absent _ _ ih =>
    intro e he
    obtain ⟨g, hg, hkey, hp⟩ := ih e he
    exact ⟨g, List.mem_cons_of_mem _ hg, hkey, hp⟩

/-- What the values of entries have in common may be asked of them. -/
theorem imp_of_mem (h : Listed p fields entries) (hq : ∀ s, ∀ e ∈ entries, p s e.2 → q s e.2) :
    Listed q fields entries := by
  induction h with
  | nil => exact .nil
  | @present f fields v entries value _ ih =>
    exact .present (hq f.shape (f.key, v) (by simp) value) (ih fun s e he => hq s e (List.mem_cons_of_mem _ he))
  | absent dispensable _ ih => exact .absent dispensable (ih hq)

/-- The keys come in the order of the fields. -/
theorem keys_sublist (h : Listed p fields entries) : List.Sublist (entries.map (·.1)) (fields.map (·.key)) := by
  induction h with
  | nil => exact .slnil
  | present _ _ ih => exact ih.cons_cons _
  | absent _ _ ih => exact ih.cons _

/-- A field that has to be there has an entry. -/
theorem lookup_isSome (h : Listed p fields entries) {f : RecordField ρ} (hf : f ∈ fields) (hr : f.presence = .required) :
    (entries.lookup f.key).isSome = true := by
  induction h with
  | nil => simp at hf
  | @present g fields v entries _ _ ih =>
    rcases List.mem_cons.1 hf with rfl | hf
    · simp
    · have := ih hf
      rw [List.lookup_cons]
      split
      · rfl
      · exact this
  | absent dispensable _ ih =>
    rcases List.mem_cons.1 hf with rfl | hf
    · exact absurd hr dispensable
    · exact ih hf

/-- The entries are what looking up the fields in them gives, in the order of the fields. -/
theorem filterMap_lookup (h : Listed p fields entries) (hd : (fields.map (·.key)).Nodup) :
    (fields.filterMap fun f => (entries.lookup f.key).map fun v => (f.key, v)) = entries := by
  induction h with
  | nil => rfl
  | @present f fields v entries _ _ ih =>
    obtain ⟨hf, hd⟩ := List.nodup_cons.1 hd
    have hrest : (fields.filterMap fun g => (((f.key, v) :: entries).lookup g.key).map fun w => (g.key, w)) =
        fields.filterMap fun g => (entries.lookup g.key).map fun w => (g.key, w) := by
      refine List.filterMap_congr fun g hg => ?_
      have hne : g.key ≠ f.key := fun h' => hf (List.mem_map.2 ⟨g, hg, h'⟩)
      rw [List.lookup_cons, beq_eq_false_iff_ne.2 hne]
    rw [List.filterMap_cons, List.lookup_cons_self]
    simp only [Option.map_some]
    rw [hrest, ih hd]
  | @absent f fields entries _ rest ih =>
    obtain ⟨hf, hd⟩ := List.nodup_cons.1 hd
    have hnone : entries.lookup f.key = none := by
      rw [List.lookup_eq_none_iff]
      intro e he
      rw [bne_iff_ne]
      intro h'
      obtain ⟨g, hg, hkey, -⟩ := rest.exists_field e he
      exact hf (List.mem_map.2 ⟨g, hg, hkey.trans h'.symm⟩)
    rw [List.filterMap_cons, hnone]
    exact ih hd

end Listed

/-- The field of a key, where keys differ. -/
theorem Layout.field?_eq_some {l : Layout ρ} (hd : (l.fields.map (·.key)).Nodup) {f : RecordField ρ} (hf : f ∈ l.fields) :
    l.field? f.key = some f := by
  unfold Layout.field?
  induction hl : l.fields generalizing l with
  | nil => simp [hl] at hf
  | cons g fields ih =>
    rw [hl] at hd hf
    obtain ⟨hg, hd⟩ := List.nodup_cons.1 hd
    rcases List.mem_cons.1 hf with rfl | hf
    · simp
    · have hne : g.key ≠ f.key := fun h => hg (List.mem_map.2 ⟨f, hf, h.symm⟩)
      rw [List.find?_cons_of_neg (by simpa using hne)]
      exact ih (l := ⟨l.title, fields⟩) hd hf rfl

/-! ## Depth -/

/-- Items nest no deeper than each of them does. -/
theorem depthOfItems_le_iff {items : List Value} {d : Nat} : depthOfItems items ≤ d ↔ ∀ v ∈ items, v.depth ≤ d := by
  induction items with
  | nil => simp [depthOfItems]
  | cons v rest ih => rw [depthOfItems, Nat.max_le, ih, List.forall_mem_cons]

/-- Entries nest no deeper than each of their values does. -/
theorem depthOfEntries_le_iff {entries : List (String × Value)} {d : Nat} :
    depthOfEntries entries ≤ d ↔ ∀ e ∈ entries, e.2.depth ≤ d := by
  induction entries with
  | nil => simp [depthOfEntries]
  | cons e rest ih => rw [depthOfEntries, Nat.max_le, ih, List.forall_mem_cons]

end RenderCatalog.Json
