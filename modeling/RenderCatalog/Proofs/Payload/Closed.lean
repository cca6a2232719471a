import RenderCatalog.Proofs.Conformance
import RenderCatalog.Proofs.Schema.RoundTrip

/-!
# Closed objects

A definition that refuses further fields is a closed one. When nothing is said against a value, nothing is said against any part of
it that is checked on the way (`accepted_of_reaches`), and a closed definition that lists its fields is met by no other keys. One
that lists none is not closed at all: it is checked like one that refuses nothing (`valueIssues_of_unlisted`), where it should
take only the empty object. So an accepted object keeps to a closed definition exactly when that lists its fields or the object is
empty (`declares_iff_of_accepted`).
-/

namespace RenderCatalog.Payload

open Json (Value)

variable {path : String} {d : Definition} {entries : List (String × Value)}

/-! ## Parts of an accepted value -/

/-- When nothing is said against a list of items, nothing is said against each of them at its place. -/
theorem itemIssues_eq_nil {item : Definition} {i : Nat} {items : List Value} (h : itemIssues path item i items = []) :
    ∀ v ∈ items, ∃ place, valueIssues place item v = [] := by
  induction items generalizing i with
  | nil => exact fun _ => nofun
  | cons v rest ih =>
    rw [itemIssues, List.append_eq_nil_iff] at h
    exact List.forall_mem_cons.2 ⟨⟨_, h.1⟩, ih h.2⟩

/-- Nothing is said against the entries of an object exactly when nothing is said against each that has a definition, and each has
one when the object is closed. -/
theorem entryIssues_eq_nil_iff_forall {table : List (String × Definition)} {closed : Bool} :
    entryIssues path table closed entries = [] ↔
      ∀ e ∈ entries, (∀ field, table.lookup e.1 = some field → valueIssues (fieldPath path e.1) field e.2 = []) ∧
        (closed = true → (table.lookup e.1).isSome) := by
  induction entries with
  | nil => simp [entryIssues]
  | cons e rest ih =>
    rw [entryIssues, List.append_eq_nil_iff, ih, List.forall_mem_cons]
    refine and_congr_left fun _ => ?_
    cases table.lookup e.1 with
    | none => cases closed <;> simp
    | some field => simp

/-- Checking a value against a definition comes to checking a part of the value against a part of the definition. -/
inductive Reaches (d₀ : Definition) (v₀ : Value) : Definition → Value → Prop where
  | root : Reaches d₀ v₀ d₀ v₀
  | item {d item : Definition} {items : List Value} {v : Value} (above : Reaches d₀ v₀ d (.array items))
      (each : d.items = some item) (mem : v ∈ items) : Reaches d₀ v₀ item v
  | field {d field : Definition} {entries : List (String × Value)} {table : List (String × Definition)} {e : String × Value}
      (above : Reaches d₀ v₀ d (.object entries)) (listed : d.properties = some table) (mem : e ∈ entries)
      (found : table.lookup e.1 = some field) : Reaches d₀ v₀ field e.2

/-- An accepted list has accepted items. -/
theorem accepted_item {item : Definition} {items : List Value} (h : valueIssues path d (.array items) = [])
    (hitem : d.items = some item) : ∀ v ∈ items, ∃ place, valueIssues place item v = [] := by
  rw [valueIssues] at h
  split at h
  · simp only [hitem] at h
    exact itemIssues_eq_nil h
  · cases h

/-- The entries of an accepted object are accepted for the fields that the definition lists, and are all listed when it is closed. -/
theorem accepted_entry {table : List (String × Definition)} (h : valueIssues path d (.object entries) = [])
    (htable : d.properties = some table) :
    ∀ e ∈ entries, (∀ field, table.lookup e.1 = some field → valueIssues (fieldPath path e.1) field e.2 = []) ∧
      (d.additional = some false → (table.lookup e.1).isSome) := by
  rw [valueIssues] at h
  split at h
  · simp only [htable, List.append_eq_nil_iff] at h
    have hentries := entryIssues_eq_nil_iff_forall.1 h.2
    simpa only [beq_iff_eq] using hentries
  · cases h

/-- When nothing is said against a value, nothing is said against any part of it that is checked on the way. -/
theorem accepted_of_reaches {d₀ : Definition} {v₀ v : Value} (h : valueIssues path d₀ v₀ = []) (hreaches : Reaches d₀ v₀ d v) :
    ∃ place, valueIssues place d v = [] := by
  induction hreaches with
  | root => exact ⟨path, h⟩
  | item _ each mem ih =>
    obtain ⟨place, hplace⟩ := ih
    exact accepted_item hplace each _ mem
  | field _ listed mem found ih =>
    obtain ⟨place, hplace⟩ := ih
    exact ⟨_, (accepted_entry hplace listed _ mem).1 _ found⟩

/-! ## Closed definitions -/

/-- Where no fields are listed, a definition says the same whether it refuses further ones or not. -/
theorem valueIssues_of_unlisted (hfields : d.properties = none) (additional : Option Bool) (v : Value) :
    valueIssues path { d with additional } v = valueIssues path d v := by
  cases v with
  | object entries => simp only [valueIssues, missingIssues, hfields]
  | array items => simp only [valueIssues]
  | string s => simp only [valueIssues, stringIssues]
  | number n => simp only [valueIssues, numberIssues]
  | bool b => simp only [valueIssues]
  | null => simp only [valueIssues]

/-- In an accepted value, at whatever depth, the entries of an object are declared by a closed definition that lists its fields. One
that lists none is checked as if it refused nothing, so there the entries are declared only when there are none. -/
theorem declares_iff_of_accepted (path : String) (d₀ : Definition) (v₀ : Value) (h : valueIssues path d₀ v₀ = [])
    (d : Definition) (entries : List (String × Value)) (hreaches : Reaches d₀ v₀ d (.object entries))
    (hclosed : d.additional = some false) :
    ((∀ e ∈ entries, Declares d e.1) ↔ d.properties.isSome ∨ entries = []) ∧
      (d.properties = none → ∀ place v, valueIssues place { d with additional := none } v = valueIssues place d v) := by
  refine ⟨?_, fun hfields place v => valueIssues_of_unlisted hfields none v⟩
  obtain ⟨place, hplace⟩ := accepted_of_reaches h hreaches
  cases hfields : d.properties with
  | none =>
    have hnone : ∀ name, ¬Declares d name := by
      rintro name ⟨table, -, htable, -⟩
      rw [hfields] at htable
      cases htable
    simp only [hnone, Option.isSome_none, Bool.false_eq_true, false_or]
    exact List.eq_nil_iff_forall_not_mem.symm
  | some table =>
    refine iff_of_true (fun e he => ?_) (Or.inl rfl)
    obtain ⟨field, hfield⟩ := Option.isSome_iff_exists.1 ((accepted_entry hplace hfields e he).2 hclosed)
    exact ⟨table, field, hfields, hfield⟩

/-- The data of a chart: a list of points, each a closed object that lists its fields. -/
def chartPoints : Definition := { type := .array, items := some (Vocabulary.itemDefinition "data") }

/-- The entries of a point. -/
def pointEntries : List (String × Value) := [("label", .string "a"), ("value", .ofInt 1)]

/-- A point in an accepted list has declared entries only. -/
theorem declares_pointEntries :
    valueIssues "data" chartPoints (.array [.object pointEntries]) = [] ∧
      Reaches chartPoints (.array [.object pointEntries]) (Vocabulary.itemDefinition "data") (.object pointEntries) ∧
      (Vocabulary.itemDefinition "data").additional = some false ∧
      ∀ e ∈ pointEntries, Declares (Vocabulary.itemDefinition "data") e.1 := by
  have haccepted : valueIssues "data" chartPoints (.array [.object pointEntries]) = [] := by decide
  have hreaches : Reaches chartPoints (.array [.object pointEntries]) (Vocabulary.itemDefinition "data") (.object pointEntries) :=
    .item .root rfl (List.mem_singleton.2 rfl)
  have hclosed : (Vocabulary.itemDefinition "data").additional = some false := by decide
  have hlisted : (Vocabulary.itemDefinition "data").properties.isSome := by decide
  exact ⟨haccepted, hreaches, hclosed,
    (declares_iff_of_accepted "data" chartPoints _ haccepted _ pointEntries hreaches hclosed).1.2 (Or.inl hlisted)⟩

/-- A definition of objects that refuses further fields and lists none. -/
def sealedBox : Definition := { type := .object, additional := some false }

/-- The schema of a component with a sealed box as its parameter. -/
def boxSchema : Schema :=
  { title := "Box", component := "Box", category := .general, description := "", properties := []
    tool := ⟨"render_box", "", { properties := [("box", sealedBox)], required := [] }⟩ }

/-- A sealed box is read from the text of an index, and accepted with an entry that it does not declare. -/
theorem sealedBox_accepts :
    Index.ofText (Index.toValue ⟨[boxSchema]⟩).compact = .ok ⟨[boxSchema]⟩ ∧
      sealedBox.type = .object ∧ sealedBox.additional = some false ∧
      valueIssues "box" sealedBox (.object [("x", .ofInt 1)]) = [] ∧
      issues boxSchema (.object [("box", .object [("x", .ofInt 1)])]) = [] ∧ ¬Declares sealedBox "x" := by
  have hordered : (⟨[boxSchema]⟩ : Index).Ordered := by
    intro s hs
    obtain rfl := List.mem_singleton.1 hs
    refine ⟨by simp [boxSchema], List.pairwise_singleton _ _, fun e he => ?_⟩
    obtain rfl := List.mem_singleton.1 he
    exact Definition.ordered_of_plain rfl rfl
  have hread := Stored.read_compact Index.faithful hordered (by decide)
  refine ⟨Index.ofText_eq_ok_iff.2 hread, rfl, rfl, by decide, by decide, ?_⟩
  rintro ⟨table, -, htable, -⟩
  cases htable

end RenderCatalog.Payload
