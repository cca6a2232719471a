import RenderCatalog.Proofs.Json.Canonical
import RenderCatalog.Proofs.Json.Scalars
import RenderCatalog.Schema.Stored

/-!
# Values that stand for something

A shape is `Faithful` to a type when the canonical values of the shape are just what stands for the values of the type that
are in order, and each of them stands for one. Scalars, labels and lists are faithful to theirs, and so are definitions, whose
tables must list their fields by rising names (`Definition.Ordered`): there the way to a canonical value goes by induction on
how a definition is put together, and the way back by induction on how deep the value nests.
-/

namespace RenderCatalog

open Json (Value Shape RecordField Records Canonical Listed Rising)

/-- Canonical values of the shape stand for the values that are in order, each for one. -/
structure Faithful {α : Type} (shape : Shape StoredRecord) (toValue : α → Value) (ofValue? : Value → Option α)
    (ordered : α → Prop) : Prop where
  canonical : ∀ a, ordered a → Canonical shape (toValue a)
  back : ∀ a, ordered a → ofValue? (toValue a) = some a
  stands : ∀ v, Canonical shape v → ∃ a, ordered a ∧ toValue a = v

/-! ## Scalars, labels and lists -/

/-- Every string is a text. -/
theorem faithful_text : Faithful .text Value.string textIn? fun _ => True :=
  ⟨fun s _ => .text s, fun _ _ => rfl, fun v h => by cases h with | text s => exact ⟨s, trivial, rfl⟩⟩

/-- Every string is a path. -/
theorem faithful_path : Faithful .path Value.string textIn? fun _ => True :=
  ⟨fun s _ => .path s, fun _ _ => rfl, fun v h => by cases h with | path s => exact ⟨s, trivial, rfl⟩⟩

/-- Both flags are written. -/
theorem faithful_flag : Faithful .flag Value.bool flagIn? fun _ => True :=
  ⟨fun b _ => .flag b, fun _ _ => rfl, fun v h => by cases h with | flag b => exact ⟨b, trivial, rfl⟩⟩

/-- Every integer of 64 bits is written. -/
theorem faithful_integer : Faithful .integer integerValue integerIn? fun _ => True := by
  refine ⟨fun n _ => .integer ?_, fun n _ => ?_, fun v h => ?_⟩
  · have hlow := n.le_toInt
    have hhigh := n.toInt_lt
    exact Json.fitsInteger_iff.2 (by omega)
  · simp [integerIn?, integerValue, Value.ofInt]
  · cases h with
    | @integer n fits =>
      obtain ⟨hlow, hhigh⟩ := Json.fitsInteger_iff.1 fits
      have hback : (Int64.ofInt n).toInt = n := Int64.toInt_ofInt_of_le (by omega) (by omega)
      exact ⟨Int64.ofInt n, trivial, by rw [integerValue, Value.ofInt, hback]⟩

/-- A type is found by its label. -/
theorem PropType.ofLabel?_label (t : PropType) : PropType.ofLabel? t.label = some t := by
  cases t <;> rfl

/-- A category is found by its label. -/
theorem Category.ofLabel?_label (c : Category) : Category.ofLabel? c.label = some c := by
  cases c <;> rfl

/-- The values of an enumeration are written by their labels when each is found by its own. -/
theorem faithful_label {α : Type} {all : List α} {label : α → String} (h : ∀ a, all.find? (label · == label a) = some a) :
    Faithful (.label (all.map label)) (fun a => .string (label a)) (fun v => (textIn? v).bind fun s => all.find? (label · == s))
      fun _ => True := by
  refine ⟨fun a _ => .label (List.mem_map_of_mem (List.mem_of_find?_eq_some (h a))), fun a _ => h a, fun v hv => ?_⟩
  cases hv with
  | label known =>
    obtain ⟨a, -, rfl⟩ := List.mem_map.1 known
    exact ⟨a, trivial, rfl⟩

/-- Every type is written by its label. -/
theorem faithful_type :
    Faithful (.label StoredRecord.typeLabels) (fun t : PropType => .string t.label) typeIn? fun _ => True :=
  faithful_label PropType.ofLabel?_label

/-- Every category is written by its label. -/
theorem faithful_category :
    Faithful (.label StoredRecord.categoryLabels) (fun c : Category => .string c.label) categoryIn? fun _ => True :=
  faithful_label Category.ofLabel?_label

section Lists

variable {α : Type} {shape : Shape StoredRecord} {toValue : α → Value} {ofValue? : Value → Option α} {ordered : α → Prop}

/-- Items are taken back one by one. -/
theorem mapM_map_of_back {l : List α} (h : ∀ a ∈ l, ofValue? (toValue a) = some a) : (l.map toValue).mapM ofValue? = some l := by
  induction l with
  | nil => rfl
  | cons a rest ih =>
    rw [List.map_cons, List.mapM_cons, h a (by simp), ih fun b hb => h b (List.mem_cons_of_mem _ hb)]
    rfl

/-- What all stands for something stands for a list. -/
theorem exists_map_eq {β : Type} {f : α → β} {p : β → Prop} (hex : ∀ b, p b → ∃ a, ordered a ∧ f a = b) {items : List β}
    (h : ∀ b ∈ items, p b) : ∃ l : List α, (∀ a ∈ l, ordered a) ∧ l.map f = items := by
  induction items with
  | nil => exact ⟨[], by simp, rfl⟩
  | cons v rest ih =>
    obtain ⟨a, ha, rfl⟩ := hex v (h v (by simp))
    obtain ⟨l, hl, rfl⟩ := ih fun w hw => h w (List.mem_cons_of_mem _ hw)
    exact ⟨a :: l, List.forall_mem_cons.2 ⟨ha, hl⟩, rfl⟩

/-- A list is written as the list of what stands for its items. -/
theorem Faithful.list (h : Faithful shape toValue ofValue? ordered) :
    Faithful (.list shape) (fun l : List α => .array (l.map toValue)) (listIn? ofValue?) fun l => ∀ a ∈ l, ordered a := by
  refine ⟨fun l hl => .list fun v hv => ?_, fun l hl => mapM_map_of_back fun a ha => h.back a (hl a ha), fun v hv => ?_⟩
  · obtain ⟨a, ha, rfl⟩ := List.mem_map.1 hv
    exact h.canonical a (hl a ha)
  · cases hv with
    | list each =>
      obtain ⟨l, hl, rfl⟩ := exists_map_eq h.stands each
      exact ⟨l, hl, rfl⟩

end Lists

/-- Every list of texts is written. -/
theorem faithful_texts : Faithful (.list .text) Value.ofStrings (listIn? textIn?) fun _ => True := by
  have h := faithful_text.list
  exact ⟨fun l _ => h.canonical l (by simp), fun l _ => h.back l (by simp), fun v hv => by
    obtain ⟨l, -, rfl⟩ := h.stands v hv
    exact ⟨l, trivial, rfl⟩⟩

/-! ## Fields -/

section Fields

variable {α : Type} {p : Shape StoredRecord → Value → Prop} {key : String} {shape : Shape StoredRecord}
  {fields : List (RecordField StoredRecord)} {entries : List (String × Value)} {toValue : α → Value} {ordered : α → Prop}

/-- An optional field is listed whether it is there or not. -/
theorem Json.Listed.optional {o : Option α} (ho : ∀ a, o = some a → p shape (toValue a)) (h : Listed p fields entries) :
    Listed p (⟨key, .optional, shape⟩ :: fields) (optionalEntry key toValue o ++ entries) := by
  cases o with
  | none => exact .absent nofun h
  | some a => exact .present (ho a rfl) h

/-- The entry of a required field comes first. -/
theorem Json.Listed.exists_required (h : Listed p (⟨key, .required, shape⟩ :: fields) entries)
    (hex : ∀ v, p shape v → ∃ a, ordered a ∧ toValue a = v) :
    ∃ a rest, ordered a ∧ entries = (key, toValue a) :: rest ∧ Listed p fields rest := by
  cases h with
  | @present _ _ v rest value hrest =>
    obtain ⟨a, ha, rfl⟩ := hex v value
    exact ⟨a, rest, ha, rfl, hrest⟩
  | absent dispensable _ => exact absurd rfl dispensable

/-- The entry of an optional field comes first, if it is there. -/
theorem Json.Listed.exists_optional (h : Listed p (⟨key, .optional, shape⟩ :: fields) entries)
    (hex : ∀ v, p shape v → ∃ a, ordered a ∧ toValue a = v) :
    ∃ o rest, (∀ a, o = some a → ordered a) ∧ entries = optionalEntry key toValue o ++ rest ∧ Listed p fields rest := by
  cases h with
  | @present _ _ v rest value hrest =>
    obtain ⟨a, ha, rfl⟩ := hex v value
    exact ⟨some a, rest, fun b hb => Option.some.inj hb ▸ ha, rfl, hrest⟩
  | absent _ hrest => exact ⟨none, entries, nofun, rfl, hrest⟩

/-- Where there are no fields left there are no entries. -/
theorem Json.Listed.eq_nil (h : Listed p [] entries) : entries = [] := by
  cases h
  rfl

end Fields

/-! ## Definitions -/

/-- Wherever a definition lists fields, their names rise. -/
inductive Definition.Ordered : Definition → Prop where
  | intro {d : Definition} (items : ∀ item, d.items = some item → item.Ordered)
      (rising : ∀ table, d.properties = some table → Rising table)
      (fields : ∀ table, d.properties = some table → ∀ e ∈ table, e.2.Ordered) : d.Ordered

/-- A table is in order when its names rise and its definitions are in order. -/
def OrderedTable (table : List (String × Definition)) : Prop := Rising table ∧ ∀ e ∈ table, e.2.Ordered

/-- The value that stands for a table of definitions. -/
def tableValue (table : List (String × Definition)) : Value := .object (definitionsValue table)

/-- The entries of a table are those of its definitions. -/
theorem definitionsValue_eq_map (table : List (String × Definition)) :
    definitionsValue table = table.map fun e => (e.1, e.2.toValue) := by
  induction table with
  | nil => rfl
  | cons e rest ih =>
    obtain ⟨name, d⟩ := e
    rw [definitionsValue, ih, List.map_cons]

/-- The entries that stand for a definition, one field after another. -/
theorem Definition.toValue_eq (d : Definition) :
    d.toValue = .object (("type", .string d.type.label) ::
      (optionalEntry "description" .string d.description ++ (optionalEntry "enum" .ofStrings d.allowed ++
        (optionalEntry "minimum" integerValue d.minimum ++ (optionalEntry "maximum" integerValue d.maximum ++
          (optionalEntry "items" Definition.toValue d.items ++ (optionalEntry "properties" tableValue d.properties ++
            (optionalEntry "required" .ofStrings d.required ++
              (optionalEntry "additionalProperties" .bool d.additional ++ []))))))))) := by
  obtain ⟨type, description, allowed, minimum, maximum, items, properties, required, additional⟩ := d
  have hitems : itemsEntry items = optionalEntry "items" Definition.toValue items := by cases items <;> rfl
  have hproperties : propertiesEntry properties = optionalEntry "properties" tableValue properties := by
    cases properties <;> rfl
  rw [Definition.toValue, hitems, hproperties]
  simp only [List.append_assoc, List.append_nil]

/-- A table is written with rising keys. -/
theorem canonical_tableValue {table : List (String × Definition)} (hrising : Rising table)
    (h : ∀ e ∈ table, Canonical (.record StoredRecord.definition) e.2.toValue) :
    Canonical (.table (.record StoredRecord.definition)) (tableValue table) := by
  rw [tableValue, definitionsValue_eq_map]
  refine .table ((Json.rising_map _ _).2 hrising) fun e he => ?_
  obtain ⟨a, ha, rfl⟩ := List.mem_map.1 he
  exact h a ha

/-- The definitions of a table are taken back one by one. -/
theorem definitionsIn?_definitionsValue {table : List (String × Definition)}
    (h : ∀ e ∈ table, definitionIn? e.2.toValue = some e.2) : definitionsIn? (definitionsValue table) = some table := by
  induction table with
  | nil => rw [definitionsValue, definitionsIn?]
  | cons e rest ih =>
    obtain ⟨name, d⟩ := e
    have hd : definitionIn? d.toValue = some d := h (name, d) (by simp)
    rw [definitionsValue, definitionsIn?, hd, Option.bind_some, ih fun e he => h e (List.mem_cons_of_mem _ he),
      Option.map_some]

/-- Entries with rising keys whose values all stand for definitions in order stand for a table. -/
theorem exists_tableValue {p : Value → Prop} (hex : ∀ v, p v → ∃ d : Definition, d.Ordered ∧ d.toValue = v)
    {entries : List (String × Value)} (hrising : Rising entries) (h : ∀ e ∈ entries, p e.2) :
    ∃ table, OrderedTable table ∧ tableValue table = .object entries := by
  have hentry : ∀ e : String × Value, p e.2 → ∃ a : String × Definition, a.2.Ordered ∧ (a.1, a.2.toValue) = e := by
    intro e he
    obtain ⟨d, hd, hv⟩ := hex e.2 he
    exact ⟨(e.1, d), hd, by rw [hv]⟩
  obtain ⟨table, htable, hmap⟩ := exists_map_eq hentry h
  refine ⟨table, ⟨?_, htable⟩, by rw [tableValue, definitionsValue_eq_map, hmap]⟩
  rw [← hmap] at hrising
  exact (Json.rising_map _ _).1 hrising

/-- An entry that may be there sets its keyword, and nothing else. -/
theorem keywordsIn?_optionalEntry {α : Type} {key : String} {toValue : α → Value} (set : Option α → Definition)
    {o : Option α} (rest : List (String × Value))
    (h : ∀ a, o = some a → keywordsIn? (set none) ((key, toValue a) :: rest) = keywordsIn? (set (some a)) rest) :
    keywordsIn? (set none) (optionalEntry key toValue o ++ rest) = keywordsIn? (set o) rest := by
  cases o with
  | none => rfl
  | some a => exact h a rfl

/-- A definition in order is taken back from the value that stands for it. -/
theorem Definition.Ordered.back {d : Definition} (h : d.Ordered) : definitionIn? d.toValue = some d := by
  induction h with
  | @intro d _ _ _ hitems hfields =>
    obtain ⟨type, description, allowed, minimum, maximum, items, properties, required, additional⟩ := d
    rw [Definition.toValue_eq, definitionIn?, PropType.ofLabel?_label, Option.bind_some]
    rw [keywordsIn?_optionalEntry (fun o => ⟨type, o, none, none, none, none, none, none, none⟩)]
    rw [keywordsIn?_optionalEntry (fun o => ⟨type, description, o, none, none, none, none, none, none⟩)]
    rw [keywordsIn?_optionalEntry (fun o => ⟨type, description, allowed, o, none, none, none, none, none⟩)]
    rw [keywordsIn?_optionalEntry (fun o => ⟨type, description, allowed, minimum, o, none, none, none, none⟩)]
    rw [keywordsIn?_optionalEntry (fun o => ⟨type, description, allowed, minimum, maximum, o, none, none, none⟩)]
    rw [keywordsIn?_optionalEntry (fun o => ⟨type, description, allowed, minimum, maximum, items, o, none, none⟩)]
    rw [keywordsIn?_optionalEntry (fun o => ⟨type, description, allowed, minimum, maximum, items, properties, o, none⟩)]
    rw [keywordsIn?_optionalEntry
      (fun o => ⟨type, description, allowed, minimum, maximum, items, properties, required, o⟩)]
    · rw [keywordsIn?]
    · intro b _
      simp [keywordsIn?, flagIn?]
    · intro ss _
      simp [keywordsIn?, faithful_texts.back ss trivial]
    · intro table ht
      simp [keywordsIn?, tableValue, definitionsIn?_definitionsValue (hfields table ht)]
    · intro item hi
      simp [keywordsIn?, hitems item hi]
    · intro n _
      simp [keywordsIn?, faithful_integer.back n trivial]
    · intro n _
      simp [keywordsIn?, faithful_integer.back n trivial]
    · intro ss _
      simp [keywordsIn?, faithful_texts.back ss trivial]
    · intro s _
      simp [keywordsIn?, textIn?]

/-- What stands for a definition in order is canonical. -/
theorem Definition.Ordered.canonical {d : Definition} (h : d.Ordered) :
    Canonical (.record StoredRecord.definition) d.toValue := by
  induction h with
  | @intro d _ hrising _ hitems hfields =>
    rw [Definition.toValue_eq]
    refine .record (.present (faithful_type.canonical d.type trivial) ?_)
    refine .optional (fun s _ => faithful_text.canonical s trivial) ?_
    refine .optional (fun ss _ => faithful_texts.canonical ss trivial) ?_
    refine .optional (fun n _ => faithful_integer.canonical n trivial) ?_
    refine .optional (fun n _ => faithful_integer.canonical n trivial) ?_
    refine .optional hitems ?_
    refine .optional (fun table ht => canonical_tableValue (hrising table ht) (hfields table ht)) ?_
    refine .optional (fun ss _ => faithful_texts.canonical ss trivial) ?_
    exact .optional (fun b _ => faithful_flag.canonical b trivial) .nil

/-- Every canonical value stands for a definition in order. -/
theorem exists_definition (depth : Nat) (v : Value) (h : Canonical (.record StoredRecord.definition) v)
    (hd : v.depth ≤ depth) : ∃ d : Definition, d.Ordered ∧ d.toValue = v := by
  induction depth generalizing v with
  | zero =>
    cases h with
    | record fields => rw [Value.depth] at hd; omega
  | succ depth ih =>
    cases h with
    | @record _ entries fields =>
      rw [Value.depth, Nat.add_le_add_iff_right, Json.depthOfEntries_le_iff] at hd
      have h := fields.imp_of_mem (q := fun shape v => Canonical shape v ∧ v.depth ≤ depth) fun _ e he hv => ⟨hv, hd e he⟩
      have htable : ∀ v, Canonical (.table (.record StoredRecord.definition)) v ∧ v.depth ≤ depth →
          ∃ table, OrderedTable table ∧ tableValue table = v := by
        rintro v ⟨hv, hv'⟩
        cases hv with
        | table rising each =>
          rw [Value.depth] at hv'
          have hdeep := Json.depthOfEntries_le_iff.1 (Nat.le_of_succ_le hv')
          exact exists_tableValue (p := fun v => Canonical (.record StoredRecord.definition) v ∧ v.depth ≤ depth)
            (fun v hv => ih v hv.1 hv.2) rising fun e he => ⟨each e he, hdeep e he⟩
      obtain ⟨type, _, -, rfl, h₁⟩ := h.exists_required fun v hv => faithful_type.stands v hv.1
      obtain ⟨description, _, -, rfl, h₂⟩ := h₁.exists_optional fun v hv => faithful_text.stands v hv.1
      obtain ⟨allowed, _, -, rfl, h₃⟩ := h₂.exists_optional fun v hv => faithful_texts.stands v hv.1
      obtain ⟨minimum, _, -, rfl, h₄⟩ := h₃.exists_optional fun v hv => faithful_integer.stands v hv.1
      obtain ⟨maximum, _, -, rfl, h₅⟩ := h₄.exists_optional fun v hv => faithful_integer.stands v hv.1
      obtain ⟨items, _, hitems, rfl, h₆⟩ := h₅.exists_optional fun v hv => ih v hv.1 hv.2
      obtain ⟨properties, _, hproperties, rfl, h₇⟩ := h₆.exists_optional htable
      obtain ⟨required, _, -, rfl, h₈⟩ := h₇.exists_optional fun v hv => faithful_texts.stands v hv.1
      obtain ⟨additional, _, -, rfl, h₉⟩ := h₈.exists_optional fun v hv => faithful_flag.stands v hv.1
      obtain rfl := h₉.eq_nil
      refine ⟨⟨type, description, allowed, minimum, maximum, items, properties, required, additional⟩, ?_, ?_⟩
      · exact .intro hitems (fun table ht => (hproperties table ht).1) fun table ht => (hproperties table ht).2
      · rw [Definition.toValue_eq]

/-- Every definition in order is written. -/
theorem Definition.faithful : Faithful (.record .definition) Definition.toValue definitionIn? Definition.Ordered :=
  ⟨fun _ h => h.canonical, fun _ h => h.back, fun v h => exists_definition v.depth v h le_rfl⟩

/-- Every table in order is written. -/
theorem faithful_table : Faithful (.table (.record .definition)) tableValue tableIn? OrderedTable := by
  refine ⟨fun table h => ?_, fun table h => ?_, fun v hv => ?_⟩
  · exact canonical_tableValue h.1 fun e he => (h.2 e he).canonical
  · exact definitionsIn?_definitionsValue fun e he => (h.2 e he).back
  · cases hv with
    | table rising each =>
      exact exists_tableValue (p := Canonical (.record StoredRecord.definition)) Definition.faithful.stands rising each

end RenderCatalog
