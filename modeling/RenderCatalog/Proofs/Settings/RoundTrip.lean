import RenderCatalog.Proofs.Json.Fitted
import RenderCatalog.Proofs.Schema.Faithful
import RenderCatalog.Proofs.Settings.Excerpt
import RenderCatalog.Proofs.Toml.Lines

/-!
# Settings are read back

Whatever is left of written settings is read as a document with a table for each section that is left (`draws_sectionText`),
the document has the shape of settings (`Excerpt.canonical_sections`), and the settings found in it are those that are
kept, with defaults for the others (`Settings.read?_excerpt`). Settings that can be used are therefore read back from whatever is
left of the text that is written of them (`Settings.ofToml_excerpt`).
-/

namespace RenderCatalog

open Json (Value Shape RecordField Records Canonical Listed)

/-! ## The shape of settings -/

/-- The sections have fields with different keys, and no field of just any shape. -/
theorem SettingsRecord.proper : Records.Proper SettingsRecord := by
  constructor
  · intro r
    cases r <;> simp [Records.layout, Shape.Plain]
  · intro r
    cases r <;> decide

/-- The record of a section. -/
def Section.record : Section → SettingsRecord
  | .general => .general
  | .sync => .sync

namespace Setting

/-- The value of a setting. -/
def value (s : Settings) : Setting → Toml.Value
  | .defaultFormat => .string s.general.defaultFormat
  | .logLevel => .string s.general.logLevel
  | .sourceDir => .string s.sync.sourceDir
  | .outputDir => .string s.sync.outputDir
  | .extensions => .array false (s.sync.extensions.map .string)
  | .exclude => .array false (s.sync.exclude.map .string)
  | .recursive => .boolean s.sync.recursive
  | .parallel => .boolean s.sync.parallel

/-- The field of a setting in the record of its section. -/
def field (x : Setting) : RecordField SettingsRecord where
  key := x.key
  presence := .defaulted
  shape := match x with
    | .defaultFormat | .logLevel => .text
    | .sourceDir | .outputDir => .path
    | .extensions | .exclude => .list .text
    | .recursive | .parallel => .flag

/-- Settings have different keys, in whichever section they are. -/
theorem key_injective : Function.Injective key := by
  intro x y h
  cases x <;> cases y <;> first | rfl | (revert h; decide)

/-- No key of a setting needs quotes. -/
theorem isBareKey (x : Setting) : Toml.IsBareKey x.key := by
  cases x <;> decide

/-- What is written of a setting is its value. -/
theorem writes (s : Settings) (x : Setting) : Toml.Writes Toml.nestingLimit (x.text s) (x.value s) := by
  cases x with
  | defaultFormat | logLevel | sourceDir | outputDir => exact Toml.writes_stringText _ _
  | extensions | exclude => exact Toml.writes_stringsText _ _
  | recursive | parallel => exact Toml.writes_flagText _ _

end Setting

/-- The record of a section has a field for each of its settings. -/
theorem Section.fields_eq (part : Section) : (Records.layout part.record).fields = part.settings.map (·.field) := by
  cases part <;> rfl

/-- No key comes twice in a section. -/
theorem Section.nodup_keys (part : Section) : (part.settings.map (·.key)).Nodup := by
  cases part <;> decide

/-- No name of a section needs quotes. -/
theorem Section.isBareKey_name (part : Section) : Toml.IsBareKey part.name := by
  cases part <;> decide

/-! ## Values of a document -/

namespace Settings

/-- A list of texts is looked for as one. -/
theorem jsonOfItems_strings (ss : List String) : jsonOfItems (ss.map .string) = ss.map .string := by
  induction ss with
  | nil => rfl
  | cons s ss ih => rw [List.map_cons, jsonOfItems, jsonOf, ih, List.map_cons]

/-- Entries are looked for one by one. -/
theorem jsonOfEntries_eq_map (entries : Toml.Entries) : jsonOfEntries entries = entries.map fun e => (e.1, jsonOf e.2) := by
  induction entries with
  | nil => rfl
  | cons e entries ih =>
    obtain ⟨key, v⟩ := e
    rw [jsonOfEntries, ih, List.map_cons]

end Settings

/-- The numbers in a list can be held when those in its items can. -/
theorem Toml.itemsHeld_iff (items : List Toml.Value) : Toml.itemsHeld items = true ↔ ∀ v ∈ items, v.isHeld = true := by
  induction items with
  | nil => simp [Toml.itemsHeld]
  | cons v items ih => rw [Toml.itemsHeld, Bool.and_eq_true, ih, List.forall_mem_cons]

/-- The numbers in a table can be held when those in its entries can. -/
theorem Toml.entriesHeld_iff (entries : Toml.Entries) : Toml.entriesHeld entries = true ↔ ∀ e ∈ entries, e.2.isHeld = true := by
  induction entries with
  | nil => simp [Toml.entriesHeld]
  | cons e entries ih =>
    obtain ⟨key, v⟩ := e
    rw [Toml.entriesHeld, Bool.and_eq_true, ih, List.forall_mem_cons]

namespace Setting

/-- The value of a setting as it is looked for in a document. -/
def json (s : Settings) (x : Setting) : Value := Settings.jsonOf (x.value s)

/-- The value of a setting has the shape of its field. -/
theorem canonical_json (s : Settings) (x : Setting) : Canonical x.field.shape (x.json s) := by
  cases x with
  | defaultFormat | logLevel => exact .text _
  | sourceDir | outputDir => exact .path _
  | extensions | exclude =>
    rw [json, value, Settings.jsonOf, Settings.jsonOfItems_strings]
    refine .list fun v hv => ?_
    obtain ⟨t, -, rfl⟩ := List.mem_map.1 hv
    exact .text t
  | recursive | parallel => exact .flag _

/-- No setting holds a number. -/
theorem isHeld_value (s : Settings) (x : Setting) : (x.value s).isHeld = true := by
  cases x with
  | extensions | exclude =>
    rw [value, Toml.Value.isHeld, Toml.itemsHeld_iff, List.forall_mem_map]
    exact fun _ _ => rfl
  | _ => rfl

end Setting

/-! ## The document that is read -/

namespace Excerpt

variable (e : Excerpt) (s : Settings)

/-- The table of a section that is left. -/
def table (part : Section) : Toml.Entries :=
  if e.shows part then [(part.name, .table .header ((e.settings part).map fun x => (x.key, x.value s)))] else []

/-- The document that is left. -/
def document : Toml.Entries := e.table s .general ++ e.table s .sync

/-- No key comes twice in what is left of a section. -/
theorem nodup_keys (part : Section) : ((e.settings part).map (·.key)).Nodup :=
  part.nodup_keys.sublist (List.filter_sublist.map _)

/-- What is left of a section is read as its table. -/
theorem draws_sectionText {part : Section} {before document : Toml.Entries} {path : List String} {cs : List Char}
    (hbefore : before.lookup part.name = none) (h : ∀ path, Toml.Draws ⟨before ++ e.table s part, path⟩ cs document) :
    Toml.Draws ⟨before, path⟩ (e.sectionText s part ++ cs) document := by
  rw [sectionText]
  rw [table] at h
  split at h
  · rw [if_pos ‹_›, List.append_assoc]
    exact Toml.draws_headerText part.isBareKey_name hbefore
      (Toml.draws_lines Setting.isBareKey (Setting.writes s) hbefore (e.nodup_keys part) (fun _ _ => rfl) (h _))
  · rw [if_neg ‹_›]
    rw [List.append_nil] at h
    exact h path

/-- What is left of a section starts with its header. -/
theorem head?_sectionText (part : Section) {c : Char} (h : (e.sectionText s part).head? = some c) : c = '[' := by
  rw [sectionText] at h
  split at h
  · exact (Option.some.inj h).symm
  · cases h

/-- What is left is read as the document that is left. -/
theorem read?_toList : Toml.read? (s.excerpt e).toList = some (e.document s) := by
  rw [Settings.excerpt, String.toList_ofList]
  refine Toml.read?_eq (fun h => ?_) ?_
  · rw [List.head?_append, List.head?_append, Option.or_eq_some_iff, Option.or_eq_some_iff, List.head?_replicate] at h
    rcases h with h | ⟨-, h | ⟨-, h⟩⟩
    · cases e.head?_sectionText s .general h
    · split at h <;> cases h
    · cases e.head?_sectionText s .sync h
  · have hgeneral : (e.table s .general).lookup Section.sync.name = none := by
      rw [table]
      split <;> rfl
    refine e.draws_sectionText s rfl fun path => Toml.draws_blanks e.gap ?_
    rw [List.nil_append, ← List.append_nil (e.sectionText s .sync)]
    exact e.draws_sectionText s hgeneral fun path => Toml.draws_nil _

/-- No section in the document is written as a list, so nothing is left over in one. -/
theorem map_documentEntry : ((e.document s).map fun (key, v) => (key, Settings.documentEntry key v)) = e.document s := by
  have htable : ∀ part, ((e.table s part).map fun (key, v) => (key, Settings.documentEntry key v)) = e.table s part := by
    intro part
    rw [table]
    split
    · cases part <;> rfl
    · rfl
  rw [document, List.map_append, htable, htable]

/-- The document that is left holds no number. -/
theorem entriesHeld_document : Toml.entriesHeld (e.document s) = true := by
  have htable : ∀ part, ∀ t ∈ e.table s part, t.2.isHeld = true := by
    intro part t ht
    rw [table] at ht
    split at ht
    · obtain rfl := List.mem_singleton.1 ht
      rw [Toml.Value.isHeld, Toml.entriesHeld_iff, List.forall_mem_map]
      exact fun x _ => x.isHeld_value s
    · cases ht
  rw [Toml.entriesHeld_iff, document, List.forall_mem_append]
  exact ⟨htable .general, htable .sync⟩

/-! ## The settings that are found -/

/-- The value of a section: the values of its settings that are kept. -/
def record (part : Section) : Value := .object ((e.settings part).map fun x => (x.key, x.json s))

/-- The entry of a section that is left. -/
def member (part : Section) : List (String × Value) := if e.shows part then [(part.name, e.record s part)] else []

/-- The entries of the sections that are left. -/
def members : List (String × Value) := e.member s .general ++ e.member s .sync

/-- The document that is left is looked through section by section. -/
theorem jsonOfEntries_document : Settings.jsonOfEntries (e.document s) = e.members s := by
  have htable : ∀ part, ((e.table s part).map fun t => (t.1, Settings.jsonOf t.2)) = e.member s part := by
    intro part
    rw [table, member]
    split
    · rw [List.map_singleton, Settings.jsonOf, Settings.jsonOfEntries_eq_map, List.map_map]
      rfl
    · rfl
  rw [Settings.jsonOfEntries_eq_map, document, List.map_append, htable, htable, members]

/-- The value of a section lists its fields. -/
theorem canonical_record (part : Section) : Canonical (.record part.record) (e.record s part) := by
  refine .record ?_
  rw [part.fields_eq, settings]
  induction part.settings with
  | nil => exact .nil
  | cons x xs ih =>
    rw [List.filter_cons]
    split
    · exact .present (x.canonical_json s) ih
    · exact .absent (by simp [Setting.field]) ih

/-- The sections that are left list the fields of settings. -/
theorem canonical_members : Canonical (.record SettingsRecord.settings) (.object (e.members s)) := by
  have hmember : ∀ (part : Section) {fields : List (RecordField SettingsRecord)} {entries : List (String × Value)},
      Listed Canonical fields entries →
      Listed Canonical (⟨part.name, .defaulted, .record part.record⟩ :: fields) (e.member s part ++ entries) := by
    intro part fields entries h
    rw [member]
    split
    · exact .present (e.canonical_record s part) h
    · exact .absent (by simp) h
  have hsync := hmember .sync .nil
  rw [List.append_nil] at hsync
  exact .record (hmember .general hsync)

/-- A setting is found when it is kept. -/
theorem lookup_settings {x : Setting} {part : Section} (hx : x ∈ part.settings) :
    ((e.settings part).map fun y => (y.key, y.json s)).lookup x.key = if e.kept x then some (x.json s) else none := by
  split
  · refine Json.lookup_of_mem ?_ (List.mem_map.2 ⟨x, List.mem_filter.2 ⟨hx, ‹_›⟩, rfl⟩)
    rw [List.map_map]
    exact e.nodup_keys part
  · rw [List.lookup_eq_none_iff, List.forall_mem_map]
    intro y hy
    rw [bne_iff_ne]
    intro heq
    obtain rfl := Setting.key_injective heq
    exact absurd (List.mem_filter.1 hy).2 ‹_›

/-- The value that is found for a setting is kept, or it is the default. -/
theorem settingIn_eq {α : Type} {take : Value → Option α} {x : Setting} {part : Section} (get : Settings → α)
    (hx : x ∈ part.settings) (htake : take (x.json s) = some (get s)) :
    settingIn take x.key ((e.settings part).map fun y => (y.key, y.json s)) (get {}) = get (if e.kept x then s else {}) := by
  rw [settingIn, fieldIn?, e.lookup_settings s hx]
  split
  · rw [Option.bind_some, htake, Option.getD_some]
  · rfl

/-- In the first section are found the settings that are kept of it. -/
theorem ofValue_record_general : GeneralSettings.ofValue (e.record s .general) = (s.keep e.kept).general := by
  rw [GeneralSettings.ofValue, Settings.keep, GeneralSettings.mk.injEq]
  exact ⟨e.settingIn_eq s (·.general.defaultFormat) (x := .defaultFormat) (by decide) rfl,
    e.settingIn_eq s (·.general.logLevel) (x := .logLevel) (by decide) rfl⟩

/-- In the second section are found the settings that are kept of it. -/
theorem ofValue_record_sync : SyncSettings.ofValue (e.record s .sync) = (s.keep e.kept).sync := by
  have htexts : ∀ ss : List String, listIn? textIn? (Settings.jsonOf (.array false (ss.map .string))) = some ss := by
    intro ss
    rw [Settings.jsonOf, Settings.jsonOfItems_strings]
    exact faithful_texts.back ss trivial
  rw [SyncSettings.ofValue, Settings.keep, SyncSettings.mk.injEq]
  exact ⟨e.settingIn_eq s (·.sync.sourceDir) (x := .sourceDir) (by decide) rfl,
    e.settingIn_eq s (·.sync.outputDir) (x := .outputDir) (by decide) rfl,
    e.settingIn_eq s (·.sync.extensions) (x := .extensions) (by decide) (htexts _),
    e.settingIn_eq s (·.sync.exclude) (x := .exclude) (by decide) (htexts _),
    e.settingIn_eq s (·.sync.recursive) (x := .recursive) (by decide) rfl,
    e.settingIn_eq s (·.sync.parallel) (x := .parallel) (by decide) rfl⟩

/-- A section of which nothing is left is a section without settings. -/
theorem record_of_not_shows {part : Section} (h : e.shows part = false) : e.record s part = .object [] := by
  rw [shows, Bool.or_eq_false_iff, List.any_eq_false] at h
  rw [record, settings, List.filter_eq_nil_iff.2 h.1, List.map_nil]

/-- What is found of a section: the values that are kept, or nothing. -/
theorem lookup_members (part : Section) : (e.members s).lookup part.name = if e.shows part then some (e.record s part) else none := by
  have hmember : ∀ other : Section, (e.member s other).lookup part.name =
      if other = part ∧ e.shows other then some (e.record s part) else none := by
    intro other
    rw [member]
    cases hshows : e.shows other <;> cases other <;> cases part <;> rfl
  rw [members, List.lookup_append, hmember, hmember]
  cases part <;> simp

/-- The settings that are found are those that are kept, and defaults for the others. -/
theorem ofValue_members : Settings.ofValue (.object (e.members s)) = s.keep e.kept := by
  have hsection : ∀ {α : Type} (part : Section) (default : α) (f : Value → α), f (.object []) = default →
      (((e.members s).lookup part.name).elim default f = f (e.record s part)) := by
    intro α part default f hf
    rw [e.lookup_members s]
    cases hshows : e.shows part with
    | true => rfl
    | false => rw [e.record_of_not_shows s hshows, hf]; rfl
  have hgeneral := hsection .general {} GeneralSettings.ofValue rfl
  have hsync := hsection .sync {} SyncSettings.ofValue rfl
  rw [ofValue_record_general] at hgeneral
  rw [ofValue_record_sync] at hsync
  exact congrArg₂ Settings.mk hgeneral hsync

end Excerpt

/-! ## Reading back -/

namespace Settings

/-- Whatever is left of written settings, it is read as the settings that are kept, with defaults for the others. -/
theorem read?_excerpt (s : Settings) (e : Excerpt) : read? (s.excerpt e) = some (s.keep e.kept) := by
  have hfit := (e.canonical_members s).fit_eq SettingsRecord.proper
  rw [read?, e.read?_toList s, Option.bind_some, ofDocument?, e.map_documentEntry s]
  simp only [e.entriesHeld_document s, if_true, e.jsonOfEntries_document s, ofJson, hfit]
  exact congrArg some (e.ofValue_members s)

/-- Settings that can be used are read back, and so are those that are kept of them, with defaults for the others. -/
theorem ofToml_excerpt {s : Settings} (hs : s.check = .ok ()) (e : Excerpt) : ofToml (s.excerpt e) = .ok (s.keep e.kept) := by
  rw [ofToml, read?_excerpt]
  simp only [check_keep hs e.kept]
  rfl

end Settings

/-- One setting of a section, and no header for the other. -/
example : ({ sync := { outputDir := "a\"b" } } : Settings).excerpt
    { kept := fun x => x = .outputDir, headed := fun _ => false, gap := 0 } = "[sync]\noutput_dir = 'a\"b'\n" := by
  decide +kernel

end RenderCatalog
