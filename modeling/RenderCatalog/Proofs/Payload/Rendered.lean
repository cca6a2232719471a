import RenderCatalog.Payload.Render
import RenderCatalog.Proofs.Payload.Callable

/-!
# What a renderer receives

Rendering agrees with checking: a payload is rendered exactly when nothing is wrong with it and its entry for the key of the
render type is not set, and otherwise the first issue is the refusal (`render_agrees`). What a renderer receives is flat, and
its entries are the render type and those of the payload, each key once (`Rendering.Carries`): the key of the render type is
taken out of the payload before the render type takes its place. An object that lacks a required parameter is refused for that
before anything else; a payload that is no object has no parameters at all and is refused for being none.
-/

namespace RenderCatalog.Payload

open Json (Value Rising)

variable {s : Schema} {payload : Value} {entries : List (String × Value)} {name : String}

/-! ## Entries of payloads -/

/-- The value of an entry of a payload; only objects have entries. -/
def entry? : Value → String → Option Value
  | .object entries, name => entries.lookup name
  | _, _ => none

/-- The entry of a payload is absent or null. -/
def Unset (payload : Value) (name : String) : Prop := ∀ v, entry? payload name = some v → v = .null

theorem isMissing_eq_true_iff : isMissing entries name = true ↔ Unset (.object entries) name := by
  rw [← Bool.not_eq_false, isMissing_eq_false_iff]
  simp only [Unset, entry?, not_exists, not_and, not_not]

/-- The key of the render type is not taken by a payload exactly when its entry is absent or null. -/
theorem ownType?_eq_none_iff : ownType? payload = none ↔ Unset payload Schema.typeKey := by
  cases payload with
  | object entries =>
    rw [← isMissing_eq_true_iff, ownType?, isMissing]
    cases hlookup : entries.lookup Schema.typeKey with
    | none => simp
    | some v => simp
  | null | bool | number | string | array =>
    refine ⟨fun _ v hv => ?_, fun _ => rfl⟩
    cases hv

/-- The entries of an object that is read rise by their keys. -/
theorem rising_of_sorted (h : (Value.object entries).sorted = .object entries) : Rising entries := by
  rw [Value.sorted] at h
  rw [← Value.object.inj h]
  exact Json.rising_sortEntries _

/-! ## The rendering -/

/-- The flat object of a rendering: the render type of a schema comes first, and after it come all entries of a payload but that
for the key of the render type, unchanged and by rising keys, so that no key comes twice. -/
structure Rendering.Carries (r : Rendering) (s : Schema) (entries : List (String × Value)) : Prop where
  flat : r.toValue = .object ((Schema.typeKey, .string (Text.on Name.snake s.component)) :: r.props)
  distinct : (Schema.typeKey :: r.props.map (·.1)).Nodup
  rising : Rising r.props
  mem_iff : ∀ e, e ∈ r.props ↔ e ∈ entries ∧ e.1 ≠ Schema.typeKey

/-- A rendering carries the entries of its payload. -/
theorem carries_of_render {r : Rendering} (hrising : Rising entries) (h : render s (.object entries) = .ok r) :
    r.Carries s entries := by
  have hr : r = ⟨s.renderType, Json.eraseEntry Schema.typeKey entries⟩ := by
    rw [render] at h
    split at h
    · cases h
    · split at h
      · cases h
      · exact (Except.ok.inj h).symm
  have hmem : ∀ e, e ∈ r.props ↔ e ∈ entries ∧ e.1 ≠ Schema.typeKey := by
    intro e
    rw [hr, Json.eraseEntry, List.mem_filter, bne_iff_ne]
  have hprops : Rising r.props := by
    rw [hr]
    exact hrising.sublist List.filter_sublist
  refine ⟨by rw [hr]; rfl, List.nodup_cons.2 ⟨?_, hprops.nodup_keys⟩, hprops, hmem⟩
  intro htype
  obtain ⟨e, he, hkey⟩ := List.mem_map.1 htype
  exact ((hmem e).1 he).2 hkey

/-! ## Refusals -/

/-- Issues are refusals: the first of them is the one that is given. -/
theorem render_eq_error_of_issues {first : Issue} {rest : List Issue} (h : issues s payload = first :: rest) :
    render s payload = .error first := by
  rw [render, h]

/-- The first issue with an object that lacks a required parameter is that a required parameter is missing. -/
theorem exists_issues_of_unset (hname : name ∈ s.tool.parameters.required) (hunset : Unset (.object entries) name) :
    ∃ missing rest, issues s (.object entries) = ⟨missing, .missingParameter⟩ :: rest ∧
      missing ∈ s.tool.parameters.required ∧ Unset (.object entries) missing := by
  have hfilter : name ∈ s.tool.parameters.required.filter (isMissing entries) :=
    List.mem_filter.2 ⟨hname, isMissing_eq_true_iff.2 hunset⟩
  obtain ⟨missing, more, hmore⟩ := List.exists_cons_of_ne_nil (List.ne_nil_of_mem hfilter)
  have hmissing : missing ∈ s.tool.parameters.required.filter (isMissing entries) := by
    rw [hmore]
    exact List.mem_cons_self
  obtain ⟨hrequired, htrue⟩ := List.mem_filter.1 hmissing
  rw [issues, hmore]
  exact ⟨missing, _, rfl, hrequired, isMissing_eq_true_iff.1 htrue⟩

/-- Rendering a payload agrees with checking it. A payload is rendered exactly when there is no issue with it and its entry for
the key of the render type is absent or null, and the rendering carries the render type and the entries of the payload. The
first issue is the error. When the payload is an object that lacks a required parameter it says so of one that is lacking, and
when the payload is no object it says that. -/
theorem render_agrees (s : Schema) (payload : Value) (hsorted : payload.sorted = payload) :
    ((∃ r, render s payload = .ok r) ↔ issues s payload = [] ∧ Unset payload Schema.typeKey) ∧
    (∀ r, render s payload = .ok r → ∃ entries, payload = .object entries ∧ r.Carries s entries) ∧
    (∀ first rest, issues s payload = first :: rest →
      (render s payload).mapError Issue.toError = .error (.validation first.field first.reason.text)) ∧
    (payload.kind = .object → ∀ name ∈ s.tool.parameters.required, Unset payload name →
      ∃ missing rest, issues s payload = ⟨missing, .missingParameter⟩ :: rest ∧
        missing ∈ s.tool.parameters.required ∧ Unset payload missing) ∧
    (payload.kind ≠ .object → issues s payload = [⟨"$", .notObject⟩]) := by
  refine ⟨?_, fun r hr => ?_, fun first rest h => ?_, fun hkind name hname hunset => ?_, fun hkind => ?_⟩
  · rw [exists_render_eq_ok_iff, ownType?_eq_none_iff]
  · have hissues := ((exists_render_eq_ok_iff s payload).1 ⟨r, hr⟩).1
    cases payload with
    | object entries => exact ⟨entries, rfl, carries_of_render (rising_of_sorted hsorted) hr⟩
    | null | bool | number | string | array => cases hissues
  · rw [render_eq_error_of_issues h]
    rfl
  · cases payload with
    | object entries => exact exists_issues_of_unset hname hunset
    | null | bool | number | string | array => cases hkind
  · cases payload with
    | object entries => exact absurd rfl hkind
    | null | bool | number | string | array => rfl

/-- A chart with its data is rendered with the render type in front, and one without them is refused for them; also a null for
the key of the render type, which is not declared, is refused. -/
theorem render_agrees_chart :
    (Value.object [("data", .array []), ("title", .null)]).sorted = .object [("data", .array []), ("title", .null)] ∧
      (∃ r, render chartSchema (.object [("data", .array []), ("title", .null)]) = .ok r ∧
        r.Carries chartSchema [("data", .array []), ("title", .null)]) ∧
      (render chartSchema (.object [("title", .null)])).mapError Issue.toError =
        .error (.validation "data" "missing required parameter") ∧
      ¬∃ r, render chartSchema (.object [("data", .array []), ("type", .null)]) = .ok r := by
  have hsorted : (Value.object [("data", .array []), ("title", .null)]).sorted = .object [("data", .array []), ("title", .null)] := rfl
  obtain ⟨hiff, hcarries, -⟩ := render_agrees chartSchema (.object [("data", .array []), ("title", .null)]) hsorted
  obtain ⟨r, hr⟩ := hiff.2 ⟨by decide, ownType?_eq_none_iff.1 rfl⟩
  obtain ⟨entries, hentries, hr'⟩ := hcarries r hr
  cases hentries
  refine ⟨hsorted, ⟨r, hr, hr'⟩, ?_, fun hrendered => ?_⟩
  · exact (render_agrees chartSchema (.object [("title", .null)]) rfl).2.2.1 ⟨"data", .missingParameter⟩ [] (by decide)
  · have hissues := ((render_agrees chartSchema (.object [("data", .array []), ("type", .null)]) rfl).1.1 hrendered).1
    revert hissues
    decide

/-- The data of a chart are required and a payload that is no object does not have them, but that is not what it is refused
for. -/
theorem render_null :
    "data" ∈ chartSchema.tool.parameters.required ∧ Unset .null "data" ∧
      (render chartSchema .null).mapError Issue.toError = .error (.validation "$" "payload must be a JSON object") ∧
      ¬∃ missing rest, issues chartSchema .null = ⟨missing, .missingParameter⟩ :: rest := by
  refine ⟨by decide, nofun, rfl, ?_⟩
  rintro ⟨missing, rest, hissues⟩
  cases hissues

end RenderCatalog.Payload
