import RenderCatalog.Proofs.Json.Canonical
import RenderCatalog.Proofs.Result

/-!
# What a text is read as

Whatever text the reader of a shape accepts, and in whichever spelling, what it gives is canonical for the shape and nests no
deeper than the reader goes (`Shape.read_canonical`). The readers of lists and of members are followed by what every item has
in common and by what every member preserves; of the findings of a record, `Findings.Fit` is preserved.
-/

namespace RenderCatalog.Json

variable {ρ : Type}

/-! ## Lists and objects -/

/-- What every item has that is read, all items of a list have. -/
theorem readItems_forall {item : Cursor → Except Flaw (Value × Cursor)} {p : Value → Prop}
    (hitem : ∀ c v after, item c = .ok (v, after) → p v) {rounds : Nat} {first : Bool} {c after : Cursor}
    {items : List Value} (h : readItems item rounds first c = .ok (items, after)) : ∀ v ∈ items, p v := by
  induction rounds generalizing first c items after with
  | zero => simp [readItems] at h
  | succ rounds ih =>
    rw [readItems] at h
    obtain ⟨⟨more, c₁⟩, -, h⟩ := bind_eq_ok.1 h
    cases more with
    | false =>
      obtain ⟨rfl, -⟩ : [] = items ∧ c₁.drop 1 = after := by simpa using h
      simp
    | true =>
      obtain ⟨⟨v, c₂⟩, hv, h⟩ := bind_eq_ok.1 h
      obtain ⟨⟨rest, c₃⟩, hrest, h⟩ := bind_eq_ok.1 h
      obtain ⟨rfl, -⟩ : v :: rest = items ∧ c₃ = after := by simpa using h
      exact List.forall_mem_cons.2 ⟨hitem _ _ _ hv, ih hrest⟩

/-- What every member preserves, all members of an object preserve. -/
theorem readMembers_invariant {σ : Type} {member : σ → String → Cursor → Except Flaw (σ × Cursor)} {p : σ → Prop}
    (hmember : ∀ s key c s' after, p s → member s key c = .ok (s', after) → p s') {rounds : Nat} {first : Bool} {s s' : σ}
    {c after : Cursor} (hs : p s) (h : readMembers member rounds first s c = .ok (s', after)) : p s' := by
  induction rounds generalizing first s c with
  | zero => simp [readMembers] at h
  | succ rounds ih =>
    rw [readMembers] at h
    obtain ⟨⟨more, c₁⟩, -, h⟩ := bind_eq_ok.1 h
    cases more with
    | false =>
      obtain ⟨rfl, -⟩ : s = s' ∧ c₁ = after := by simpa using h
      exact hs
    | true =>
      obtain ⟨⟨key, c₂⟩, -, h⟩ := bind_eq_ok.1 h
      obtain ⟨⟨s₁, c₃⟩, hs₁, h⟩ := bind_eq_ok.1 h
      exact ih (hmember _ _ _ _ _ hs hs₁) h

/-- A member of a table leaves the keys rising and the values as they have to be. -/
theorem tableMember_invariant {item : Cursor → Except Flaw (Value × Cursor)} {p : Value → Prop}
    (hitem : ∀ c v after, item c = .ok (v, after) → p v) {entries entries' : List (String × Value)} {key : String}
    {c after : Cursor} (h : Rising entries ∧ ∀ e ∈ entries, p e.2)
    (hm : tableMember item entries key c = .ok (entries', after)) : Rising entries' ∧ ∀ e ∈ entries', p e.2 := by
  obtain ⟨c₁, -, hm⟩ := bind_eq_ok.1 hm
  obtain ⟨⟨v, c₂⟩, hv, hm⟩ := bind_eq_ok.1 hm
  obtain ⟨rfl, -⟩ : insertEntry key v entries = entries' ∧ c₂ = after := by simpa using hm
  refine ⟨rising_insertEntry h.1, fun e he => ?_⟩
  rcases mem_insertEntry he with rfl | he
  · exact hitem _ _ _ hv
  · exact h.2 e he

/-! ## Records -/

/-- What was found of a field: a value that is accepted for its shape, or null where the field need not be there. -/
def RecordField.Accepts (p : Shape ρ → Value → Prop) (f : RecordField ρ) : Option Value → Prop
  | some v => p f.shape v
  | none => f.presence ≠ .required

/-- Whatever was found of a field is accepted for it. -/
def Findings.Fit (p : Shape ρ → Value → Prop) (fields : List (RecordField ρ)) (found : Findings) : Prop :=
  ∀ e ∈ found, ∀ f ∈ fields, f.key = e.1 → f.Accepts p e.2

section Findings

variable {p : Shape ρ → Value → Prop} {read : Shape ρ → Cursor → Except Flaw (Value × Cursor)}

/-- What is read of a field is accepted for it. -/
theorem readField_accepts {f : RecordField ρ} (hread : ∀ c v after, read f.shape c = .ok (v, after) → p f.shape v)
    {c after : Cursor} {o : Option Value} (h : readField read f c = .ok (o, after)) : f.Accepts p o := by
  rw [readField] at h
  split at h
  · rename_i hpresence _
    obtain ⟨c₁, -, h⟩ := bind_eq_ok.1 h
    obtain ⟨rfl, -⟩ : none = o ∧ c₁ = after := by simpa using h
    simp [RecordField.Accepts, hpresence]
  · obtain ⟨⟨v, c₁⟩, hv, h⟩ := bind_eq_ok.1 h
    obtain ⟨rfl, -⟩ : some v = o ∧ c₁ = after := by simpa using h
    exact hread _ _ _ hv

/-- One more finding that is accepted for its field keeps the findings fit. -/
theorem Findings.Fit.append {l : Layout ρ} (hd : (l.fields.map (·.key)).Nodup) {found : Findings}
    (h : Findings.Fit p l.fields found) {f : RecordField ρ} (hf : f ∈ l.fields) {o : Option Value} (ho : f.Accepts p o) :
    Findings.Fit p l.fields (found ++ [(f.key, o)]) := by
  intro e he g hg hkey
  rcases List.mem_append.1 he with he | he
  · exact h e he g hg hkey
  · obtain rfl := List.mem_singleton.1 he
    have hsame : g = f := by
      have := Layout.field?_eq_some hd hg
      rw [show g.key = f.key from hkey, Layout.field?_eq_some hd hf] at this
      exact (Option.some.inj this).symm
    exact hsame ▸ ho

/-- Where the findings are fit and no required field is missing, the record lists its fields. -/
theorem listed_assemble {fields : List (RecordField ρ)} {found : Findings} (h : Findings.Fit p fields found)
    (hr : ∀ f ∈ fields, f.presence = .required → (found.lookup f.key).isSome = true) :
    Listed p fields (fields.filterMap fun f => ((found.lookup f.key).join).map fun v => (f.key, v)) := by
  induction fields with
  | nil => exact .nil
  | cons f fields ih =>
    have hrest := ih (fun e he g hg => h e he g (List.mem_cons_of_mem _ hg)) fun g hg => hr g (List.mem_cons_of_mem _ hg)
    have hmem : ∀ o, found.lookup f.key = some o → f.Accepts p o := by
      intro o ho
      obtain ⟨a, b, hfound, -⟩ := List.lookup_eq_some_iff.1 ho
      exact h (f.key, o) (by simp [hfound]) f (by simp) rfl
    rw [List.filterMap_cons]
    cases hl : found.lookup f.key with
    | none => exact .absent (fun hreq => by simpa [hl] using hr f (by simp) hreq) hrest
    | some o =>
      cases o with
      | none => exact .absent (hmem none hl) hrest
      | some v => exact .present (hmem (some v) hl) hrest

/-- A member of a record keeps the findings fit. -/
theorem recordMember_fit {l : Layout ρ} (hd : (l.fields.map (·.key)).Nodup)
    (hread : ∀ f ∈ l.fields, ∀ c v after, read f.shape c = .ok (v, after) → p f.shape v) {found found' : Findings}
    {key : String} {c after : Cursor} (h : Findings.Fit p l.fields found)
    (hm : recordMember read l found key c = .ok (found', after)) : Findings.Fit p l.fields found' := by
  unfold recordMember at hm
  split at hm
  · obtain ⟨c₁, -, hm⟩ := bind_eq_ok.1 hm
    obtain ⟨c₂, -, hm⟩ := bind_eq_ok.1 hm
    obtain ⟨rfl, -⟩ : found = found' ∧ c₂ = after := by simpa using hm
    exact h
  · rename_i f hfield
    split at hm
    · simp at hm
    · obtain ⟨c₁, -, hm⟩ := bind_eq_ok.1 hm
      obtain ⟨⟨o, c₂⟩, ho, hm⟩ := bind_eq_ok.1 hm
      obtain ⟨rfl, -⟩ : found ++ [(key, o)] = found' ∧ c₂ = after := by simpa using hm
      have hf : f ∈ l.fields := List.mem_of_find?_eq_some hfield
      have hkey : f.key = key := by simpa using List.find?_some hfield
      exact hkey ▸ h.append hd hf (readField_accepts (hread f hf) ho)

/-- A record that is read from an object lists its fields. -/
theorem readRecord_listed {l : Layout ρ} (hd : (l.fields.map (·.key)).Nodup)
    (hread : ∀ f ∈ l.fields, ∀ c v after, read f.shape c = .ok (v, after) → p f.shape v) {c after : Cursor} {v : Value}
    (h : readRecord read l c = .ok (v, after)) : ∃ entries, v = .object entries ∧ Listed p l.fields entries := by
  obtain ⟨⟨found, c₁⟩, hm, h⟩ := bind_eq_ok.1 h
  have hfit : Findings.Fit p l.fields found :=
    readMembers_invariant (fun _ _ _ _ _ hs hs' => recordMember_fit hd hread hs hs') (by simp [Findings.Fit]) hm
  simp only at h
  split at h
  · simp at h
  · rename_i hmissing
    obtain ⟨rfl, -⟩ : l.assemble found = v ∧ c₁.drop 1 = after := by simpa using h
    refine ⟨_, rfl, listed_assemble hfit fun f hf hr => ?_⟩
    have := List.find?_eq_none.1 hmissing f hf
    simpa [hr, Option.isSome_iff_ne_none] using this

/-- What is read of the fields of a record that is written as a list is fit, and no required field is missing from it. -/
theorem readPositional_fit {l : Layout ρ} (hd : (l.fields.map (·.key)).Nodup)
    (hread : ∀ f ∈ l.fields, ∀ c v after, read f.shape c = .ok (v, after) → p f.shape v) {fields : List (RecordField ρ)}
    (hfields : ∀ f ∈ fields, f ∈ l.fields) {present : Nat} {found found' : Findings} {c after : Cursor}
    (hfit : Findings.Fit p l.fields found) (h : readPositional read l present found fields c = .ok (found', after)) :
    Findings.Fit p l.fields found' ∧ found <+: found' ∧
      ∀ f ∈ fields, f.presence = .required → (found'.lookup f.key).isSome = true := by
  induction fields generalizing present found c with
  | nil =>
    obtain ⟨rfl, -⟩ : found = found' ∧ c = after := by simpa [readPositional] using h
    exact ⟨hfit, List.prefix_refl _, by simp⟩
  | cons f fields ih =>
    rw [readPositional] at h
    obtain ⟨⟨more, c₁⟩, -, h⟩ := bind_eq_ok.1 h
    have hrest : ∀ g ∈ fields, g ∈ l.fields := fun g hg => hfields g (List.mem_cons_of_mem _ hg)
    cases more with
    | true =>
      obtain ⟨⟨o, c₂⟩, ho, h⟩ := bind_eq_ok.1 h
      have hf := hfields f (by simp)
      obtain ⟨hfit', hpre, hreq⟩ := ih hrest (hfit.append hd hf (readField_accepts (hread f hf) ho)) h
      refine ⟨hfit', (List.prefix_append _ _).trans hpre, fun g hg hr => ?_⟩
      rcases List.mem_cons.1 hg with rfl | hg
      · obtain ⟨more, rfl⟩ := hpre
        rw [List.lookup_append, List.lookup_append]
        simp
      · exact hreq g hg hr
    | false =>
      simp only [Bool.false_eq_true, if_false] at h
      split at h
      · simp at h
      · rename_i hpresence
        obtain ⟨hfit', hpre, hreq⟩ := ih hrest hfit h
        refine ⟨hfit', hpre, fun g hg hr => ?_⟩
        rcases List.mem_cons.1 hg with rfl | hg
        · exact absurd hr hpresence
        · exact hreq g hg hr

end Findings

/-! ## Values -/

section Values

variable [Records ρ]

/-- A label that is read is one of the labels. -/
theorem readLabel_canonical {names : List String} {c after : Cursor} {v : Value} (h : c.readLabel names = .ok (v, after)) :
    Canonical (.label names : Shape ρ) v ∧ v.depth = 0 := by
  obtain ⟨⟨s, c₁⟩, -, h⟩ := bind_eq_ok.1 h
  simp only at h
  split at h
  · rename_i hmem
    obtain ⟨rfl, -⟩ : .string s = v ∧ c₁ = after := by simpa using h
    exact ⟨.label (by simpa using hmem), by simp [Value.depth]⟩
  · simp at h

/-- A label that is read from an object is one of the labels. -/
theorem readLabelObject_canonical {names : List String} {c after : Cursor} {v : Value}
    (h : c.readLabelObject names = .ok (v, after)) : Canonical (.label names : Shape ρ) v ∧ v.depth = 0 := by
  unfold Cursor.readLabelObject at h
  simp only at h
  split at h
  · cases h
  · obtain ⟨⟨w, c₁⟩, hw, h⟩ := bind_eq_ok.1 h
    obtain ⟨c₂, -, h⟩ := bind_eq_ok.1 h
    split at h
    · cases h
    · obtain ⟨c₃, -, h⟩ := bind_eq_ok.1 h
      split at h
      · cases h
      · obtain ⟨rfl, -⟩ : w = v ∧ c₃.skipGap.drop 1 = after := by simpa using h
        exact readLabel_canonical hw
      · cases h
    · cases h
  all_goals cases h

/-- An integer that is read is one of 64 bits. -/
theorem readInteger_canonical {c after : Cursor} {v : Value} (h : c.readInteger = .ok (v, after)) :
    Canonical (.integer : Shape ρ) v ∧ v.depth = 0 := by
  obtain ⟨⟨n, c₁⟩, -, h⟩ := bind_eq_ok.1 h
  cases n with
  | float x => simp at h
  | int n =>
    simp only at h
    split at h
    · rename_i hfits
      obtain ⟨rfl, -⟩ : .number (.int n) = v ∧ c₁ = after := by simpa using h
      exact ⟨.integer hfits, by simp [Value.depth]⟩
    · simp at h

/-- The scalar that starts with the first letter of a flag is that flag. -/
theorem scalar?_flag {c after : Cursor} {v : Value} {x : Char} {tail : List Char} (hc : c.rest = x :: tail)
    (hx : x = 't' ∨ x = 'f') (h : c.scalar?.getD (.error (c.flawAhead .valueExpected)) = .ok (v, after)) :
    Canonical (.flag : Shape ρ) v ∧ v.depth = 0 := by
  rcases hx with rfl | rfl
  all_goals
    simp only [Cursor.scalar?, hc, Option.getD_some] at h
    obtain ⟨c₁, -, h⟩ := map_eq_ok.1 h
    obtain ⟨rfl, -⟩ := Prod.mk.inj h
    exact ⟨.flag _, by simp [Value.depth]⟩

/-- A string that is read for a text or a path. -/
theorem readString_map {c after : Cursor} {v : Value}
    (h : (c.readString.map fun (s, c) => (Value.string s, c)) = .ok (v, after)) : ∃ s, v = .string s ∧ v.depth = 0 := by
  obtain ⟨⟨s, c₁⟩, -, h⟩ := map_eq_ok.1 h
  obtain ⟨rfl, -⟩ := Prod.mk.inj h
  exact ⟨s, rfl, by simp [Value.depth]⟩

/-- A scalar that is read for a shape is canonical. -/
theorem readFlat_canonical {shape : Shape ρ} (hplain : shape.Plain) {x : Char} {tail : List Char} {c after : Cursor}
    {v : Value} (hc : c.rest = x :: tail) (h : readFlat shape x c = .ok (v, after)) : Canonical shape v ∧ v.depth = 0 := by
  cases shape with
  | text =>
    simp only [readFlat] at h
    split at h
    · obtain ⟨s, rfl, hd⟩ := readString_map h
      exact ⟨.text s, hd⟩
    · simp at h
  | path =>
    simp only [readFlat] at h
    split at h
    · obtain ⟨s, rfl, hd⟩ := readString_map h
      exact ⟨.path s, hd⟩
    · simp at h
  | flag =>
    simp only [readFlat] at h
    split at h
    · rename_i hx
      exact scalar?_flag hc (by simpa using hx) h
    · simp at h
  | integer =>
    simp only [readFlat] at h
    split at h
    · exact readInteger_canonical h
    · simp at h
  | label names =>
    simp only [readFlat] at h
    split at h
    · exact readLabel_canonical h
    · simp at h
  | list | table | record => simp [readFlat] at h
  | any => exact hplain.elim

/-- A value in brackets that is read for a shape is canonical where the values inside are. -/
theorem readNested_canonical (hp : Records.Proper ρ) {depth : Nat} {read : Shape ρ → Cursor → Except Flaw (Value × Cursor)}
    (hread : ∀ shape : Shape ρ, shape.Plain → ∀ c v after, read shape c = .ok (v, after) →
      Canonical shape v ∧ v.depth ≤ depth)
    {shape : Shape ρ} (hplain : shape.Plain) {x : Char} (hx : shape.opensWith x = true) {c after : Cursor} {v : Value}
    (h : readNested read shape x c = .ok (v, after)) : Canonical shape v ∧ v.depth ≤ depth + 1 := by
  cases shape with
  | text | path | flag | integer => simp [Shape.opensWith] at hx
  | any => exact hplain.elim
  | list item =>
    obtain ⟨⟨items, c₁⟩, hitems, h⟩ := bind_eq_ok.1 h
    obtain ⟨rfl, -⟩ : .array items = v ∧ c₁ = after := by simpa using h
    have hall := readItems_forall (hread item hplain) hitems
    refine ⟨.list fun v hv => (hall v hv).1, ?_⟩
    rw [Value.depth, Nat.add_le_add_iff_right, depthOfItems_le_iff]
    exact fun v hv => (hall v hv).2
  | table item =>
    obtain ⟨⟨entries, c₁⟩, hentries, h⟩ := bind_eq_ok.1 h
    obtain ⟨rfl, -⟩ : .object entries = v ∧ c₁.drop 1 = after := by simpa using h
    obtain ⟨hrising, hall⟩ := readMembers_invariant
      (fun _ _ _ _ _ hs hs' => tableMember_invariant (hread item hplain) hs hs') ⟨rising_nil, by simp⟩ hentries
    refine ⟨.table hrising fun e he => (hall e he).1, ?_⟩
    rw [Value.depth, Nat.add_le_add_iff_right, depthOfEntries_le_iff]
    exact fun e he => (hall e he).2
  | label names =>
    obtain ⟨hv, hd⟩ := readLabelObject_canonical (ρ := ρ) h
    exact ⟨hv, by omega⟩
  | record r =>
    have hfields : ∀ f ∈ (Records.layout r).fields, ∀ c v after, read f.shape c = .ok (v, after) →
        Canonical f.shape v ∧ v.depth ≤ depth := fun f hf => hread f.shape (hp.plain r f hf)
    have hlisted : ∃ entries, v = .object entries ∧
        Listed (fun shape v => Canonical shape v ∧ v.depth ≤ depth) (Records.layout r).fields entries := by
      simp only [readNested] at h
      split at h
      · exact readRecord_listed (hp.distinct r) hfields h
      · obtain ⟨⟨found, c₁⟩, hfound, h⟩ := bind_eq_ok.1 h
        obtain ⟨c₂, -, h⟩ := bind_eq_ok.1 h
        obtain ⟨rfl, -⟩ : (Records.layout r).assemble found = v ∧ c₂ = after := by simpa using h
        obtain ⟨hfit, -, hreq⟩ := readPositional_fit (p := fun shape v => Canonical shape v ∧ v.depth ≤ depth)
          (hp.distinct r) hfields (fun _ hf => hf) (by simp [Findings.Fit]) hfound
        exact ⟨_, rfl, listed_assemble hfit hreq⟩
    obtain ⟨entries, rfl, hlisted⟩ := hlisted
    refine ⟨.record (hlisted.imp_of_mem fun _ _ _ hv => hv.1), ?_⟩
    rw [Value.depth, Nat.add_le_add_iff_right, depthOfEntries_le_iff]
    intro e he
    obtain ⟨_, _, _, hv⟩ := hlisted.exists_field e he
    exact hv.2

/-- What is read for a shape is canonical, and nests no deeper than the reader goes. -/
theorem readShape_canonical (hp : Records.Proper ρ) {shape : Shape ρ} (hplain : shape.Plain) {depth : Nat}
    {c after : Cursor} {v : Value} (h : readShape depth shape c = .ok (v, after)) :
    Canonical shape v ∧ v.depth ≤ depth := by
  induction depth generalizing shape c v after with
  | zero =>
    simp only [readShape] at h
    split at h
    · simp at h
    · rename_i hc
      split at h
      · simp at h
      · obtain ⟨hv, hd⟩ := readFlat_canonical hplain hc h
        exact ⟨hv, by omega⟩
  | succ depth ih =>
    simp only [readShape] at h
    split at h
    · simp at h
    · rename_i hc
      split at h
      · rename_i hx
        exact readNested_canonical hp (fun shape hplain c v after h => ih hplain h) hplain hx h
      · obtain ⟨hv, hd⟩ := readFlat_canonical hplain hc h
        exact ⟨hv, by omega⟩

/-- Whatever a whole text is read as is canonical, and nests no deeper than a text may. -/
theorem Shape.read_canonical (hp : Records.Proper ρ) {shape : Shape ρ} (hplain : shape.Plain) {text : List Char} {v : Value}
    (h : shape.read text = .ok v) : Canonical shape v ∧ v.depth ≤ nestingLimit := by
  obtain ⟨⟨w, c₁⟩, hw, h⟩ := bind_eq_ok.1 h
  simp only at h
  split at h
  · obtain rfl : w = v := by simpa using h
    exact readShape_canonical hp hplain hw
  · simp at h

end Values

end RenderCatalog.Json
