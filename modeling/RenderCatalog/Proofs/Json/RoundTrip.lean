import RenderCatalog.Proofs.Json.Printed

/-!
# The way back from a text

A canonical value is read back from its text (`read_render`), for every shape, every style that puts only blanks between the
parts and every value that nests no deeper than the reader goes; blanks behind the text do not matter. The induction is on the
depth that is left to the reader: the values inside a list, a table or a record are read back by what is known of smaller
depths, and `Takes` says of each member how it is added to those before it.
-/

namespace RenderCatalog.Json

variable {ρ : Type} {style : Style}

/-! ## Members -/

/-- Past the colon that stands at the cursor. -/
theorem colon_cons (rest : List Char) (offset : Nat) :
    ∃ o, (Cursor.mk (':' :: rest) offset).colon = .ok ⟨rest, o⟩ := by
  refine ⟨offset + byteCount [':'], ?_⟩
  rw [Cursor.colon, skipGap_cons (by decide)]
  rfl

/-- A member of a table goes behind those with lesser keys. -/
theorem takes_tableMember (hs : style.Blank) {read : Cursor → Except Flaw (Value × Cursor)}
    {entries : List (String × Value)} {e : String × Value} (hread : Reads style read e.2)
    (hopen : ∀ k, ∃ x tail, e.2.render style k = x :: tail ∧ Opens x) (hlt : ∀ x ∈ entries, x.1 < e.1) :
    Takes style (tableMember read) entries e (entries ++ [e]) := by
  intro k rest offset hstop
  obtain ⟨o₁, h₁⟩ := colon_cons (style.afterColon ++ (e.2.render style k ++ rest)) offset
  obtain ⟨o, h⟩ := hread k rest ⟨style.afterColon ++ (e.2.render style k ++ rest), o₁⟩
    (by rw [skipGap_render (hopen k) _ hs.afterColon]) hstop
  refine ⟨o, ?_⟩
  simp only [tableMember, h₁, bind, Except.bind, h, insertEntry_of_forall_lt hlt]

/-- A field that has a value is read as that value. -/
theorem readField_render (hs : style.Blank) {read : Shape ρ → Cursor → Except Flaw (Value × Cursor)} {f : RecordField ρ}
    {v : Value} (hread : Reads style (read f.shape) v) {k : Nat}
    (hopen : ∃ x tail, v.render style k = x :: tail ∧ Opens x) {rest : List Char} (hstop : Stops rest) (offset : Nat) :
    ∃ o, readField read f ⟨style.afterColon ++ (v.render style k ++ rest), offset⟩ = .ok (some v, ⟨rest, o⟩) := by
  obtain ⟨o, h⟩ := hread k rest ⟨v.render style k ++ rest, offset + style.afterColon.length⟩
    (rest_skipGap_render hopen _ _) hstop
  refine ⟨o, ?_⟩
  rw [readField, skipGap_render hopen _ hs.afterColon]
  obtain ⟨x, tail, hx, ho⟩ := hopen
  rw [hx, List.cons_append] at h ⊢
  split
  · rename_i heq
    exact absurd (List.cons.inj heq).1 ho.ne.2.2.2.2
  · simp only [bind, Except.bind, h]

/-- The findings that entries make. -/
def foundIn (entries : List (String × Value)) : Findings := entries.map fun e => (e.1, some e.2)

/-- What is found of a key is its value. -/
theorem lookup_foundIn (entries : List (String × Value)) (key : String) :
    (foundIn entries).lookup key = (entries.lookup key).map some := by
  induction entries with
  | nil => rfl
  | cons e rest ih =>
    obtain ⟨k, v⟩ := e
    simp only [foundIn, List.map_cons, List.lookup_cons] at ih ⊢
    split
    · rfl
    · exact ih

/-- A member of a record that has not come before is found. -/
theorem takes_recordMember (hs : style.Blank) {read : Shape ρ → Cursor → Except Flaw (Value × Cursor)} {l : Layout ρ}
    (hd : (l.fields.map (·.key)).Nodup) {entries : List (String × Value)} {e : String × Value} {f : RecordField ρ}
    (hf : f ∈ l.fields) (hkey : f.key = e.1) (hread : Reads style (read f.shape) e.2)
    (hopen : ∀ k, ∃ x tail, e.2.render style k = x :: tail ∧ Opens x) (hnew : ∀ x ∈ entries, x.1 ≠ e.1) :
    Takes style (recordMember read l) (foundIn entries) e (foundIn (entries ++ [e])) := by
  intro k rest offset hstop
  have hfield : l.field? e.1 = some f := hkey ▸ Layout.field?_eq_some hd hf
  have hnone : entries.lookup e.1 = none := by
    rw [List.lookup_eq_none_iff]
    intro x hx
    exact bne_iff_ne.2 (hnew x hx).symm
  obtain ⟨o₁, h₁⟩ := colon_cons (style.afterColon ++ (e.2.render style k ++ rest)) offset
  obtain ⟨o, h⟩ := readField_render hs hread (hopen k) hstop o₁
  refine ⟨o, ?_⟩
  simp only [recordMember, hfield, lookup_foundIn, hnone, Option.map_none, Option.isSome_none, Bool.false_eq_true, if_false,
    h₁, bind, Except.bind, h]
  simp [foundIn]

/-! ## Records -/

/-- Entries that list the fields of a record lack none of them. -/
theorem Listed.missing?_foundIn {p : Shape ρ → Value → Prop} {l : Layout ρ} {entries : List (String × Value)}
    (h : Listed p l.fields entries) : l.missing? (foundIn entries) = none := by
  rw [Layout.missing?, List.find?_eq_none]
  intro f hf
  simp only [Bool.and_eq_true, beq_iff_eq, not_and, lookup_foundIn]
  intro hr
  have := h.lookup_isSome hf hr
  cases hl : entries.lookup f.key with
  | none => simp [hl] at this
  | some v => simp

/-- Entries that list the fields of a record in their order make that record up. -/
theorem Listed.assemble_foundIn {p : Shape ρ → Value → Prop} {l : Layout ρ} {entries : List (String × Value)}
    (h : Listed p l.fields entries) (hd : (l.fields.map (·.key)).Nodup) :
    l.assemble (foundIn entries) = .object entries := by
  have hjoin : (fun f : RecordField ρ => (((foundIn entries).lookup f.key).join).map fun v => (f.key, v)) =
      fun f => (entries.lookup f.key).map fun v => (f.key, v) := by
    funext f
    rw [lookup_foundIn]
    cases entries.lookup f.key <;> rfl
  rw [Layout.assemble, hjoin, h.filterMap_lookup hd]

/-- A printed record is read back from after its opening bracket on. -/
theorem readRecord_render [Records ρ] (hs : style.Blank) (read : Shape ρ → Cursor → Except Flaw (Value × Cursor))
    {l : Layout ρ} (hd : (l.fields.map (·.key)).Nodup) {entries : List (String × Value)} (h : Listed Canonical l.fields entries)
    (hread : ∀ shape, ∀ e ∈ entries, Canonical shape e.2 → Reads style (read shape) e.2) {k : Nat} (rest : List Char)
    {c : Cursor} (hc : '{' :: c.rest = (Value.object entries).render style k ++ rest) :
    ∃ o, readRecord read l c = .ok (.object entries, ⟨rest, o⟩) := by
  have htake : ∀ f e b, entries = f ++ e :: b → Takes style (recordMember read l) (foundIn f) e (foundIn (f ++ [e])) := by
    intro f e b heq
    have he : e ∈ entries := by simp [heq]
    obtain ⟨field, hf, hkey, hv⟩ := h.exists_field e he
    refine takes_recordMember hs hd hf hkey (hread _ e he hv) (hv.exists_opens style) fun x hx => ?_
    have hnodup := h.keys_sublist.nodup hd
    rw [heq, List.map_append] at hnodup
    exact (List.nodup_append.1 hnodup).2.2 _ (List.mem_map_of_mem hx) _ (by simp)
  obtain ⟨o, ho⟩ := readMembers_render hs foundIn htake rest hc
  refine ⟨o + byteCount ['}'], ?_⟩
  have hempty : foundIn [] = [] := rfl
  rw [hempty] at ho
  simp only [readRecord, ho, bind, Except.bind, h.missing?_foundIn, h.assemble_foundIn hd]
  rfl

/-! ## Values -/

section Values

variable [Records ρ]

/-- A value that does not start with a bracket of its shape is read as a scalar. -/
theorem readShape_flat {shape : Shape ρ} {c : Cursor} {x : Char} {tail : List Char} (hc : c.skipGap.rest = x :: tail)
    (hx : shape.opensWith x = false) (depth : Nat) : readShape depth shape c = readFlat shape x c.skipGap := by
  cases depth <;> simp [readShape, hc, hx]

/-- A value that starts with a bracket of its shape is read from after that bracket on, one depth further in. -/
theorem readShape_nested {shape : Shape ρ} {c : Cursor} {x : Char} {tail : List Char} (hc : c.skipGap.rest = x :: tail)
    (hx : shape.opensWith x = true) (depth : Nat) :
    readShape (depth + 1) shape c = readNested (readShape depth) shape x (c.skipGap.drop 1) := by
  simp [readShape, hc, hx]

/-- A scalar is read back where it is read back from its own text. -/
theorem reads_of_readFlat {shape : Shape ρ} {v : Value} {x : Char} (hopen : ∀ k, ∃ tail, v.render style k = x :: tail)
    (hx : shape.opensWith x = false)
    (hflat : ∀ k rest offset, Stops rest →
      ∃ o, readFlat shape x ⟨v.render style k ++ rest, offset⟩ = .ok (v, ⟨rest, o⟩)) (depth : Nat) :
    Reads style (readShape depth shape) v := by
  intro k rest c hc hstop
  obtain ⟨tail, ht⟩ := hopen k
  have hstart : c.skipGap.rest = x :: (tail ++ rest) := by rw [hc, ht, List.cons_append]
  have hcursor : c.skipGap = ⟨v.render style k ++ rest, c.skipGap.offset⟩ := by rw [← hc]
  rw [readShape_flat hstart hx, hcursor]
  exact hflat k rest _ hstop

/-- A value in brackets is read back where what is inside them is. -/
theorem reads_of_readNested {shape : Shape ρ} {v : Value} {x : Char}
    (hopen : ∀ k, ∃ tail, v.render style k = x :: tail) (hx : shape.opensWith x = true) {depth : Nat}
    (hnested : ∀ k rest c, x :: c.rest = v.render style k ++ rest →
      ∃ o, readNested (readShape depth) shape x c = .ok (v, ⟨rest, o⟩)) :
    Reads style (readShape (depth + 1) shape) v := by
  intro k rest c hc _
  obtain ⟨tail, ht⟩ := hopen k
  have hstart : c.skipGap.rest = x :: (tail ++ rest) := by rw [hc, ht, List.cons_append]
  rw [readShape_nested hstart hx]
  refine hnested k rest _ ?_
  rw [← hc, hstart]
  simp [Cursor.drop, hstart]

/-- A string is read back as a text. -/
theorem reads_string {shape : Shape ρ} {s : String} (hx : shape.opensWith '"' = false)
    (hread : ∀ c after, Cursor.readString c = .ok (s, after) → readFlat shape '"' c = .ok (.string s, after)) (depth : Nat) :
    Reads style (readShape depth shape) (.string s) := by
  refine reads_of_readFlat (fun k => ⟨_, by rw [Value.render, stringText]⟩) hx (fun k rest offset _ => ?_) depth
  obtain ⟨o, h⟩ := readString_stringText s rest offset
  exact ⟨o, by rw [Value.render]; exact hread _ _ h⟩

/-- A flag is read back. -/
theorem reads_flag (b : Bool) (depth : Nat) : Reads style (readShape depth (.flag : Shape ρ)) (.bool b) := by
  cases b
  · exact reads_of_readFlat (fun k => ⟨_, by rw [Value.render]⟩) rfl (fun k rest offset _ => ⟨_, by rw [Value.render]; rfl⟩) depth
  · exact reads_of_readFlat (fun k => ⟨_, by rw [Value.render]⟩) rfl (fun k rest offset _ => ⟨_, by rw [Value.render]; rfl⟩) depth

/-- An integer of 64 bits is read back. -/
theorem reads_integer {n : Int} (hn : fitsInteger n = true) (depth : Nat) :
    Reads style (readShape depth (.integer : Shape ρ)) (.number (.int n)) := by
  obtain ⟨x, tail, ht, hx⟩ := intText_eq_cons n
  refine reads_of_readFlat (x := x) (fun k => ⟨tail, by rw [Value.render]; exact ht⟩) rfl (fun k rest offset hstop => ?_) depth
  obtain ⟨o, h⟩ := readNumber_intText hn hstop offset
  refine ⟨o, ?_⟩
  have hsign : (decide (x = '-') || x.isDigit) = true := by
    rcases hx with rfl | hx
    · rfl
    · simp [hx]
  rw [Value.render]
  simp only [readFlat, Number.text, Cursor.readInteger, hsign, h, bind, Except.bind, hn, if_true]

/-- A canonical value is read back wherever its text stands, when it nests no deeper than the reader goes. -/
theorem Canonical.reads (hp : Records.Proper ρ) (hs : style.Blank) {shape : Shape ρ} {v : Value} (h : Canonical shape v)
    {depth : Nat} (hd : v.depth ≤ depth) : Reads style (readShape depth shape) v := by
  induction depth using Nat.strongRecOn generalizing shape v with
  | ind depth ih =>
    cases h with
    | text s => exact reads_string rfl (fun c after hr => by simp [readFlat, hr, Except.map]) depth
    | path s => exact reads_string rfl (fun c after hr => by simp [readFlat, hr, Except.map]) depth
    | flag b => exact reads_flag b depth
    | integer fits => exact reads_integer fits depth
    | @label names s known =>
      refine reads_string rfl (fun c after hr => ?_) depth
      simp [readFlat, Cursor.readLabel, hr, bind, Except.bind, known]
    | @list item items each =>
      obtain ⟨depth, rfl⟩ := Nat.exists_eq_succ_of_ne_zero (by rw [Value.depth] at hd; omega : depth ≠ 0)
      have hin : ∀ v ∈ items, v.depth ≤ depth := depthOfItems_le_iff.1 (by rw [Value.depth] at hd; omega)
      refine reads_of_readNested (x := '[') (fun k => ?_) rfl fun k rest c hc => ?_
      · cases items <;> exact ⟨_, by rw [Value.render]⟩
      · obtain ⟨o, ho⟩ := readItems_render hs (readShape depth item)
          (fun v hv => ih depth (by omega) (each v hv) (hin v hv)) (fun v hv => (each v hv).exists_opens style) rest hc
        exact ⟨o, by simp only [readNested, bind, Except.bind, ho]⟩
    | @table item entries rising each =>
      obtain ⟨depth, rfl⟩ := Nat.exists_eq_succ_of_ne_zero (by rw [Value.depth] at hd; omega : depth ≠ 0)
      have hin : ∀ e ∈ entries, e.2.depth ≤ depth := depthOfEntries_le_iff.1 (by rw [Value.depth] at hd; omega)
      refine reads_of_readNested (x := '{') (fun k => ?_) rfl fun k rest c hc => ?_
      · cases entries <;> exact ⟨_, by rw [Value.render]⟩
      · have htake : ∀ f e b, entries = f ++ e :: b → Takes style (tableMember (readShape depth item)) f e (f ++ [e]) := by
          intro f e b heq
          have he : e ∈ entries := by simp [heq]
          refine takes_tableMember hs (ih depth (by omega) (each e he) (hin e he)) ((each e he).exists_opens style) ?_
          intro x hx
          rw [heq] at rising
          exact (List.pairwise_append.1 rising).2.2 x hx e (by simp)
        obtain ⟨o, ho⟩ := readMembers_render hs id htake rest hc
        refine ⟨o + byteCount ['}'], ?_⟩
        simp only [id] at ho
        simp only [readNested, bind, Except.bind, ho]
        rfl
    | @record r entries fields =>
      obtain ⟨depth, rfl⟩ := Nat.exists_eq_succ_of_ne_zero (by rw [Value.depth] at hd; omega : depth ≠ 0)
      have hin : ∀ e ∈ entries, e.2.depth ≤ depth := depthOfEntries_le_iff.1 (by rw [Value.depth] at hd; omega)
      refine reads_of_readNested (x := '{') (fun k => ?_) rfl fun k rest c hc => ?_
      · cases entries <;> exact ⟨_, by rw [Value.render]⟩
      · obtain ⟨o, ho⟩ := readRecord_render hs (readShape depth) (hp.distinct r) fields
          (fun shape e he hv => ih depth (by omega) hv (hin e he)) rest hc
        exact ⟨o, by simp only [readNested, if_true, ho]⟩

/-- A canonical value is read back from its text, when it nests no deeper than a text may. -/
theorem read_render (hp : Records.Proper ρ) (hs : style.Blank) {shape : Shape ρ} {v : Value} (h : Canonical shape v)
    (hd : v.depth ≤ nestingLimit) {trailing : List Char} (ht : ∀ x ∈ trailing, isGap x = true) :
    shape.read (v.render style 0 ++ trailing) = .ok v := by
  have hstop : Stops trailing := fun x hx => Or.inl (ht x (List.mem_of_mem_head? hx))
  obtain ⟨o, ho⟩ := h.reads hp hs hd 0 trailing (.ofText (v.render style 0 ++ trailing))
    (rest_skipGap_render (h.exists_opens style 0) trailing 0) hstop
  have hend : ((Cursor.mk trailing o).skipGap).rest.isEmpty = true := by rw [skipGap_blank ht]; rfl
  simp only [Shape.read, ho, bind, Except.bind, hend, if_true]

end Values

end RenderCatalog.Json
