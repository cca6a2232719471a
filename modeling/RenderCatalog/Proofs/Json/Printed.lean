import RenderCatalog.Proofs.Json.Canonical
import RenderCatalog.Proofs.Json.Scalars

/-!
# Reading what was printed

A canonical value is read back from its text: `read_render` says so for every shape, for every style that puts only blanks
between the parts, and for every value that nests no deeper than a reader goes. The induction is on the depth that is left
to the reader; `Reads` is what it says of the values inside, and the readers of items and of members carry it along the
lists that they read.
-/

namespace RenderCatalog.Json

variable {ρ : Type} [Records ρ]

/-- A style that puts only blanks between the parts. -/
structure Style.Blank (style : Style) : Prop where
  gap : ∀ n, ∀ x ∈ style.gap n, isGap x = true
  afterColon : ∀ x ∈ style.afterColon, isGap x = true

/-- The compact style puts nothing between the parts. -/
theorem Style.compact_blank : Style.compact.Blank := ⟨by simp [Style.compact], by simp [Style.compact]⟩

/-- The indented style puts line ends and spaces between the parts. -/
theorem Style.indented_blank : Style.indented.Blank := by
  refine ⟨fun n x hx => ?_, fun x hx => ?_⟩
  · rcases List.mem_cons.1 hx with rfl | hx
    · rfl
    · rw [List.eq_of_mem_replicate hx]; rfl
  · rw [List.mem_singleton.1 hx]; rfl

/-! ## How a canonical value starts -/

/-- A character that a canonical value may start with. -/
def Opens (x : Char) : Prop := x = '"' ∨ x = 't' ∨ x = 'f' ∨ x = '-' ∨ x.isDigit = true ∨ x = '[' ∨ x = '{'

/-- A value does not start with a blank, with what ends or divides a list, or as null does. -/
theorem Opens.ne {x : Char} (h : Opens x) :
    isGap x = false ∧ x ≠ ']' ∧ x ≠ '}' ∧ x ≠ ',' ∧ x ≠ 'n' := by
  rcases h with rfl | rfl | rfl | rfl | h | rfl | rfl
  any_goals decide
  refine ⟨?_, ?_, ?_, ?_, ?_⟩
  · rw [Bool.eq_false_iff]
    intro hgap
    simp only [isGap, Bool.or_eq_true, beq_iff_eq] at hgap
    rcases hgap with ((rfl | rfl) | rfl) | rfl <;> exact absurd h (by decide)
  all_goals rintro rfl; exact absurd h (by decide)

/-- A printed integer starts with its sign or with a digit. -/
theorem intText_eq_cons (n : Int) : ∃ x tail, intText n = x :: tail ∧ (x = '-' ∨ x.isDigit = true) := by
  by_cases h : n < 0
  · exact ⟨'-', Nat.toDigits 10 n.natAbs, by simp [intText, h], Or.inl rfl⟩
  · obtain ⟨d, ds, hds⟩ := List.exists_cons_of_ne_nil (Nat.toDigits_ne_nil (n := n.natAbs) (b := 10))
    refine ⟨d, ds, by simp [intText, h, hds], Or.inr ?_⟩
    exact Nat.isDigit_of_mem_toDigits (b := 10) (n := n.natAbs) (by omega) (by omega) (by simp [hds])

/-- The text of a canonical value starts as values do. -/
theorem Canonical.exists_opens {shape : Shape ρ} {v : Value} (h : Canonical shape v) (style : Style) (k : Nat) :
    ∃ x tail, v.render style k = x :: tail ∧ Opens x := by
  cases h with
  | text | path | label => exact ⟨'"', _, by rw [Value.render, stringText], by simp [Opens]⟩
  | flag b =>
    cases b
    · exact ⟨'f', _, by rw [Value.render], by simp [Opens]⟩
    · exact ⟨'t', _, by rw [Value.render], by simp [Opens]⟩
  | @integer n _ =>
    obtain ⟨x, tail, hx, ho⟩ := intText_eq_cons n
    refine ⟨x, tail, by rw [Value.render]; exact hx, ?_⟩
    rcases ho with h | h <;> simp [Opens, h]
  | @list _ items _ => cases items <;> exact ⟨'[', _, by rw [Value.render], by simp [Opens]⟩
  | @table _ entries _ _ =>
    cases entries with
    | nil => exact ⟨'{', _, by rw [Value.render], by simp [Opens]⟩
    | cons e rest => obtain ⟨key, v⟩ := e; exact ⟨'{', _, by rw [Value.render], by simp [Opens]⟩
  | @record _ entries _ =>
    cases entries with
    | nil => exact ⟨'{', _, by rw [Value.render], by simp [Opens]⟩
    | cons e rest => obtain ⟨key, v⟩ := e; exact ⟨'{', _, by rw [Value.render], by simp [Opens]⟩

/-! ## Values and what follows them -/

/-- A reader gives a value back wherever its text stands at the cursor, perhaps after blanks, and nothing that would prolong
a number follows. -/
def Reads (style : Style) (read : Cursor → Except Flaw (Value × Cursor)) (v : Value) : Prop :=
  ∀ (k : Nat) (rest : List Char) (c : Cursor), c.skipGap.rest = v.render style k ++ rest → Stops rest →
    ∃ o, read c = .ok (v, ⟨rest, o⟩)

/-- A value stands at a cursor after blanks. -/
theorem skipGap_render {v : Value} {style : Style} {k : Nat} (hopen : ∃ x tail, v.render style k = x :: tail ∧ Opens x)
    (gap : List Char) (hgap : ∀ x ∈ gap, isGap x = true) (rest : List Char) (offset : Nat) :
    (Cursor.mk (gap ++ (v.render style k ++ rest)) offset).skipGap = ⟨v.render style k ++ rest, offset + gap.length⟩ := by
  obtain ⟨x, tail, hx, ho⟩ := hopen
  rw [hx, List.cons_append]
  exact skipGap_append gap hgap ho.ne.1 offset

/-- A value stands at a cursor. -/
theorem rest_skipGap_render {v : Value} {style : Style} {k : Nat}
    (hopen : ∃ x tail, v.render style k = x :: tail ∧ Opens x) (rest : List Char) (offset : Nat) :
    (Cursor.mk (v.render style k ++ rest) offset).skipGap.rest = v.render style k ++ rest := by
  have := skipGap_render hopen [] (by simp) rest offset
  rw [List.nil_append] at this
  rw [this]

/-- Further items or entries, the blanks before the closing bracket and that bracket end a number. -/
theorem stops_of_comma_or_gap {front gap : List Char} (rest : List Char) {closer : Char} (hgap : ∀ x ∈ gap, isGap x = true)
    (hcloser : closer = ']' ∨ closer = '}') (hfront : front = [] ∨ ∃ tail, front = ',' :: tail) :
    Stops (front ++ (gap ++ closer :: rest)) := by
  intro x hx
  rcases hfront with rfl | ⟨tail, rfl⟩
  · cases gap with
    | nil =>
      obtain rfl : closer = x := by simpa using hx
      rcases hcloser with rfl | rfl <;> simp
    | cons y gap =>
      obtain rfl : y = x := by simpa using hx
      exact Or.inl (hgap _ (by simp))
  · obtain rfl : ',' = x := by simpa using hx
    simp

theorem renderItems_comma (style : Style) (k : Nat) (items : List Value) :
    renderItems style k items = [] ∨ ∃ tail, renderItems style k items = ',' :: tail := by
  cases items with
  | nil => exact Or.inl rfl
  | cons v rest => exact Or.inr ⟨_, by rw [renderItems]⟩

theorem renderEntries_comma (style : Style) (k : Nat) (entries : List (String × Value)) :
    renderEntries style k entries = [] ∨ ∃ tail, renderEntries style k entries = ',' :: tail := by
  cases entries with
  | nil => exact Or.inl rfl
  | cons e rest => obtain ⟨key, v⟩ := e; exact Or.inr ⟨_, by rw [renderEntries]⟩

/-- Each further item takes a character at least. -/
theorem length_le_renderItems (style : Style) (k : Nat) (items : List Value) :
    items.length ≤ (renderItems style k items).length := by
  induction items with
  | nil => simp
  | cons v rest ih => simp only [renderItems, List.length_cons, List.length_append]; omega

/-- Each further entry takes a character at least. -/
theorem length_le_renderEntries (style : Style) (k : Nat) (entries : List (String × Value)) :
    entries.length ≤ (renderEntries style k entries).length := by
  induction entries with
  | nil => simp
  | cons e rest ih =>
    obtain ⟨key, v⟩ := e
    simp only [renderEntries, List.length_cons, List.length_append]
    omega

/-! ## Lists -/

section Lists

variable {style : Style} {read : Cursor → Except Flaw (Value × Cursor)} {k : Nat}

/-- At the closing bracket of a list there are no more items. -/
theorem moreItems_close (first : Bool) (gap : List Char) (hgap : ∀ x ∈ gap, isGap x = true) (rest : List Char)
    (offset : Nat) :
    ∃ o, (Cursor.mk (gap ++ ']' :: rest) offset).moreItems first = .ok (false, ⟨']' :: rest, o⟩) := by
  refine ⟨offset + gap.length, ?_⟩
  rw [Cursor.moreItems, skipGap_append gap hgap (by decide)]
  rfl

/-- A first item follows where one stands. -/
theorem moreItems_first {v : Value} (hopen : ∃ x tail, v.render style k = x :: tail ∧ Opens x) {gap : List Char}
    (hgap : ∀ x ∈ gap, isGap x = true) (rest : List Char) (offset : Nat) :
    ∃ o, (Cursor.mk (gap ++ (v.render style k ++ rest)) offset).moreItems true =
      .ok (true, ⟨v.render style k ++ rest, o⟩) := by
  refine ⟨offset + gap.length, ?_⟩
  rw [Cursor.moreItems, skipGap_render hopen gap hgap]
  obtain ⟨x, tail, hx, ho⟩ := hopen
  have hclose := ho.ne.2.1
  simp [hx]

/-- A further item follows after a comma. -/
theorem moreItems_next {v : Value} (hopen : ∃ x tail, v.render style k = x :: tail ∧ Opens x) {gap : List Char}
    (hgap : ∀ x ∈ gap, isGap x = true) (rest : List Char) (offset : Nat) :
    ∃ o, (Cursor.mk (',' :: (gap ++ (v.render style k ++ rest))) offset).moreItems false =
      .ok (true, ⟨v.render style k ++ rest, o⟩) := by
  refine ⟨offset + byteCount [','] + gap.length, ?_⟩
  have hskip : (Cursor.drop ⟨',' :: (gap ++ (v.render style k ++ rest)), offset⟩ 1).skipGap =
      ⟨v.render style k ++ rest, offset + byteCount [','] + gap.length⟩ := skipGap_render hopen gap hgap rest _
  rw [Cursor.moreItems, skipGap_cons (by decide)]
  simp only [Bool.false_eq_true, if_false, hskip]
  obtain ⟨x, tail, hx, ho⟩ := hopen
  have hclose := ho.ne.2.1
  simp [hx, hclose]

/-- Further items are read up to the closing bracket. -/
theorem readItems_renderItems (hs : style.Blank) {gap : List Char} (hgap : ∀ x ∈ gap, isGap x = true) (rest : List Char)
    {items : List Value} (hread : ∀ v ∈ items, Reads style read v)
    (hopen : ∀ v ∈ items, ∃ x tail, v.render style k = x :: tail ∧ Opens x) (rounds : Nat) (hr : items.length < rounds)
    (offset : Nat) :
    ∃ o, readItems read rounds false ⟨renderItems style k items ++ (gap ++ ']' :: rest), offset⟩ =
      .ok (items, ⟨rest, o⟩) := by
  induction items generalizing rounds offset with
  | nil =>
    obtain ⟨rounds, rfl⟩ := Nat.exists_eq_succ_of_ne_zero (by simpa using hr.ne')
    obtain ⟨o, ho⟩ := moreItems_close false gap hgap rest offset
    refine ⟨o + byteCount [']'], ?_⟩
    simp only [readItems, renderItems, List.nil_append, ho]
    rfl
  | cons v items ih =>
    obtain ⟨rounds, rfl⟩ := Nat.exists_eq_succ_of_ne_zero (by omega : rounds ≠ 0)
    have hstop := stops_of_comma_or_gap rest hgap (Or.inl rfl) (renderItems_comma style k items)
    obtain ⟨o₁, h₁⟩ := moreItems_next (hopen v (by simp)) (hs.gap k)
      (renderItems style k items ++ (gap ++ ']' :: rest)) offset
    obtain ⟨o₂, h₂⟩ := hread v (by simp) k _ _ (rest_skipGap_render (hopen v (by simp)) _ o₁) hstop
    obtain ⟨o, h⟩ := ih (fun w hw => hread w (List.mem_cons_of_mem _ hw)) (fun w hw => hopen w (List.mem_cons_of_mem _ hw))
      rounds (by simpa using hr) o₂
    refine ⟨o, ?_⟩
    simp only [readItems, renderItems, List.cons_append, List.append_assoc, h₁]
    simp only [bind, Except.bind, if_true, h₂, h]

/-- The items of a printed list are read up to its closing bracket. -/
theorem readItems_render (hs : style.Blank) (read : Cursor → Except Flaw (Value × Cursor)) {items : List Value} (hread : ∀ v ∈ items, Reads style read v)
    (hopen : ∀ v ∈ items, ∀ k, ∃ x tail, v.render style k = x :: tail ∧ Opens x) (rest : List Char) {c : Cursor}
    (hc : '[' :: c.rest = (Value.array items).render style k ++ rest) :
    ∃ o, readItems read (c.rest.length + 1) true c = .ok (items, ⟨rest, o⟩) := by
  obtain ⟨text, offset⟩ := c
  cases items with
  | nil =>
    obtain rfl : text = ']' :: rest := by simpa [Value.render] using hc
    obtain ⟨o, ho⟩ := moreItems_close true [] (by simp) rest offset
    refine ⟨o + byteCount [']'], ?_⟩
    rw [List.nil_append] at ho
    simp only [readItems, ho]
    rfl
  | cons v items =>
    obtain rfl : text = style.gap (k + 1) ++ (v.render style (k + 1) ++
        (renderItems style (k + 1) items ++ (style.gap k ++ ']' :: rest))) := by
      simpa [Value.render] using hc
    have hstop := stops_of_comma_or_gap rest (hs.gap k) (Or.inl rfl) (renderItems_comma style (k + 1) items)
    obtain ⟨o₁, h₁⟩ := moreItems_first (hopen v (by simp) (k + 1)) (hs.gap (k + 1))
      (renderItems style (k + 1) items ++ (style.gap k ++ ']' :: rest)) offset
    obtain ⟨o₂, h₂⟩ := hread v (by simp) (k + 1) _ _ (rest_skipGap_render (hopen v (by simp) (k + 1)) _ o₁) hstop
    have hlen := length_le_renderItems style (k + 1) items
    obtain ⟨o, h⟩ := readItems_renderItems hs (hs.gap k) rest (fun w hw => hread w (List.mem_cons_of_mem _ hw))
      (fun w hw => hopen w (List.mem_cons_of_mem _ hw) (k + 1))
      (style.gap (k + 1) ++ (v.render style (k + 1) ++
        (renderItems style (k + 1) items ++ (style.gap k ++ ']' :: rest)))).length
      (by simp only [List.length_append, List.length_cons]; omega) o₂
    refine ⟨o, ?_⟩
    simp only [readItems, h₁]
    simp only [bind, Except.bind, if_true, h₂, h]

end Lists

/-! ## Objects -/

section Objects

variable {σ : Type} {style : Style} {member : σ → String → Cursor → Except Flaw (σ × Cursor)}

/-- At the closing bracket of an object there are no more keys. -/
theorem moreKeys_close (first : Bool) (gap : List Char) (hgap : ∀ x ∈ gap, isGap x = true) (rest : List Char)
    (offset : Nat) :
    ∃ o, (Cursor.mk (gap ++ '}' :: rest) offset).moreKeys first = .ok (false, ⟨'}' :: rest, o⟩) := by
  refine ⟨offset + gap.length, ?_⟩
  rw [Cursor.moreKeys, skipGap_append gap hgap (by decide)]
  rfl

/-- A first key follows where one stands. -/
theorem moreKeys_first (key : String) {gap : List Char} (hgap : ∀ x ∈ gap, isGap x = true) (rest : List Char)
    (offset : Nat) :
    ∃ o, (Cursor.mk (gap ++ (stringText key ++ rest)) offset).moreKeys true = .ok (true, ⟨stringText key ++ rest, o⟩) := by
  refine ⟨offset + gap.length, ?_⟩
  rw [Cursor.moreKeys, stringText, List.cons_append, skipGap_append gap hgap (by decide)]
  rfl

/-- A further key follows after a comma. -/
theorem moreKeys_next (key : String) {gap : List Char} (hgap : ∀ x ∈ gap, isGap x = true) (rest : List Char)
    (offset : Nat) :
    ∃ o, (Cursor.mk (',' :: (gap ++ (stringText key ++ rest))) offset).moreKeys false =
      .ok (true, ⟨stringText key ++ rest, o⟩) := by
  refine ⟨offset + byteCount [','] + gap.length, ?_⟩
  have hskip : (Cursor.drop ⟨',' :: (gap ++ (stringText key ++ rest)), offset⟩ 1).skipGap =
      ⟨stringText key ++ rest, offset + byteCount [','] + gap.length⟩ := skipGap_append gap hgap (by decide) _
  rw [Cursor.moreKeys, skipGap_cons (by decide)]
  simp only [Bool.false_eq_true, if_false, hskip]
  rfl

/-- Where an entry stands behind its key, a member takes it from one state to another. -/
def Takes (style : Style) (member : σ → String → Cursor → Except Flaw (σ × Cursor)) (s : σ) (e : String × Value) (s' : σ) :
    Prop :=
  ∀ (k : Nat) (rest : List Char) (offset : Nat), Stops rest →
    ∃ o, member s e.1 ⟨':' :: (style.afterColon ++ (e.2.render style k ++ rest)), offset⟩ = .ok (s', ⟨rest, o⟩)

/-- Further members are read up to the closing bracket; `state` says what stands for the entries so far. -/
theorem readMembers_renderEntries (hs : style.Blank) {gap : List Char} (hgap : ∀ x ∈ gap, isGap x = true)
    (rest : List Char) {state : List (String × Value) → σ} (k : Nat) (all front entries : List (String × Value))
    (hall : all = front ++ entries)
    (htake : ∀ f e b, all = f ++ e :: b → Takes style member (state f) e (state (f ++ [e])))
    (rounds : Nat) (hr : entries.length < rounds) (offset : Nat) :
    ∃ o, readMembers member rounds false (state front)
      ⟨renderEntries style k entries ++ (gap ++ '}' :: rest), offset⟩ = .ok (state all, ⟨'}' :: rest, o⟩) := by
  induction entries generalizing front rounds offset with
  | nil =>
    obtain ⟨rounds, rfl⟩ := Nat.exists_eq_succ_of_ne_zero (by simpa using hr.ne')
    obtain ⟨o, ho⟩ := moreKeys_close false gap hgap rest offset
    refine ⟨o, ?_⟩
    rw [List.append_nil] at hall
    subst hall
    simp only [readMembers, renderEntries, List.nil_append, ho]
    rfl
  | cons e entries ih =>
    obtain ⟨key, v⟩ := e
    obtain ⟨rounds, rfl⟩ := Nat.exists_eq_succ_of_ne_zero (by omega : rounds ≠ 0)
    have hstop := stops_of_comma_or_gap rest hgap (Or.inr rfl) (renderEntries_comma style k entries)
    obtain ⟨o₁, h₁⟩ := moreKeys_next key (hs.gap k) (':' :: (style.afterColon ++ (v.render style k ++
      (renderEntries style k entries ++ (gap ++ '}' :: rest))))) offset
    obtain ⟨o₂, h₂⟩ := readString_stringText key (':' :: (style.afterColon ++ (v.render style k ++
      (renderEntries style k entries ++ (gap ++ '}' :: rest))))) o₁
    obtain ⟨o₃, h₃⟩ := htake front (key, v) entries hall k _ o₂ hstop
    obtain ⟨o, h⟩ := ih (front ++ [(key, v)]) (by simp [hall]) rounds (by simpa using hr) o₃
    refine ⟨o, ?_⟩
    simp only [readMembers, renderEntries, List.cons_append, List.append_assoc, List.nil_append, h₁]
    simp only [bind, Except.bind, if_true, h₂, h₃, h]

/-- The members of a printed object are read up to its closing bracket. -/
theorem readMembers_render (hs : style.Blank) (state : List (String × Value) → σ) {entries : List (String × Value)}
    (htake : ∀ f e b, entries = f ++ e :: b → Takes style member (state f) e (state (f ++ [e]))) {k : Nat}
    (rest : List Char) {c : Cursor} (hc : '{' :: c.rest = (Value.object entries).render style k ++ rest) :
    ∃ o, readMembers member (c.rest.length + 1) true (state []) c = .ok (state entries, ⟨'}' :: rest, o⟩) := by
  obtain ⟨text, offset⟩ := c
  cases entries with
  | nil =>
    obtain rfl : text = '}' :: rest := by simpa [Value.render] using hc
    obtain ⟨o, ho⟩ := moreKeys_close true [] (by simp) rest offset
    refine ⟨o, ?_⟩
    rw [List.nil_append] at ho
    simp only [readMembers, ho]
    rfl
  | cons e entries =>
    obtain ⟨key, v⟩ := e
    obtain rfl : text = style.gap (k + 1) ++ (stringText key ++ (':' :: (style.afterColon ++ (v.render style (k + 1) ++
        (renderEntries style (k + 1) entries ++ (style.gap k ++ '}' :: rest)))))) := by
      simpa [Value.render] using hc
    have hstop := stops_of_comma_or_gap rest (hs.gap k) (Or.inr rfl) (renderEntries_comma style (k + 1) entries)
    obtain ⟨o₁, h₁⟩ := moreKeys_first key (hs.gap (k + 1)) (':' :: (style.afterColon ++ (v.render style (k + 1) ++
      (renderEntries style (k + 1) entries ++ (style.gap k ++ '}' :: rest))))) offset
    obtain ⟨o₂, h₂⟩ := readString_stringText key (':' :: (style.afterColon ++ (v.render style (k + 1) ++
      (renderEntries style (k + 1) entries ++ (style.gap k ++ '}' :: rest))))) o₁
    obtain ⟨o₃, h₃⟩ := htake [] (key, v) entries rfl (k + 1) _ o₂ hstop
    rw [List.nil_append] at h₃
    have hlen := length_le_renderEntries style (k + 1) entries
    obtain ⟨o, h⟩ := readMembers_renderEntries hs (hs.gap k) rest (k + 1) ((key, v) :: entries) [(key, v)] entries
      rfl htake
      (style.gap (k + 1) ++ (stringText key ++ (':' :: (style.afterColon ++ (v.render style (k + 1) ++
        (renderEntries style (k + 1) entries ++ (style.gap k ++ '}' :: rest))))))).length
      (by simp only [List.length_append, List.length_cons]; omega) o₃
    refine ⟨o, ?_⟩
    simp only [readMembers, h₁]
    simp only [bind, Except.bind, if_true, h₂, h₃, h]

end Objects

end RenderCatalog.Json
