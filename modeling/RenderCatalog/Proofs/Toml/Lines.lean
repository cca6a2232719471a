import RenderCatalog.Proofs.Toml.Strings
import RenderCatalog.Toml.Document

/-!
# Lines that were written

Values that were written are read back where a line end, a comma or a closing bracket stands behind them (`Writes`), and a
document is read one line at a time (`Draws`): a header opens a table, and the lines behind it give the table its entries.
-/

namespace RenderCatalog.Toml

variable {c : Char} {cs rest : List Char} {depth : Nat}

/-! ## What stands between parts -/

/-- A character that no blank, line end or comment starts with. -/
def IsPart (c : Char) : Prop := isSpace c = false ∧ c ≠ '#' ∧ c ≠ '\n' ∧ c ≠ '\r'

instance (c : Char) : Decidable (IsPart c) := inferInstanceAs (Decidable (_ ∧ _ ∧ _ ∧ _))

/-- No blank is passed over where none stands. -/
theorem afterSpace_cons (hc : isSpace c = false) (rest : List Char) : afterSpace (c :: rest) = c :: rest :=
  List.dropWhile_cons_of_neg (by simp [hc])

/-- No comment is passed over where none stands. -/
theorem afterComment?_cons (hc : c ≠ '#') (rest : List Char) : afterComment? (c :: rest) = some (c :: rest) := by
  unfold afterComment?
  split
  · rename_i heq
    exact absurd (List.cons.inj heq).1 hc
  · rfl

/-- Blanks before a part are passed over. -/
theorem afterLines?_append (blanks : List Char) (hblanks : ∀ x ∈ blanks, isSpace x = true) (hc : IsPart c) (rest : List Char) :
    afterLines? (blanks ++ c :: rest) = some (c :: rest) := by
  obtain ⟨hspace, hcomment, hline, hreturn⟩ := hc
  have hafter : afterSpace (blanks ++ c :: rest) = c :: rest := by
    rw [afterSpace, List.dropWhile_append_of_pos hblanks]
    exact afterSpace_cons hspace rest
  rw [afterLines?, afterLinesFrom?, hafter, afterComment?_cons hcomment]
  simp only [Option.bind_eq_bind, Option.bind_some, startsLine_cons hline hreturn, Bool.false_eq_true, if_false]

/-- No line is passed over where a part starts. -/
theorem afterLines?_cons (hc : IsPart c) (rest : List Char) : afterLines? (c :: rest) = some (c :: rest) :=
  afterLines?_append [] nofun hc rest

/-- A line end before anything is passed over. -/
theorem afterLines?_line (cs : List Char) : afterLines? ('\n' :: cs) = afterLines? cs := by
  rw [afterLines?, afterLinesFrom?, afterSpace_cons (by decide), afterComment?_cons (by decide)]
  rfl

/-! ## Values -/

/-- What stands behind a value that was written: the end of its line, a comma or a closing bracket. -/
inductive Ends : List Char → Prop
  | line (rest : List Char) : Ends ('\n' :: rest)
  | comma (rest : List Char) : Ends (',' :: rest)
  | bracket (rest : List Char) : Ends (']' :: rest)

/-- What stands behind a value has no quote in front. -/
theorem Ends.unquoted (h : Ends rest) : Unquoted rest := by
  cases h <;> exact ⟨by simp, by simp⟩

/-- A text writes a value: it starts with no blank, and the value is read back wherever the text ends. -/
structure Writes (depth : Nat) (text : List Char) (v : Value) : Prop where
  first : ∃ c more, text = c :: more ∧ isSpace c = false
  read : ∀ rest, Ends rest → readValue? depth (text ++ rest) = some (v, rest)

/-- A string starts with a quote. -/
theorem exists_stringText_eq_cons (s : String) : ∃ q more, stringText s = q :: more ∧ (q = '"' ∨ q = '\'') := by
  rw [stringText]
  cases spellingOf s.toList with
  | basic => exact ⟨_, _, rfl, Or.inl rfl⟩
  | literal => exact ⟨_, _, rfl, Or.inr rfl⟩
  | basicLines => exact ⟨_, _, rfl, Or.inl rfl⟩
  | literalLines => exact ⟨_, _, rfl, Or.inr rfl⟩

/-- A quote starts a part. -/
theorem isPart_of_quote (h : c = '"' ∨ c = '\'') : IsPart c := by
  rcases h with rfl | rfl <;> decide

/-- A text in quotes writes a string, whichever quotes were chosen. -/
theorem writes_stringText (depth : Nat) (s : String) : Writes depth (stringText s) (.string s) := by
  obtain ⟨q, more, hq, hquote⟩ := exists_stringText_eq_cons s
  refine ⟨⟨q, more, hq, (isPart_of_quote hquote).1⟩, fun rest hrest => ?_⟩
  have hread := readString?_stringText s hrest.unquoted
  rcases hquote with rfl | rfl
  · rw [hq, List.cons_append] at hread ⊢
    rw [readValue?, hread]
    rfl
  · rw [hq, List.cons_append] at hread ⊢
    rw [readValue?, hread]
    rfl

/-- A word is taken up to where its text ends. -/
theorem takeWord_append {word : List Char} (hword : word.all isWordChar = true) (hrest : Ends rest) :
    takeWord (word ++ rest) = (word, rest) := by
  rw [List.all_eq_true] at hword
  obtain ⟨c, more, rfl, hc, hspace⟩ : ∃ c more, rest = c :: more ∧ isWordChar c = false ∧ c ≠ ' ' := by
    cases hrest <;> exact ⟨_, _, rfl, by decide, by decide⟩
  have htake : (word ++ c :: more).takeWhile isWordChar = word := by
    rw [List.takeWhile_append_of_pos hword, List.takeWhile_cons_of_neg (by simp [hc]), List.append_nil]
  have hdrop : (word ++ c :: more).dropWhile isWordChar = c :: more := by
    rw [List.dropWhile_append_of_pos hword, List.dropWhile_cons_of_neg (by simp [hc])]
  rw [takeWord, htake, hdrop]
  split
  · rename_i heq
    exact absurd (List.cons.inj heq).1 hspace
  · rfl

/-- A value that starts like no other is read as a word. -/
theorem readValue?_word (hc : c ∉ ['[', '{', '"', '\'']) (rest : List Char) : readValue? depth (c :: rest) = readWord? (c :: rest) := by
  have hne : ∀ d ∈ ['[', '{', '"', '\''], ∀ more, c :: rest = d :: more → False := by
    rintro d hd more heq
    exact hc ((List.cons.inj heq).1 ▸ hd)
  exact readValue?.eq_7 _ _ (hne _ (by decide)) (hne _ (by decide)) (hne _ (by decide)) (hne _ (by decide))

/-- The words for flags write them. -/
theorem writes_flagText (depth : Nat) (b : Bool) : Writes depth (flagText b) (.boolean b) := by
  refine ⟨by cases b <;> exact ⟨_, _, rfl, by decide⟩, fun rest hrest => ?_⟩
  cases b with
  | false =>
    have hword : takeWord (['f', 'a', 'l', 's', 'e'] ++ rest) = (['f', 'a', 'l', 's', 'e'], rest) := takeWord_append (by decide) hrest
    change readValue? depth (['f', 'a', 'l', 's', 'e'] ++ rest) = _
    rw [List.cons_append, readValue?_word (by decide), ← List.cons_append, readWord?, hword]
    rfl
  | true =>
    have hword : takeWord (['t', 'r', 'u', 'e'] ++ rest) = (['t', 'r', 'u', 'e'], rest) := takeWord_append (by decide) hrest
    change readValue? depth (['t', 'r', 'u', 'e'] ++ rest) = _
    rw [List.cons_append, readValue?_word (by decide), ← List.cons_append, readWord?, hword]
    rfl

section Items

variable {item : List Char → Option (Value × List Char)} {rounds : Nat} {v : Value} {vs : List Value} {more next after : List Char}

/-- A closing bracket ends a list. -/
theorem readItems?_nil (h : afterLines? cs = some (']' :: rest)) : readItems? item (rounds + 1) cs = some ([], rest) := by
  rw [readItems?, h]
  rfl

/-- An item before a closing bracket is the last one. -/
theorem readItems?_last (h : afterLines? cs = some (c :: more)) (hc : c ≠ ']') (hitem : item (c :: more) = some (v, next))
    (hnext : afterLines? next = some (']' :: rest)) : readItems? item (rounds + 1) cs = some ([v], rest) := by
  rw [readItems?, h]
  simp only [Option.bind_eq_bind, Option.bind_some]
  split
  · rename_i heq
    exact absurd (List.cons.inj heq).1 hc
  · simp only [hitem, hnext, Option.bind_some]

/-- An item before a comma is followed by the others. -/
theorem readItems?_cons (h : afterLines? cs = some (c :: more)) (hc : c ≠ ']') (hitem : item (c :: more) = some (v, next))
    (hnext : afterLines? next = some (',' :: rest)) (hrest : readItems? item rounds rest = some (vs, after)) :
    readItems? item (rounds + 1) cs = some (v :: vs, after) := by
  rw [readItems?, h]
  simp only [Option.bind_eq_bind, Option.bind_some]
  split
  · rename_i heq
    exact absurd (List.cons.inj heq).1 hc
  · simp only [hitem, hnext, hrest, Option.bind_some]

end Items

/-- The lines of a list of more than one item. -/
def itemLines (ss : List String) : List Char := ss.flatMap fun s => "    ".toList ++ stringText s ++ [',', '\n']

/-- Every item takes a character, so there are rounds enough to read them. -/
theorem length_le_length_itemLines (ss : List String) : ss.length ≤ (itemLines ss).length := by
  rw [itemLines, List.length_flatMap]
  refine le_of_eq_of_le (List.length_map _).symm (List.length_le_sum_of_one_le _ ?_)
  rw [List.forall_mem_map]
  intro s hs
  rw [List.length_append]
  exact Nat.le_add_left_of_le (by decide)

/-- The items of a list with a line for each are read back up to the closing bracket. -/
theorem readItems?_itemLines (ss : List String) (rest : List Char) {rounds : Nat} (hrounds : ss.length < rounds) :
    readItems? (readValue? depth) rounds ('\n' :: (itemLines ss ++ ']' :: rest)) = some (ss.map .string, rest) := by
  induction ss generalizing rounds with
  | nil =>
    obtain ⟨rounds, rfl⟩ := Nat.exists_eq_succ_of_ne_zero (Nat.ne_of_gt hrounds)
    refine readItems?_nil ?_
    rw [afterLines?_line]
    exact afterLines?_cons (by decide) rest
  | cons s ss ih =>
    obtain ⟨rounds, rfl⟩ := Nat.exists_eq_succ_of_ne_zero (Nat.ne_zero_of_lt hrounds)
    rw [List.length_cons, Nat.succ_lt_succ_iff] at hrounds
    obtain ⟨q, more, hq, hquote⟩ := exists_stringText_eq_cons s
    have hitem := (writes_stringText depth s).read _ (.comma ('\n' :: (itemLines ss ++ ']' :: rest)))
    rw [hq] at hitem
    refine readItems?_cons (c := q) ?_ ?_ hitem (afterLines?_cons (by decide) _) (ih hrounds)
    · rw [afterLines?_line, itemLines, List.flatMap_cons, ← itemLines, hq]
      simp only [List.append_assoc, List.cons_append, List.nil_append]
      exact afterLines?_append [' ', ' ', ' ', ' '] (by simp [isSpace]) (isPart_of_quote hquote) _
    · rcases hquote with rfl | rfl <;> decide

/-- A list is read back when its items are. -/
theorem readValue?_list {text : List Char} {vs : List Value}
    (h : ∀ rounds, text.length < rounds → readItems? (readValue? depth) rounds text = some (vs, rest)) :
    readValue? (depth + 1) ('[' :: text) = some (.array false vs, rest) := by
  rw [readValue?, h _ (Nat.lt_succ_self _)]
  rfl

/-- A list of texts in brackets writes a list, on one line or on several. -/
theorem writes_stringsText (depth : Nat) (ss : List String) : Writes (depth + 1) (stringsText ss) (.array false (ss.map .string)) := by
  refine ⟨by rw [stringsText.eq_def]; split <;> exact ⟨_, _, rfl, by decide⟩, fun rest hrest => ?_⟩
  match ss with
  | [] =>
    refine readValue?_list fun rounds hrounds => ?_
    obtain ⟨rounds, rfl⟩ := Nat.exists_eq_succ_of_ne_zero (Nat.ne_zero_of_lt hrounds)
    exact readItems?_nil (afterLines?_cons (by decide) rest)
  | [s] =>
    obtain ⟨q, more, hq, hquote⟩ := exists_stringText_eq_cons s
    have hitem := (writes_stringText depth s).read _ (.bracket rest)
    rw [stringsText, List.cons_append, List.append_assoc]
    refine readValue?_list fun rounds hrounds => ?_
    obtain ⟨rounds, rfl⟩ := Nat.exists_eq_succ_of_ne_zero (Nat.ne_zero_of_lt hrounds)
    rw [hq] at hitem ⊢
    refine readItems?_last (afterLines?_cons (isPart_of_quote hquote) _) ?_ hitem (afterLines?_cons (by decide) rest)
    rcases hquote with rfl | rfl <;> decide
  | s₁ :: s₂ :: ss =>
    have htext : stringsText (s₁ :: s₂ :: ss) = '[' :: '\n' :: (itemLines (s₁ :: s₂ :: ss) ++ [']']) := by
      rw [stringsText.eq_3 _ (by nofun) (by nofun)]
      rfl
    rw [htext, List.cons_append, List.cons_append, List.append_assoc]
    refine readValue?_list fun rounds hrounds => readItems?_itemLines _ rest ?_
    have hitems := length_le_length_itemLines (s₁ :: s₂ :: ss)
    rw [List.length_cons, List.length_append] at hrounds
    omega

/-! ## Keys -/

/-- A key that needs no quotes. -/
def IsBareKey (key : String) : Prop := key.toList ≠ [] ∧ key.toList.all isBare = true

instance (key : String) : Decidable (IsBareKey key) := inferInstanceAs (Decidable (_ ∧ _))

/-- A key that needs no quotes has a first character. -/
theorem IsBareKey.exists_eq_cons {key : String} (h : IsBareKey key) : ∃ c more, key.toList = c :: more ∧ isBare c = true := by
  obtain ⟨c, more, hc⟩ := List.exists_cons_of_ne_nil h.1
  exact ⟨c, more, hc, List.all_eq_true.1 h.2 c (by rw [hc]; exact List.mem_cons_self)⟩

/-- No character of such a key is any other. -/
theorem isBare_ne {c d : Char} (hc : isBare c = true) (hd : isBare d = false) : c ≠ d := by
  rintro rfl
  rw [hc] at hd
  cases hd

/-- No blank stands before such a key. -/
theorem IsBareKey.afterSpace {key : String} (h : IsBareKey key) (rest : List Char) :
    afterSpace (key.toList ++ rest) = key.toList ++ rest := by
  obtain ⟨c, more, hc, hbare⟩ := h.exists_eq_cons
  rw [hc, List.cons_append]
  refine afterSpace_cons ?_ _
  rw [isSpace, Bool.or_eq_false_iff, beq_eq_false_iff_ne, beq_eq_false_iff_ne]
  exact ⟨isBare_ne hbare (by decide), isBare_ne hbare (by decide)⟩

/-- A key without quotes is read back where no part of a key stands behind it. -/
theorem readKey?_append {key : String} (hkey : IsBareKey key) (hc : isBare c = false)
    (hrest : ∀ more, afterSpace (c :: rest) ≠ '.' :: more) :
    readKey? (key.toList ++ c :: rest) = some ([key], afterSpace (c :: rest)) := by
  obtain ⟨first, more, hfirst, hfirstBare⟩ := hkey.exists_eq_cons
  have hspace := hkey.afterSpace (c :: rest)
  obtain ⟨hne, hbare⟩ := hkey
  rw [List.all_eq_true] at hbare
  have htake : (key.toList ++ c :: rest).takeWhile isBare = key.toList := by
    rw [List.takeWhile_append_of_pos hbare, List.takeWhile_cons_of_neg (by simp [hc]), List.append_nil]
  have hdrop : (key.toList ++ c :: rest).dropWhile isBare = c :: rest := by
    rw [List.dropWhile_append_of_pos hbare, List.dropWhile_cons_of_neg (by simp [hc])]
  have hpart : readKeyPart? (key.toList ++ c :: rest) = some (key, c :: rest) := by
    have hquote : ∀ q, isBare q = false → ∀ after, key.toList ++ c :: rest ≠ q :: after := by
      intro q hq after heq
      rw [hfirst] at heq
      exact isBare_ne hfirstBare hq (List.cons.inj heq).1
    rw [readKeyPart?.eq_3 _ (hquote _ (by decide)) (hquote _ (by decide)), htake, hdrop, if_neg (by simpa using hne),
      String.ofList_toList]
  have hfrom : ∀ rounds, readKeyFrom? (rounds + 1) (key.toList ++ c :: rest) = some ([key], afterSpace (c :: rest)) := by
    intro rounds
    rw [readKeyFrom?, hspace, hpart]
    simp only [Option.bind_eq_bind, Option.bind_some]
  rw [readKey?, hfrom]
  rfl

/-! ## Tables -/

section Tables

variable {before inner entries : Entries} {table key : String} {v : Value} {path : List String}

/-- A table behind entries without its name is found by its name. -/
theorem lookup_append_self (hbefore : before.lookup table = none) (v : Value) : (before ++ [(table, v)]).lookup table = some v := by
  rw [List.lookup_append, hbefore, List.lookup_cons_self]
  rfl

/-- The table at the end of a document is given other entries. -/
theorem replaceEntry_append (hbefore : before.lookup table = none) (v w : Value) :
    replaceEntry table w (before ++ [(table, v)]) = before ++ [(table, w)] := by
  have hothers : replaceEntry table w before = before := by
    rw [replaceEntry, List.map_congr_left (g := id), List.map_id]
    intro e he
    have hne : e.1 ≠ table := fun heq => by simpa [heq] using List.lookup_eq_none_iff.1 hbefore e he
    exact if_neg (by simpa using hne)
  rw [replaceEntry, List.map_append, ← replaceEntry, hothers, List.map_singleton, if_pos (beq_self_eq_true _)]

/-- A header opens a table that was not there. -/
theorem Draft.header_eq (hentries : entries.lookup table = none) :
    Draft.header ⟨entries, path⟩ [table] false = some ⟨entries ++ [(table, .table .header [])], [table]⟩ := by
  have hopen : openTable table entries = some (entries ++ [(table, .table .header [])]) := by
    rw [openTable, hentries]
  rw [Draft.header]
  simp only [List.getLast?_singleton, List.dropLast_singleton, changeAt, hopen, Option.bind_eq_bind, Option.bind_some,
    Bool.false_eq_true, if_false]

/-- A key that the table at the end of the document does not have is given its value there. -/
theorem Draft.assign_eq (hbefore : before.lookup table = none) (hinner : inner.lookup key = none) :
    Draft.assign ⟨before ++ [(table, .table .header inner)], [table]⟩ [] key v =
      some ⟨before ++ [(table, .table .header (inner ++ [(key, v)]))], [table]⟩ := by
  have hassign : Toml.assign [] key v .header inner = some (inner ++ [(key, v)]) := by
    rw [Toml.assign, changeAt, if_neg (by simp), hinner]
    rfl
  rw [Draft.assign, changeAt, lookup_append_self hbefore]
  simp only [changeAt, hassign, reduceCtorEq, decide_false, Bool.false_and, Bool.or_false, Bool.false_eq_true, if_false, Option.map_some,
    replaceEntry_append hbefore]

end Tables

/-! ## Lines -/

section Lines

variable {d d₁ : Draft} {before inner entries document : Entries} {table key : String} {text : List Char} {v : Value} {path : List String}

/-- A text makes a document of what has been read before it, in as many rounds as it has characters and one more. -/
def Draws (d : Draft) (cs : List Char) (document : Entries) : Prop :=
  ∀ rounds, cs.length < rounds → (readLines? rounds d cs).map (·.entries) = some document

/-- Where the text ends the document is what has been read. -/
theorem draws_nil (d : Draft) : Draws d [] d.entries := by
  intro rounds hrounds
  obtain ⟨rounds, rfl⟩ := Nat.exists_eq_succ_of_ne_zero (Nat.ne_of_gt hrounds)
  rfl

/-- A line is read, and then what stands behind it. -/
theorem draws_line_end (hspace : afterSpace cs = cs) (h : readStatement? d cs = some (d₁, '\n' :: rest))
    (hlength : rest.length < cs.length) (hrest : Draws d₁ rest document) : Draws d cs document := by
  intro rounds hrounds
  obtain ⟨rounds, rfl⟩ := Nat.exists_eq_succ_of_ne_zero (Nat.ne_zero_of_lt hrounds)
  rw [readLines?, hspace, h]
  simp only [Option.bind_eq_bind, Option.bind_some, afterSpace_cons (show isSpace '\n' = false by decide),
    afterComment?_cons (show '\n' ≠ '#' by decide)]
  exact hrest rounds (by omega)

/-- An empty line says nothing. -/
theorem draws_blank (h : Draws d cs document) : Draws d ('\n' :: cs) document :=
  draws_line_end (afterSpace_cons (by decide) cs) rfl (Nat.lt_succ_self _) h

/-- Empty lines add nothing to a document. -/
theorem draws_blanks (n : Nat) (h : Draws d cs document) : Draws d (List.replicate n '\n' ++ cs) document := by
  induction n with
  | zero => exact h
  | succ n ih => exact draws_blank ih

/-- A header line opens a table. -/
theorem draws_headerText (hbare : IsBareKey table) (hentries : entries.lookup table = none)
    (h : Draws ⟨entries ++ [(table, .table .header [])], [table]⟩ cs document) :
    Draws ⟨entries, path⟩ (headerText table ++ cs) document := by
  have htext : headerText table ++ cs = '[' :: (table.toList ++ ']' :: '\n' :: cs) := by
    rw [headerText, List.cons_append, List.append_assoc]
    rfl
  have hkey : readKey? (table.toList ++ ']' :: '\n' :: cs) = some ([table], ']' :: '\n' :: cs) :=
    readKey?_append hbare (by decide) fun more heq => by cases (List.cons.inj heq).1
  have hnested : ∀ more, table.toList ++ ']' :: '\n' :: cs = '[' :: more → False := by
    obtain ⟨first, more, hfirst, hfirstBare⟩ := hbare.exists_eq_cons
    rw [hfirst]
    exact fun more heq => isBare_ne hfirstBare (by decide) (List.cons.inj heq).1
  have hstatement : readStatement? ⟨entries, path⟩ ('[' :: (table.toList ++ ']' :: '\n' :: cs)) =
      some (⟨entries ++ [(table, .table .header [])], [table]⟩, '\n' :: cs) := by
    rw [readStatement?, startsLine_cons (by decide) (by decide), if_neg (by decide), if_pos rfl, readHeader?.eq_2 _ _ hnested, hkey]
    simp only [Option.bind_eq_bind, Option.bind_some, Draft.header_eq hentries, Option.map_some]
  rw [htext]
  refine draws_line_end (afterSpace_cons (by decide) _) hstatement ?_ h
  simp only [List.length_cons, List.length_append]
  omega

/-- A line with a key and its value gives the open table an entry. -/
theorem draws_lineText (hbare : IsBareKey key) (htext : Writes nestingLimit text v) (hbefore : before.lookup table = none)
    (hinner : inner.lookup key = none)
    (h : Draws ⟨before ++ [(table, .table .header (inner ++ [(key, v)]))], [table]⟩ cs document) :
    Draws ⟨before ++ [(table, .table .header inner)], [table]⟩ (lineText key text ++ cs) document := by
  have hline : lineText key text ++ cs = key.toList ++ ' ' :: '=' :: ' ' :: (text ++ '\n' :: cs) := by
    simp only [lineText, List.append_assoc, List.cons_append, List.nil_append]
    rfl
  have hkey : readKey? (key.toList ++ ' ' :: '=' :: ' ' :: (text ++ '\n' :: cs)) = some ([key], '=' :: ' ' :: (text ++ '\n' :: cs)) :=
    readKey?_append hbare (by decide) fun more heq => by cases (List.cons.inj heq).1
  have hvalue : afterSpace (' ' :: (text ++ '\n' :: cs)) = text ++ '\n' :: cs := by
    obtain ⟨c, more, hc, hspace⟩ := htext.first
    rw [hc]
    exact afterSpace_cons hspace _
  have hpair : readPair? (readValue? nestingLimit) (key.toList ++ ' ' :: '=' :: ' ' :: (text ++ '\n' :: cs)) =
      some (([], key, v), '\n' :: cs) := by
    rw [readPair?, hkey]
    simp only [Option.bind_eq_bind, Option.bind_some, List.getLast?_singleton, List.dropLast_singleton, hvalue,
      htext.read _ (.line cs)]
  obtain ⟨first, more, hfirst, hfirstBare⟩ := hbare.exists_eq_cons
  have hstatement : readStatement? ⟨before ++ [(table, .table .header inner)], [table]⟩
      (key.toList ++ ' ' :: '=' :: ' ' :: (text ++ '\n' :: cs)) =
        some (⟨before ++ [(table, .table .header (inner ++ [(key, v)]))], [table]⟩, '\n' :: cs) := by
    rw [hfirst, List.cons_append] at hpair ⊢
    have hcomment : first ≠ '#' := isBare_ne hfirstBare (by decide)
    have hheader : first ≠ '[' := isBare_ne hfirstBare (by decide)
    rw [readStatement?, startsLine_cons (isBare_ne hfirstBare (by decide)) (isBare_ne hfirstBare (by decide)),
      if_neg (by simp [hcomment]), if_neg hheader, hpair]
    simp only [Option.bind_eq_bind, Option.bind_some, Draft.assign_eq hbefore hinner]
  rw [hline]
  refine draws_line_end (hbare.afterSpace _) hstatement ?_ h
  simp only [List.length_cons, List.length_append]
  omega

/-- Lines with different keys give the open table their entries, in their order. -/
theorem draws_lines {ι : Type} {key : ι → String} {text : ι → List Char} {value : ι → Value} (hbare : ∀ x, IsBareKey (key x))
    (htext : ∀ x, Writes nestingLimit (text x) (value x)) (hbefore : before.lookup table = none) {xs : List ι}
    (hkeys : (xs.map key).Nodup) (hinner : ∀ x ∈ xs, inner.lookup (key x) = none)
    (h : Draws ⟨before ++ [(table, .table .header (inner ++ xs.map fun x => (key x, value x)))], [table]⟩ cs document) :
    Draws ⟨before ++ [(table, .table .header inner)], [table]⟩ (xs.flatMap (fun x => lineText (key x) (text x)) ++ cs) document := by
  induction xs generalizing inner with
  | nil => simpa using h
  | cons x xs ih =>
    rw [List.map_cons, List.nodup_cons] at hkeys
    obtain ⟨hx, hxs⟩ := List.forall_mem_cons.1 hinner
    rw [List.flatMap_cons, List.append_assoc]
    refine draws_lineText (hbare x) (htext x) hbefore hx (ih hkeys.2 (fun y hy => ?_) (by simpa using h))
    have hne : key y ≠ key x := fun heq => hkeys.1 (heq ▸ List.mem_map_of_mem hy)
    rw [List.lookup_append, hxs y hy, List.lookup_cons, beq_eq_false_iff_ne.2 hne]
    rfl

/-- A document is what its lines make of an empty one, when no byte order mark stands at its front. -/
theorem read?_eq (hfirst : cs.head? ≠ some '\ufeff') (h : Draws {} cs document) : read? cs = some document := by
  unfold read?
  split
  · exact absurd rfl hfirst
  · exact h _ (Nat.lt_succ_self _)

end Lines

end RenderCatalog.Toml
