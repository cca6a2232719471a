import Mathlib
import RenderCatalog.Toml.Printer

/-!
# Strings that were written

A string is read back from each of its spellings, whatever stands behind it but one more quote. In triple quotes the quotes of the
string itself are the point: up to two of them may stand right before the closing ones, and three in a row are only written with
an escape between them.
-/

namespace RenderCatalog.Toml

/-! ## Runs of quotes -/

/-- The longest run is at least as long as the one that goes on. -/
theorem le_longestRun (q : Char) (here : Nat) (s : List Char) : here ≤ longestRun q here s := by
  induction s generalizing here with
  | nil => exact le_rfl
  | cons c rest ih =>
    rw [longestRun]
    split
    · exact (Nat.le_succ here).trans (ih (here + 1))
    · exact le_max_left _ _

/-- A run that goes on for longer makes no shorter one. -/
theorem longestRun_mono (q : Char) (s : List Char) {here here' : Nat} (h : here ≤ here') :
    longestRun q here s ≤ longestRun q here' s := by
  induction s generalizing here here' with
  | nil => exact h
  | cons c rest ih =>
    rw [longestRun, longestRun]
    split
    · exact ih (Nat.succ_le_succ h)
    · exact max_le_max_right _ h

/-- What follows a character has no longer runs. -/
theorem longestRun_tail_le (q c : Char) (s : List Char) : longestRun q 0 s ≤ longestRun q 0 (c :: s) := by
  rw [longestRun]
  split
  · exact longestRun_mono q s (Nat.zero_le _)
  · exact le_max_right _ _

/-- Without a run there is no quote. -/
theorem not_mem_of_longestRun_eq_zero {q : Char} {s : List Char} (h : longestRun q 0 s = 0) : q ∉ s := by
  induction s with
  | nil => nofun
  | cons c rest ih =>
    rw [List.mem_cons, not_or]
    have htail := longestRun_tail_le q c rest
    refine ⟨?_, ih (by omega)⟩
    rintro rfl
    have hone := le_longestRun q (0 + 1) rest
    rw [longestRun, if_pos rfl] at h
    omega

/-! ## Characters -/

/-- A character that needs no escape shows as it is, or ends a line. -/
theorem isShown_of_needsEscape {c : Char} (h : needsEscape c = false) : isShown c = true ∨ c = '\n' := by
  rw [needsEscape, Bool.and_eq_false_iff] at h
  simpa using h

/-- A control character is read back from its number. -/
theorem hexChar?_upperHex {c : Char} (h : needsEscape c = true) :
    hexChar? ['0', '0', upperHex (c.val.toNat / 16), upperHex c.val.toNat] = some c := by
  have hsmall : c.val.toNat < 128 := by
    simp only [needsEscape, isShown, Bool.and_eq_true, Bool.not_eq_true', Bool.or_eq_false_iff, Bool.and_eq_false_iff,
      decide_eq_false_iff_not, UInt32.le_iff_toNat_le] at h
    obtain ⟨⟨-, h | h⟩, -⟩ := h
    · have : (32 : UInt32).toNat = 32 := rfl
      omega
    · have : c.val = 127 := by simpa using h
      rw [this]
      decide
  have hall : ∀ n < 128, hexChar? ['0', '0', upperHex (n / 16), upperHex n] = some (Char.ofNat n) := by decide +kernel
  have hofNat : Char.ofNat c.val.toNat = c := Char.ofNat_toNat c
  rw [hall _ hsmall, hofNat]

/-- A line end starts with one of its two characters. -/
theorem startsLine_cons {c : Char} (hline : c ≠ '\n') (hreturn : c ≠ '\r') (rest : List Char) : startsLine (c :: rest) = false := by
  unfold startsLine
  split
  · rename_i heq
    exact absurd (List.cons.inj heq).1 hline
  · rename_i heq
    exact absurd (List.cons.inj heq).1 hreturn
  · rfl

/-- Without a line end in front nothing is dropped. -/
theorem dropLineEnd_eq_self {cs : List Char} (h : startsLine cs = false) : dropLineEnd cs = cs := by
  unfold dropLineEnd
  split
  · cases h
  · cases h
  · rfl

/-- A carriage return does not show as it is. -/
theorem ne_return_of_isShown {c : Char} (h : isShown c = true) : c ≠ '\r' := by
  rintro rfl
  cases h

theorem ne_line_of_isShown {c : Char} (h : isShown c = true) : c ≠ '\n' := by
  rintro rfl
  cases h

/-- How a character is written inside a string with escapes: as a backslash and a letter for it, by its number, or as it is. -/
theorem escaped_cases (c : Char) :
    (∃ x, x ∉ ['x', 'u', 'U', ' ', '\t', '\n', '\r'] ∧ escapeOf? x = some c ∧ escaped c = ['\\', x]) ∨
      (needsEscape c = true ∧ escaped c = ['\\', 'u', '0', '0', upperHex (c.val.toNat / 16), upperHex c.val.toNat]) ∨
      (c ≠ '\\' ∧ (isShown c = true ∨ c = '\n') ∧ escaped c = [c]) := by
  unfold escaped
  split_ifs with h₁ h₂ h₃ h₄ h₅ h₆
  iterate 5 exact Or.inl ⟨_, by decide, by subst_vars; rfl, rfl⟩
  · exact Or.inr (Or.inl ⟨h₆, rfl⟩)
  · exact Or.inr (Or.inr ⟨h₅, isShown_of_needsEscape (by simpa using h₆), rfl⟩)

/-! ## The inside of strings with escapes -/

section Basic

variable {multiline : Bool} {c x : Char} {s after rest : List Char}

/-- A backslash with a letter is read as the character that it stands for. -/
theorem basicTail_letter (hx : x ∉ ['x', 'u', 'U', ' ', '\t', '\n', '\r']) (hc : escapeOf? x = some c)
    (h : basicTail multiline false rest = some (s, after)) :
    basicTail multiline false ('\\' :: x :: rest) = some (c :: s, after) := by
  simp only [List.mem_cons, List.not_mem_nil, or_false, not_or] at hx
  obtain ⟨hx, hu, hU, hspace, htab, hline, hreturn⟩ := hx
  have hstays : startsLine ((x :: rest).dropWhile isSpace) = false := by
    rw [List.dropWhile_cons_of_neg (by simp [isSpace, hspace, htab])]
    exact startsLine_cons hline hreturn rest
  rw [basicTail.eq_5 _ _ _ _ (fun _ _ _ h' _ => hx h') (fun _ _ _ _ _ h' _ => hu h') (fun _ _ _ _ _ _ _ _ _ h' _ => hU h'),
    hstays, Bool.and_false, if_neg (by nofun)]
  simp only [hc, h]
  rfl

/-- A backslash with a number is read as the character of that number. -/
theorem basicTail_number {a b d e : Char} (hc : hexChar? [a, b, d, e] = some c)
    (h : basicTail multiline false rest = some (s, after)) :
    basicTail multiline false ('\\' :: 'u' :: a :: b :: d :: e :: rest) = some (c :: s, after) := by
  rw [basicTail]
  simp only [hc, h]
  rfl

/-- A character that shows, and in a string of several lines the end of a line, is read as it is. -/
theorem basicTail_cons (hquote : c ≠ '"') (hslash : c ≠ '\\') (hc : isShown c = true ∨ multiline = true ∧ c = '\n')
    (h : basicTail multiline false rest = some (s, after)) :
    basicTail multiline false (c :: rest) = some (c :: s, after) := by
  have hreturn : c ≠ '\r' := by
    rcases hc with hshown | ⟨-, rfl⟩
    · exact ne_return_of_isShown hshown
    · decide
  rw [basicTail.eq_9 _ _ _ _ (fun _ _ _ h' _ => hslash h') (fun _ _ _ _ _ h' _ => hslash h')
    (fun _ _ _ _ _ _ _ _ _ h' _ => hslash h') (fun _ _ h' _ => hslash h') hquote (fun _ h' _ => hreturn h')]
  split
  · rename_i hline
    subst hline
    obtain ⟨hmultiline, -⟩ := hc.resolve_left (by decide)
    rw [if_pos hmultiline, h]
    rfl
  · rename_i hline
    rw [if_neg (by nofun), if_pos (hc.resolve_right fun h' => hline h'.2), h]
    rfl

/-- A character that was written with an escape, where it needs one, is read back. -/
theorem basicTail_escaped (hquote : c ≠ '"') (hline : c = '\n' → multiline = true)
    (h : basicTail multiline false rest = some (s, after)) :
    basicTail multiline false (escaped c ++ rest) = some (c :: s, after) := by
  rcases escaped_cases c with ⟨x, hx, hescape, heq⟩ | ⟨hneeds, heq⟩ | ⟨hslash, hshown, heq⟩
  · rw [heq]
    exact basicTail_letter hx hescape h
  · rw [heq]
    exact basicTail_number (hexChar?_upperHex hneeds) h
  · rw [heq]
    exact basicTail_cons hquote hslash (hshown.imp_right fun heq => ⟨hline heq, heq⟩) h

/-- The inside of a string in double quotes is read back up to its closing quote. -/
theorem basicTail_basicText (s rest : List Char) : basicTail false false (basicText s ++ '"' :: rest) = some (s, rest) := by
  induction s with
  | nil =>
    rw [basicText, List.flatMap_nil, List.nil_append]
    by_cases hmore : ∃ after, rest = '"' :: '"' :: after
    · obtain ⟨after, rfl⟩ := hmore
      rw [basicTail.eq_6, if_neg (by nofun)]
    · rw [basicTail.eq_7 _ _ _ fun after heq => hmore ⟨after, heq⟩, if_neg (by nofun)]
  | cons c s ih =>
    rw [basicText, List.flatMap_cons, ← basicText, List.append_assoc]
    split
    · rename_i hquote
      subst hquote
      exact basicTail_letter (by decide) rfl ih
    · rename_i hquote
      split
      · rename_i hline
        subst hline
        exact basicTail_letter (by decide) rfl ih
      · rename_i hline
        exact basicTail_escaped hquote (fun heq => absurd heq hline) ih

/-- Up to two quotes before the closing ones belong to the string. -/
theorem extraQuotes_replicate {q : Char} {k : Nat} (hk : k ≤ 2) (hrest : rest.head? ≠ some q) :
    extraQuotes q (List.replicate k q ++ rest) = (List.replicate k q, rest) := by
  have hnone : ∀ more, rest ≠ q :: more := by
    rintro more rfl
    exact hrest rfl
  match k, hk with
  | 0, _ =>
    cases rest with
    | nil => rfl
    | cons a more =>
      have ha : a ≠ q := fun heq => hnone more (by rw [heq])
      cases more <;> simp [extraQuotes, ha]
  | 1, _ =>
    cases rest with
    | nil => simp [extraQuotes]
    | cons a more =>
      have ha : a ≠ q := fun heq => hnone more (by rw [heq])
      simp [extraQuotes, ha]
  | 2, _ => simp [extraQuotes]

/-- What is written for a character does not start with a quote or a line end, unless it is one. -/
theorem exists_escaped_eq_cons (hquote : c ≠ '"') :
    ∃ x more, escaped c = x :: more ∧ x ≠ '"' ∧ (c ≠ '\n' → x ≠ '\n') ∧ x ≠ '\r' := by
  rcases escaped_cases c with ⟨x, -, -, heq⟩ | ⟨-, heq⟩ | ⟨-, hshown, heq⟩
  · exact ⟨_, _, heq, by decide, fun _ => by decide, by decide⟩
  · exact ⟨_, _, heq, by decide, fun _ => by decide, by decide⟩
  · refine ⟨_, _, heq, hquote, id, ?_⟩
    rcases hshown with hshown | rfl
    · exact ne_return_of_isShown hshown
    · decide

/-- In double quotes no quote is written as it is. -/
theorem exists_basicText_eq_cons (c : Char) (s : List Char) : ∃ x more, basicText (c :: s) = x :: more ∧ x ≠ '"' := by
  rw [basicText, List.flatMap_cons]
  split
  · exact ⟨_, _, rfl, by decide⟩
  · rename_i hquote
    split
    · exact ⟨_, _, rfl, by decide⟩
    · obtain ⟨x, more, hx, hne, -⟩ := exists_escaped_eq_cons hquote
      exact ⟨x, _, by rw [hx]; rfl, hne⟩

/-- In triple double quotes only a line end of the string itself is written as one. -/
theorem startsLine_basicLinesText (hline : '\n' ∉ s) (rest : List Char) : startsLine (basicLinesText 0 s ++ '"' :: rest) = false := by
  cases s with
  | nil => exact startsLine_cons (by decide) (by decide) _
  | cons c s =>
    have hc : c ≠ '\n' := (List.ne_of_not_mem_cons hline).symm
    rw [basicLinesText]
    split
    · exact startsLine_cons (by decide) (by decide) _
    · rename_i hquote
      obtain ⟨x, more, hx, -, hne, hreturn⟩ := exists_escaped_eq_cons hquote
      rw [hx]
      exact startsLine_cons (hne hc) hreturn _

/-- After two quotes, and before another character, no quote is written as it is. -/
theorem exists_basicLinesText_eq_cons {quotes : Nat} (h : quotes = 2 ∨ c ≠ '"') (s : List Char) :
    ∃ x more, basicLinesText quotes (c :: s) = x :: more ∧ x ≠ '"' := by
  rw [basicLinesText]
  split
  · rename_i hquote
    rw [if_pos (h.resolve_right (absurd hquote))]
    exact ⟨_, _, rfl, by decide⟩
  · rename_i hquote
    split
    · exact ⟨_, _, rfl, by decide⟩
    · obtain ⟨x, more, hx, hne, -⟩ := exists_escaped_eq_cons hquote
      exact ⟨x, more ++ basicLinesText 0 s, by rw [hx]; rfl, hne⟩

/-- Three quotes in a row are only written at the end of a string: right after one or two quotes no two more follow, unless the
string ends with them. -/
theorem basicLinesText_append_ne {quotes : Nat} (hquotes : quotes = 1 ∨ quotes = 2)
    (hopen : ¬(s.length + quotes ≤ 2 ∧ ∀ c ∈ s, c = '"')) (more after : List Char) :
    basicLinesText quotes s ++ more ≠ '"' :: '"' :: after := by
  have hdiffers : ∀ {text : List Char}, (∃ x inner, text = x :: inner ∧ x ≠ '"') → ∀ more after, text ++ more ≠ '"' :: after := by
    rintro _ ⟨x, inner, rfl, hx⟩ more after heq
    exact hx (List.cons.inj heq).1
  cases s with
  | nil =>
    refine absurd ⟨?_, by nofun⟩ hopen
    rcases hquotes with rfl | rfl <;> decide
  | cons c s =>
    by_cases hfirst : quotes = 2 ∨ c ≠ '"'
    · exact hdiffers (exists_basicLinesText_eq_cons hfirst s) more _
    · rw [not_or, not_not] at hfirst
      obtain ⟨htwo, rfl⟩ := hfirst
      obtain rfl : quotes = 1 := hquotes.resolve_right htwo
      rw [basicLinesText, if_pos rfl, if_neg (by decide), List.cons_append]
      intro heq
      cases s with
      | nil => exact hopen ⟨by decide, by simp⟩
      | cons d s => exact hdiffers (exists_basicLinesText_eq_cons (Or.inl rfl) s) more _ (List.cons.inj heq).2

/-- The inside of a string in triple double quotes is read back up to its closing quotes, from behind some of the quotes in a row
on, unless these are the last ones: those are read with the closing ones. -/
theorem basicTail_basicLinesText (hrest : rest.head? ≠ some '"') {quotes : Nat} (hquotes : quotes ≤ 2)
    (hopen : quotes = 0 ∨ ¬(s.length + quotes ≤ 2 ∧ ∀ c ∈ s, c = '"')) :
    basicTail true false (basicLinesText quotes s ++ '"' :: '"' :: '"' :: rest) = some (s, rest) := by
  induction s generalizing quotes with
  | nil =>
    have hextra := extraQuotes_replicate (k := 0) (by decide) hrest
    rw [basicLinesText, List.nil_append, basicTail.eq_6, if_pos rfl]
    exact congrArg some hextra
  | cons c s ih =>
    rw [basicLinesText]
    split
    · rename_i hquote
      subst hquote
      split
      · exact basicTail_letter (by decide) rfl (ih (by decide) (Or.inl rfl))
      · rename_i htwo
        rw [List.cons_append]
        by_cases hlast : s.length + (quotes + 1) ≤ 2 ∧ ∀ c ∈ s, c = '"'
        · -- the quotes that end the string are read from the first of them on
          obtain ⟨hlength, hall⟩ := hlast
          obtain rfl : quotes = 0 := hopen.resolve_right fun hnot =>
            hnot ⟨by rw [List.length_cons]; omega, List.forall_mem_cons.2 ⟨rfl, hall⟩⟩
          cases s with
          | nil =>
            have hextra := extraQuotes_replicate (k := 1) (by decide) hrest
            rw [basicLinesText, List.nil_append, basicTail.eq_6, if_pos rfl]
            exact congrArg some hextra
          | cons d s =>
            obtain ⟨rfl, -⟩ := List.forall_mem_cons.1 hall
            obtain rfl : s = [] := List.eq_nil_of_length_eq_zero (by rw [List.length_cons] at hlength; omega)
            have hextra := extraQuotes_replicate (k := 2) (by decide) hrest
            rw [basicLinesText, if_pos rfl, if_neg (by decide), basicLinesText, List.cons_append, List.nil_append, basicTail.eq_6,
              if_pos rfl]
            exact congrArg some hextra
        · have hne := basicLinesText_append_ne (by omega) hlast ('"' :: '"' :: '"' :: rest)
          rw [basicTail.eq_7 _ _ _ hne, if_pos rfl, ih (by omega) (Or.inr hlast)]
          rfl
    · rename_i hquote
      split
      · rename_i hline
        subst hline
        exact basicTail_cons hquote (by decide) (Or.inr ⟨rfl, rfl⟩) (ih (by decide) (Or.inl rfl))
      · rw [List.append_assoc]
        exact basicTail_escaped hquote (fun _ => rfl) (ih (by decide) (Or.inl rfl))

end Basic

/-! ## The inside of strings without escapes -/

section Literal

variable {multiline : Bool} {c : Char} {s after rest : List Char}

/-- A character that shows, and in a string of several lines the end of a line, is read as it is. -/
theorem literalTail_cons (hquote : c ≠ '\'') (hc : isShown c = true ∨ multiline = true ∧ c = '\n')
    (h : literalTail multiline rest = some (s, after)) : literalTail multiline (c :: rest) = some (c :: s, after) := by
  have hreturn : c ≠ '\r' := by
    rcases hc with hshown | ⟨-, rfl⟩
    · exact ne_return_of_isShown hshown
    · decide
  rw [literalTail.eq_5 _ _ _ hquote fun _ h' _ => hreturn h', if_pos, h]
  · rfl
  · simpa using hc

/-- The inside of a string in single quotes is read back up to its closing quote. -/
theorem literalTail_append (hs : ∀ c ∈ s, isShown c = true ∧ c ≠ '\'') :
    literalTail false (s ++ '\'' :: rest) = some (s, rest) := by
  induction s with
  | nil =>
    rw [List.nil_append]
    by_cases hmore : ∃ after, rest = '\'' :: '\'' :: after
    · obtain ⟨after, rfl⟩ := hmore
      rw [literalTail.eq_2, if_neg (by nofun)]
    · rw [literalTail.eq_3 _ _ fun after heq => hmore ⟨after, heq⟩, if_neg (by nofun)]
  | cons c s ih =>
    obtain ⟨⟨hshown, hquote⟩, hs⟩ := List.forall_mem_cons.1 hs
    exact literalTail_cons hquote (Or.inl hshown) (ih hs)

/-- The inside of a string in triple single quotes is read back up to its closing quotes, where it has no three in a row. -/
theorem literalTail_lines (hs : ∀ c ∈ s, isShown c = true ∨ c = '\n') (hrun : longestRun '\'' 0 s ≤ 2)
    (hrest : rest.head? ≠ some '\'') : literalTail true (s ++ '\'' :: '\'' :: '\'' :: rest) = some (s, rest) := by
  induction s with
  | nil =>
    have hextra := extraQuotes_replicate (k := 0) (by decide) hrest
    rw [List.nil_append, literalTail.eq_2, if_pos rfl]
    exact congrArg some hextra
  | cons c s ih =>
    obtain ⟨hc, hs⟩ := List.forall_mem_cons.1 hs
    have htail := ih hs ((longestRun_tail_le _ c s).trans hrun)
    by_cases hquote : c = '\''
    · subst hquote
      have hopen : (∀ after, s ++ '\'' :: '\'' :: '\'' :: rest ≠ '\'' :: '\'' :: after) →
          literalTail true ('\'' :: s ++ '\'' :: '\'' :: '\'' :: rest) = some ('\'' :: s, rest) := by
        intro hne
        rw [List.cons_append, literalTail.eq_3 _ _ hne, if_pos rfl, htail]
        rfl
      -- the quotes that end the string are read from the first of them on
      cases s with
      | nil =>
        have hextra := extraQuotes_replicate (k := 1) (by decide) hrest
        rw [List.cons_append, List.nil_append, literalTail.eq_2, if_pos rfl]
        exact congrArg some hextra
      | cons d more =>
        by_cases hd : d = '\''
        · subst hd
          cases more with
          | nil =>
            have hextra := extraQuotes_replicate (k := 2) (by decide) hrest
            rw [List.cons_append, List.cons_append, List.nil_append, literalTail.eq_2, if_pos rfl]
            exact congrArg some hextra
          | cons e more =>
            refine hopen fun after heq => ?_
            obtain rfl : e = '\'' := (List.cons.inj (List.cons.inj heq).2).1
            have hthree := le_longestRun '\'' (0 + 1 + 1 + 1) more
            rw [longestRun, if_pos rfl, longestRun, if_pos rfl, longestRun, if_pos rfl] at hrun
            omega
        · exact hopen fun after heq => hd (List.cons.inj heq).1
    · exact literalTail_cons hquote (hc.imp_right fun heq => ⟨rfl, heq⟩) htail

end Literal

/-! ## Strings -/

/-- What stands behind a string does not start with a quote. -/
def Unquoted (rest : List Char) : Prop := rest.head? ≠ some '"' ∧ rest.head? ≠ some '\''

/-- In a text that needs no escape every character shows as it is, or ends a line. -/
theorem isShown_of_any_eq_false {s : List Char} (h : s.any needsEscape = false) : ∀ c ∈ s, isShown c = true ∨ c = '\n' :=
  fun c hc => isShown_of_needsEscape (by simpa using List.any_eq_false.1 h c hc)

/-- A string in single quotes is all shown and has none of them. -/
theorem of_spellingOf_literal {s : List Char} (h : spellingOf s = .literal) : ∀ c ∈ s, isShown c = true ∧ c ≠ '\'' := by
  simp only [spellingOf] at h
  split_ifs at h with h₁ h₂
  simp only [Bool.and_eq_true, Bool.not_eq_true', beq_iff_eq] at h₂
  obtain ⟨⟨hescapes, hsingle⟩, hlines⟩ := h₂
  have hline : '\n' ∉ s := by simpa using hlines
  intro c hc
  refine ⟨(isShown_of_any_eq_false hescapes c hc).resolve_right ?_, ?_⟩
  · rintro rfl
    exact hline hc
  · rintro rfl
    exact not_mem_of_longestRun_eq_zero hsingle hc

/-- A string in triple single quotes has at most two of them in a row. -/
theorem of_spellingOf_literalLines {s : List Char} (h : spellingOf s = .literalLines) :
    (∀ c ∈ s, isShown c = true ∨ c = '\n') ∧ longestRun '\'' 0 s ≤ 2 := by
  simp only [spellingOf] at h
  split_ifs at h with h₁ h₂ h₃ h₄
  simp only [Bool.and_eq_true, Bool.not_eq_true', decide_eq_true_eq] at h₄
  exact ⟨isShown_of_any_eq_false h₄.1, h₄.2⟩

/-- The line end that a string of several lines starts with is dropped again, and nothing else is. -/
theorem dropLineEnd_start {s inner : List Char} (h : '\n' ∉ s → startsLine inner = false) :
    dropLineEnd ((if s.contains '\n' then ['\n'] else []) ++ inner) = inner := by
  split
  · rfl
  · rename_i hline
    exact dropLineEnd_eq_self (h (by simpa using hline))

/-- A string is read back from how it is written. -/
theorem readString?_stringText (text : String) {rest : List Char} (hrest : Unquoted rest) :
    readString? (stringText text ++ rest) = some (text, rest) := by
  obtain ⟨hdouble, hsingle⟩ := hrest
  have htext : String.ofList text.toList = text := String.ofList_toList
  generalize hs : text.toList = s at htext
  rw [stringText, hs]
  cases hspelling : spellingOf s with
  | basic =>
    have hne : ∀ after, basicText s ++ '"' :: rest ≠ '"' :: '"' :: after := by
      intro after heq
      cases s with
      | nil => exact hdouble (by rw [(List.cons.inj heq).2]; rfl)
      | cons c s =>
        obtain ⟨x, more, hx, hquote⟩ := exists_basicText_eq_cons c s
        rw [hx] at heq
        exact hquote (List.cons.inj heq).1
    simp only [List.cons_append, List.append_assoc, List.nil_append]
    rw [readString?.eq_2 _ hne, basicTail_basicText]
    exact congrArg (fun text => some (text, rest)) htext
  | literal =>
    have hshown := of_spellingOf_literal hspelling
    have hne : ∀ after, s ++ '\'' :: rest ≠ '\'' :: '\'' :: after := by
      intro after heq
      cases s with
      | nil => exact hsingle (by rw [(List.cons.inj heq).2]; rfl)
      | cons c s => exact (hshown c List.mem_cons_self).2 (List.cons.inj heq).1
    simp only [List.cons_append, List.append_assoc, List.nil_append]
    rw [readString?.eq_4 _ hne, literalTail_append hshown]
    exact congrArg (fun text => some (text, rest)) htext
  | basicLines =>
    simp only [List.cons_append, List.append_assoc, List.nil_append]
    rw [readString?.eq_1, dropLineEnd_start fun hline => startsLine_basicLinesText hline _,
      basicTail_basicLinesText hdouble (by decide) (Or.inl rfl)]
    exact congrArg (fun text => some (text, rest)) htext
  | literalLines =>
    obtain ⟨hshown, hrun⟩ := of_spellingOf_literalLines hspelling
    have hstart : '\n' ∉ s → startsLine (s ++ '\'' :: '\'' :: '\'' :: rest) = false := by
      intro hline
      cases s with
      | nil => rfl
      | cons c s =>
        have hc := (hshown c List.mem_cons_self).resolve_right (List.ne_of_not_mem_cons hline).symm
        exact startsLine_cons (ne_line_of_isShown hc) (ne_return_of_isShown hc) _
    simp only [List.cons_append, List.append_assoc, List.nil_append]
    rw [readString?.eq_3, dropLineEnd_start hstart, literalTail_lines hshown hrun hsingle]
    exact congrArg (fun text => some (text, rest)) htext

end RenderCatalog.Toml
