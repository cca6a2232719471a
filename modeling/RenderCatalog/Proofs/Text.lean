import RenderCatalog.Proofs.Path
import RenderCatalog.Text.Search

/-!
# Trimming, searching and flattening texts

A text is trimmed when no blank stands at either end (`IsTrimmed`). Trimming gives such a text, leaves it as it is, and does not
see blanks that are put before it, so a word that was cut out of a text is cut out again wherever it is written.

A needle without blanks stands on one side of a blank (`infix_append`), and flattening neither adds nor takes one away
(`infix_of_infix_flatten`). Flattened texts are put together where no blank starts the second (`flatten_append`), and words are
split off one at a time (`words_append`).
-/

namespace RenderCatalog.Text

variable {cs blanks : List Char}

/-! ## Trimming -/

/-- No blank stands at either end of the text. -/
structure IsTrimmed (cs : List Char) : Prop where
  head : ∀ c, cs.head? = some c → isBlank c = false
  last : ∀ c, cs.getLast? = some c → isBlank c = false

/-- A text that was trimmed starts with no blank. -/
theorem head_trimStart (cs : List Char) : ∀ c, (trimStart cs).head? = some c → isBlank c = false := by
  intro c hc
  have hnot := List.head?_dropWhile_not isBlank cs
  rw [← trimStart, hc] at hnot
  exact hnot

theorem last_trimEnd (cs : List Char) : ∀ c, (trimEnd cs).getLast? = some c → isBlank c = false := by
  intro c hc
  rw [trimEnd, List.getLast?_reverse] at hc
  exact head_trimStart cs.reverse c hc

/-- A text that starts with no blank stays when it is trimmed in front. -/
theorem trimStart_eq_self (h : ∀ c, cs.head? = some c → isBlank c = false) : trimStart cs = cs := by
  cases cs with
  | nil => rfl
  | cons c rest => rw [trimStart, List.dropWhile_cons_of_neg (by simp [h c rfl])]

theorem trimEnd_eq_self (h : ∀ c, cs.getLast? = some c → isBlank c = false) : trimEnd cs = cs := by
  have hreverse : trimStart cs.reverse = cs.reverse := trimStart_eq_self fun c hc => h c (by rwa [List.head?_reverse] at hc)
  rw [trimEnd, ← trimStart, hreverse, List.reverse_reverse]

/-- Blanks at the end make no difference. -/
theorem trimEnd_append (hblanks : ∀ c ∈ blanks, isBlank c = true) (cs : List Char) : trimEnd (cs ++ blanks) = trimEnd cs := by
  rw [trimEnd, List.reverse_append, List.dropWhile_append_of_pos, ← trimEnd]
  exact fun c hc => hblanks c (List.mem_reverse.1 hc)

/-- What is left of a text that loses the blanks at its end is the front of it. -/
theorem prefix_trimEnd (cs : List Char) : trimEnd cs <+: cs := List.rdropWhile_prefix isBlank cs

/-- Only blanks are cut off at the end. -/
theorem exists_blanks_behind (cs : List Char) : ∃ blanks, (∀ c ∈ blanks, isBlank c = true) ∧ cs = trimEnd cs ++ blanks :=
  ⟨cs.rtakeWhile isBlank, fun _ hc => List.mem_rtakeWhile_imp hc, List.rdropWhile_append_rtakeWhile.symm⟩

/-- Trimming brings no character in. -/
theorem trim_subset (cs : List Char) : trim cs ⊆ cs :=
  fun _ hc => (List.dropWhile_suffix isBlank).subset ((prefix_trimEnd _).subset hc)

/-- The front of a text starts as the text does, unless it is empty. -/
theorem head_of_front {p : Char → Prop} {front : List Char} (hfront : front <+: cs) (h : ∀ c, cs.head? = some c → p c) :
    ∀ c, front.head? = some c → p c := by
  intro c hc
  obtain ⟨rest, rfl⟩ := hfront
  obtain ⟨more, rfl⟩ := List.head?_eq_some_iff.1 hc
  exact h c rfl

theorem isTrimmed_trim (cs : List Char) : IsTrimmed (trim cs) :=
  ⟨head_of_front (prefix_trimEnd _) (head_trimStart cs), last_trimEnd _⟩

/-- A trimmed text stays when it is trimmed. -/
theorem trim_eq_self (h : IsTrimmed cs) : trim cs = cs := by
  rw [trim, trimStart_eq_self h.head, trimEnd_eq_self h.last]

/-- A trimmed text is cut out of the blanks before it. -/
theorem trim_append (hblanks : ∀ c ∈ blanks, isBlank c = true) (h : IsTrimmed cs) : trim (blanks ++ cs) = cs := by
  rw [trim, trimStart, List.dropWhile_append_of_pos hblanks, ← trimStart, ← trim, trim_eq_self h]

/-- The suffix that a text was given is dropped. -/
theorem dropSuffix?_append (front suffix : List Char) : dropSuffix? suffix (front ++ suffix) = some front := by
  rw [dropSuffix?, if_pos (List.isSuffixOf_iff_suffix.2 (List.suffix_append front suffix))]
  simp

/-- A suffix cannot be dropped when the text does not end with it. -/
theorem dropSuffix?_eq_none_iff {suffix : List Char} : dropSuffix? suffix cs = none ↔ ¬suffix <:+ cs := by
  rw [dropSuffix?, ← List.isSuffixOf_iff_suffix]
  split <;> simp_all

/-- What was dropped was the end. -/
theorem eq_append_of_dropSuffix? {suffix front : List Char} (h : dropSuffix? suffix cs = some front) : cs = front ++ suffix := by
  rw [dropSuffix?] at h
  split at h
  · rename_i hsuffix
    obtain ⟨before, rfl⟩ := List.isSuffixOf_iff_suffix.1 hsuffix
    obtain rfl := Option.some.inj h
    simp
  · cases h

/-! ## Searching -/

/-- A needle occurs when it is part of the text. -/
theorem occurs_iff {needle : List Char} : occurs needle cs = true ↔ needle <:+: cs := by
  induction cs with
  | nil => rw [occurs, List.isEmpty_iff, List.infix_nil]
  | cons c rest ih => rw [occurs, Bool.or_eq_true, List.isPrefixOf_iff_prefix, ih, List.infix_cons_iff]

/-- What follows the last occurrence does not depend on what stands before it. -/
theorem afterLast?_append {needle rest : List Char} (h : afterLast? needle cs = some rest) (before : List Char) :
    afterLast? needle (before ++ cs) = some rest := by
  induction before with
  | nil => exact h
  | cons c before ih => rw [List.cons_append, afterLast?, ih]

/-- Nothing stands behind a needle that does not occur. -/
theorem afterLast?_eq_none {needle : List Char} (h : ¬needle <:+: cs) : afterLast? needle cs = none := by
  induction cs with
  | nil =>
    rw [List.infix_nil] at h
    rw [afterLast?, if_neg (by simpa using h)]
  | cons c rest ih =>
    rw [List.infix_cons_iff, not_or, ← List.isPrefixOf_iff_prefix] at h
    rw [afterLast?, ih h.2, if_neg h.1]

/-- A needle that does not occur again is the last one, if it cannot start over inside itself. -/
theorem afterLast?_needle {first : Char} {more : List Char} (hmore : first ∉ more) (h : ¬first :: more <:+: cs) :
    afterLast? (first :: more) (first :: more ++ cs) = some cs := by
  -- an occurrence that starts inside the needle would start with its first character there
  have hnone : ∀ before : List Char, first ∉ before → ¬first :: more <:+: before ++ cs := by
    intro before hbefore
    induction before with
    | nil => exact h
    | cons c before ih =>
      rw [List.mem_cons, not_or] at hbefore
      rw [List.cons_append, List.infix_cons_iff, List.cons_prefix_cons]
      rintro (hstart | hinside)
      · exact hbefore.1 hstart.1
      · exact ih hbefore.2 hinside
  rw [List.cons_append, afterLast?, afterLast?_eq_none (hnone more hmore)]
  simp

/-- No needle stands where its first character does not. -/
theorem beforeFirst_append {first : Char} {front : List Char} (h : first ∉ front) (more rest : List Char) :
    beforeFirst (first :: more) (front ++ rest) = front ++ beforeFirst (first :: more) rest := by
  induction front with
  | nil => rfl
  | cons c front ih =>
    rw [List.mem_cons, not_or] at h
    rw [List.cons_append, beforeFirst, if_neg (by simp [h.1]), ih h.2, List.cons_append]

/-- What stands before a needle is how the text starts. -/
theorem prefix_beforeFirst (needle cs : List Char) : beforeFirst needle cs <+: cs := by
  induction cs with
  | nil => exact List.prefix_rfl
  | cons c cs ih =>
    rw [beforeFirst]
    split
    · exact List.nil_prefix
    · exact List.cons_prefix_cons.2 ⟨rfl, ih⟩

/-! ## Blanks between words -/

variable {needle word rest : List Char}

/-- A front without blanks does not reach into what starts with one. -/
theorem prefix_of_prefix_append (hneedle : ∀ c ∈ needle, isBlank c = false)
    (hrest : ∀ c, rest.head? = some c → isBlank c = true) (h : needle <+: cs ++ rest) : needle <+: cs := by
  rcases List.prefix_or_prefix_of_prefix h (List.prefix_append cs rest) with hfront | ⟨more, rfl⟩
  · exact hfront
  · cases more with
    | nil => rw [List.append_nil]
    | cons x more =>
      obtain ⟨tail, rfl⟩ := (List.prefix_append_right_inj cs).1 h
      have hx : isBlank x = false := hneedle x (by simp)
      rw [hrest x rfl] at hx
      cases hx

/-- A part without blanks of two texts in a row, the second of which starts with one, is a part of one of them. -/
theorem infix_append (hneedle : ∀ c ∈ needle, isBlank c = false) (hrest : ∀ c, rest.head? = some c → isBlank c = true)
    (h : needle <:+: cs ++ rest) : needle <:+: cs ∨ needle <:+: rest := by
  induction cs with
  | nil => exact Or.inr h
  | cons c cs ih =>
    rw [List.cons_append, List.infix_cons_iff, ← List.cons_append] at h
    rcases h with hstart | hinside
    · exact Or.inl (prefix_of_prefix_append hneedle hrest hstart).isInfix
    · exact (ih hinside).imp_left fun hin => List.infix_cons hin

/-- A part without blanks of a text behind blanks is a part of that text. -/
theorem infix_of_infix_append (hneedle : ∀ c ∈ needle, isBlank c = false) (hblanks : ∀ c ∈ blanks, isBlank c = true)
    (h : needle <:+: blanks ++ cs) : needle <:+: cs := by
  induction blanks with
  | nil => exact h
  | cons c blanks ih =>
    obtain ⟨hc, hrest⟩ := List.forall_mem_cons.1 hblanks
    rw [List.cons_append, List.infix_cons_iff] at h
    rcases h with hstart | hinside
    · cases needle with
      | nil => exact List.nil_infix
      | cons x needle =>
        obtain ⟨rfl, -⟩ := List.cons_prefix_cons.1 hstart
        rw [hneedle x List.mem_cons_self] at hc
        cases hc
    · exact ih hrest hinside

/-! ## Flattening -/

/-- Only blanks are flattened. -/
theorem flatten_cons_of_not_blank {c : Char} (hc : isBlank c = false) (rest : List Char) : flatten (c :: rest) = c :: flatten rest := by
  rw [flatten.eq_def]
  simp [hc]

/-- A blank turns into a space, unless another one follows it. -/
theorem flatten_cons_of_blank {c : Char} (hc : isBlank c = true) (rest : List Char) :
    flatten (c :: rest) = if rest.head?.any isBlank then flatten rest else ' ' :: flatten rest := by
  rw [flatten.eq_def]
  cases rest with
  | nil => simp [hc, flatten]
  | cons d rest =>
    simp only [hc, if_true]
    rfl

/-- A flattened text starts with a space where the text starts with a blank. -/
theorem head?_flatten {c : Char} (hc : isBlank c = true) (rest : List Char) : (flatten (c :: rest)).head? = some ' ' := by
  induction rest generalizing c with
  | nil => rw [flatten_cons_of_blank hc]; rfl
  | cons d rest ih =>
    rw [flatten_cons_of_blank hc]
    split
    · rename_i hd
      exact ih (by simpa using hd)
    · rfl

/-- A word stays as it is. -/
theorem flatten_append_of_forall (hword : ∀ c ∈ word, isBlank c = false) (rest : List Char) :
    flatten (word ++ rest) = word ++ flatten rest := by
  induction word with
  | nil => rfl
  | cons c word ih =>
    obtain ⟨hc, hmore⟩ := List.forall_mem_cons.1 hword
    rw [List.cons_append, flatten_cons_of_not_blank hc, ih hmore, List.cons_append]

/-- A run of blanks becomes one space. -/
theorem flatten_append_of_blank (hne : blanks ≠ []) (hblanks : ∀ c ∈ blanks, isBlank c = true)
    (hrest : ∀ c, rest.head? = some c → isBlank c = false) : flatten (blanks ++ rest) = ' ' :: flatten rest := by
  induction blanks with
  | nil => exact absurd rfl hne
  | cons c blanks ih =>
    obtain ⟨hc, hmore⟩ := List.forall_mem_cons.1 hblanks
    rw [List.cons_append, flatten_cons_of_blank hc]
    cases blanks with
    | nil =>
      rw [List.nil_append, if_neg]
      cases hhead : rest.head? with
      | none => simp
      | some d => simp [hrest d hhead]
    | cons d blanks => rw [if_pos (by simp [hmore d List.mem_cons_self]), ih (by simp) hmore]

/-- A text can be flattened in two parts, if no blank starts the second. -/
theorem flatten_append (hrest : ∀ c, rest.head? = some c → isBlank c = false) (cs : List Char) :
    flatten (cs ++ rest) = flatten cs ++ flatten rest := by
  induction cs with
  | nil => rfl
  | cons c cs ih =>
    by_cases hc : isBlank c = true
    · have hhead : (cs ++ rest).head?.any isBlank = cs.head?.any isBlank := by
        cases cs with
        | nil =>
          cases rest with
          | nil => rfl
          | cons d rest => simpa using hrest d rfl
        | cons d cs => rfl
      rw [List.cons_append, flatten_cons_of_blank hc, flatten_cons_of_blank hc, hhead, ih]
      split <;> rfl
    · rw [Bool.not_eq_true] at hc
      rw [List.cons_append, flatten_cons_of_not_blank hc, flatten_cons_of_not_blank hc, ih, List.cons_append]

/-- Flattening changes nothing about blanks but how many there are. -/
theorem isBlank_of_mem_flatten (hblanks : ∀ c ∈ blanks, isBlank c = true) : ∀ c ∈ flatten blanks, isBlank c = true := by
  induction blanks with
  | nil => nofun
  | cons c blanks ih =>
    obtain ⟨hc, hmore⟩ := List.forall_mem_cons.1 hblanks
    rw [flatten_cons_of_blank hc]
    split
    · exact ih hmore
    · exact List.forall_mem_cons.2 ⟨rfl, ih hmore⟩

/-- A front without blanks of a flattened text is a front of the text. -/
theorem prefix_of_prefix_flatten (hneedle : ∀ c ∈ needle, isBlank c = false) (h : needle <+: flatten cs) : needle <+: cs := by
  induction needle generalizing cs with
  | nil => exact List.nil_prefix
  | cons x needle ih =>
    obtain ⟨hx, hmore⟩ := List.forall_mem_cons.1 hneedle
    cases cs with
    | nil => exact h
    | cons c cs =>
      by_cases hc : isBlank c = true
      · obtain ⟨tail, htail⟩ := List.head?_eq_some_iff.1 (head?_flatten hc cs)
        rw [htail] at h
        obtain ⟨rfl, -⟩ := List.cons_prefix_cons.1 h
        cases hx
      · rw [Bool.not_eq_true] at hc
        rw [flatten_cons_of_not_blank hc, List.cons_prefix_cons] at h
        exact List.cons_prefix_cons.2 ⟨h.1, ih hmore h.2⟩

/-- A part without blanks of a flattened text is a part of the text. -/
theorem infix_of_infix_flatten (hneedle : ∀ c ∈ needle, isBlank c = false) (h : needle <:+: flatten cs) : needle <:+: cs := by
  induction cs with
  | nil => exact h
  | cons c cs ih =>
    by_cases hc : isBlank c = true
    · have hin : needle <:+: flatten cs := by
        rw [flatten_cons_of_blank hc] at h
        split at h
        · exact h
        · exact infix_of_infix_append hneedle (List.forall_mem_singleton.2 rfl : ∀ c ∈ [' '], isBlank c = true) h
      exact List.infix_cons (ih hin)
    · rw [Bool.not_eq_true] at hc
      have hfront : needle <+: flatten (c :: cs) → needle <+: c :: cs := prefix_of_prefix_flatten hneedle
      rw [flatten_cons_of_not_blank hc] at h hfront
      exact (List.infix_cons_iff.1 h).elim (fun hp => (hfront hp).isInfix) fun hi => List.infix_cons (ih hi)

/-! ## Words -/

/-- A blank in front of words is none of them. -/
theorem words_cons_of_blank {c : Char} (hc : isBlank c = true) (rest : List Char) : words (c :: rest) = words rest := by
  rw [words, ← List.nil_append (c :: rest), pieces_append hc, List.filter_append]
  rfl

/-- Blanks are no words. -/
theorem words_of_forall (hblanks : ∀ c ∈ blanks, isBlank c = true) : words blanks = [] := by
  induction blanks with
  | nil => rfl
  | cons c blanks ih =>
    obtain ⟨hc, hmore⟩ := List.forall_mem_cons.1 hblanks
    rw [words_cons_of_blank hc, ih hmore]

/-- A text without blanks is a word, if nothing or a blank follows it. -/
theorem words_append (hne : word ≠ []) (hword : ∀ c ∈ word, isBlank c = false)
    (hrest : ∀ c, rest.head? = some c → isBlank c = true) : words (word ++ rest) = word :: words rest := by
  have hone : (pieces isBlank word).filter (!·.isEmpty) = [word] := by
    rw [pieces_of_forall hword]
    simpa using hne
  cases rest with
  | nil => rw [List.append_nil, words, hone]; rfl
  | cons c rest =>
    have hc := hrest c rfl
    rw [words_cons_of_blank hc, words, pieces_append hc, List.filter_append, hone, List.singleton_append, words]

end RenderCatalog.Text
