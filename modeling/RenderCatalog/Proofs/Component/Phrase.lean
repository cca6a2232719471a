import RenderCatalog.Proofs.Component.Spelling

/-!
# Phrases

An identifier of letters, digits, hyphens and underscores turns into words with single spaces between them
(`isPhrase_phrase`). What is written while the identifier is read ends in a letter or digit, or in one space behind one, and its
first character stays the first (`Open.step`, `Open.run`).

Nothing is written for the hyphens and underscores that an identifier starts with. Yet a capital behind them takes the space that
every other capital but the very first character takes, so the phrase of such an identifier starts with that space and then a
small letter (`phrase_hiddenCapital`): it is the only way for a phrase to start with a space.
-/

namespace RenderCatalog.Name

/-- A character that separates the words of an identifier. -/
def isSeparator (c : Char) : Bool := c == '_' || c == '-'

/-- The identifier starts with separators, and a capital stands behind them. -/
def hidesCapital (name : List Char) : Bool :=
  name.head?.any isSeparator && (name.dropWhile isSeparator).head?.any Char.isUpper

/-- An identifier of letters, digits and separators, with at least one letter or digit. -/
structure IsIdentifier (name : List Char) : Prop where
  plain : ∀ c ∈ name, c.isAlphanum = true ∨ isSeparator c = true
  named : ∃ c ∈ name, c.isAlphanum = true

instance (name : List Char) : Decidable (IsIdentifier name) :=
  decidable_of_iff ((name.all fun c => c.isAlphanum || isSeparator c) = true ∧ name.any Char.isAlphanum = true) <| by
    simp only [List.all_eq_true, Bool.or_eq_true, List.any_eq_true]
    exact ⟨fun h => ⟨h.1, h.2⟩, fun h => ⟨h.plain, h.named⟩⟩

/-- Words of letters and digits with single spaces between them. -/
structure Spaced (cs : List Char) : Prop where
  chars : ∀ c ∈ cs, c.isAlphanum = true ∨ c = ' '
  apart : ¬[' ', ' '] <:+: cs
  first : ∃ c, cs.head? = some c ∧ c.isAlphanum = true
  last : ∃ c, cs.getLast? = some c ∧ c.isAlphanum = true

/-- A clean phrase, but that it may start with a space: there is no separator in it, no space stands at its end or next to
another one, and it does not start with a small letter. -/
structure IsPhrase (cs : List Char) : Prop where
  unseparated : ∀ c ∈ cs, isSeparator c = false
  apart : ¬[' ', ' '] <:+: cs
  last : ∃ c, cs.getLast? = some c ∧ c ≠ ' '
  first : ∀ c, cs.head? = some c → c.isLower = false

variable {cs written name : List Char} {c : Char}

theorem ne_space_of_isAlphanum (h : c.isAlphanum = true) : c ≠ ' ' := by
  rintro rfl
  cases h

/-- A separator is neither a letter nor a digit. -/
theorem isSeparator_of_isAlphanum (h : c.isAlphanum = true) : isSeparator c = false := by
  rw [Bool.eq_false_iff]
  intro hseparator
  simp only [isSeparator, Bool.or_eq_true, beq_iff_eq] at hseparator
  rcases hseparator with rfl | rfl <;> cases h

theorem isBlank_of_isAlphanum (h : c.isAlphanum = true) : Text.isBlank c = false := by
  simp only [Char.isAlphanum, Char.isAlpha, Char.isUpper, Char.isLower, Char.isDigit, Bool.or_eq_true, Bool.and_eq_true,
    decide_eq_true_eq, ge_iff_le, UInt32.le_iff_toNat_le] at h
  have h0 : '0'.val.toNat = 48 := rfl
  have hA : 'A'.val.toNat = 65 := rfl
  have ha : 'a'.val.toNat = 97 := rfl
  have hz : 'z'.val.toNat = 122 := rfl
  have hZ : 'Z'.val.toNat = 90 := rfl
  have h9 : '9'.val.toNat = 57 := rfl
  simp only [Text.isBlank, Bool.or_eq_false_iff, Bool.and_eq_false_iff, decide_eq_false_iff_not, beq_eq_false_iff_ne]
  omega

/-! ## Spaced words -/

/-- One letter is a word. -/
theorem spaced_singleton (h : c.isAlphanum = true) : Spaced [c] := by
  refine ⟨?_, ?_, ⟨c, rfl, h⟩, ⟨c, rfl, h⟩⟩
  · simp [h]
  · intro hlater
    simpa using hlater.length_le

/-- What stands in front of a text that is not empty is not its last character. -/
theorem getLast?_cons_of_ne_nil {α : Type} {as : List α} (h : as ≠ []) (a : α) : (a :: as).getLast? = as.getLast? := by
  rw [List.getLast?_cons, List.getLast?_eq_getLast_of_ne_nil h]
  rfl

theorem Spaced.ne_nil (h : Spaced cs) : cs ≠ [] := by
  obtain ⟨c, hc, -⟩ := h.first
  rintro rfl
  cases hc

/-- No separator is left between words. -/
theorem Spaced.unseparated (h : Spaced cs) : ∀ c ∈ cs, isSeparator c = false := by
  intro c hmem
  rcases h.chars c hmem with hc | rfl
  · exact isSeparator_of_isAlphanum hc
  · rfl

/-- A letter in front makes the first word longer. -/
theorem Spaced.cons (h : Spaced cs) (hc : c.isAlphanum = true) : Spaced (c :: cs) := by
  refine ⟨?_, ?_, ⟨c, rfl, hc⟩, ?_⟩
  · exact List.forall_mem_cons.2 ⟨Or.inl hc, h.chars⟩
  · rw [List.infix_cons_iff]
    rintro (hfront | hlater)
    · exact ne_space_of_isAlphanum hc (List.cons_prefix_cons.1 hfront).1.symm
    · exact h.apart hlater
  · rw [getLast?_cons_of_ne_nil h.ne_nil]
    exact h.last

/-- No two spaces meet behind a space in front. -/
theorem Spaced.not_apart_cons (h : Spaced cs) : ¬[' ', ' '] <:+: ' ' :: cs := by
  obtain ⟨first, hfirst, halphanum⟩ := h.first
  obtain ⟨rest, rfl⟩ := List.head?_eq_some_iff.1 hfirst
  rw [List.infix_cons_iff]
  rintro (hfront | hlater)
  · have htail := (List.cons_prefix_cons.1 hfront).2
    exact ne_space_of_isAlphanum halphanum (List.cons_prefix_cons.1 htail).1.symm
  · exact h.apart hlater

/-- A letter and a space in front are another word. -/
theorem Spaced.space (h : Spaced cs) (hc : c.isAlphanum = true) : Spaced (c :: ' ' :: cs) := by
  refine ⟨?_, ?_, ⟨c, rfl, hc⟩, ?_⟩
  · exact List.forall_mem_cons.2 ⟨Or.inl hc, List.forall_mem_cons.2 ⟨Or.inr rfl, h.chars⟩⟩
  · rw [List.infix_cons_iff]
    rintro (hfront | hlater)
    · exact ne_space_of_isAlphanum hc (List.cons_prefix_cons.1 hfront).1.symm
    · exact h.not_apart_cons hlater
  · rw [getLast?_cons_of_ne_nil (by simp), getLast?_cons_of_ne_nil h.ne_nil]
    exact h.last

/-- Words read backwards are words. -/
theorem Spaced.reverse (h : Spaced cs) : Spaced cs.reverse := by
  refine ⟨?_, ?_, ?_, ?_⟩
  · intro c hc
    exact h.chars c (List.mem_reverse.1 hc)
  · intro hlater
    exact h.apart (List.reverse_infix.1 (by simpa using hlater))
  · rw [List.head?_reverse]
    exact h.last
  · rw [List.getLast?_reverse]
    exact h.first

/-! ## Writing the words -/

/-- What is written of an identifier that has begun, in reverse: words, with one space behind them where a separator was read. -/
def Open (written : List Char) : Prop := Spaced written ∨ ∃ words, written = ' ' :: words ∧ Spaced words

/-- A separator becomes a space, unless there is one already or nothing was written. -/
theorem phraseStep_of_isSeparator (hc : isSeparator c = true) (first : Bool) (written : List Char) :
    phraseStep first written c = if written.head? = some ' ' ∨ written = [] then written else ' ' :: written := by
  simp only [isSeparator, Bool.or_eq_true, beq_iff_eq] at hc
  simp [phraseStep, hc]

/-- A capital inside an identifier starts a word and loses its size. -/
theorem phraseStep_of_isUpper (hc : c.isAlphanum = true) (hupper : c.isUpper = true) (written : List Char) :
    phraseStep false written c = c.toLower :: if written.head? = some ' ' then written else ' ' :: written := by
  have hseparator := isSeparator_of_isAlphanum hc
  simp only [isSeparator, Bool.or_eq_false_iff, beq_eq_false_iff_ne] at hseparator
  simp [phraseStep, hseparator, Text.isCapital_of_isAlphanum hc, hupper, Text.small_of_isAlphanum hc]

/-- Any other letter or digit goes on with the word. -/
theorem phraseStep_of_not_isUpper (hc : c.isAlphanum = true) {first : Bool} (hupper : c.isUpper = false ∨ first = true)
    (written : List Char) : phraseStep first written c = c :: written := by
  have hseparator := isSeparator_of_isAlphanum hc
  simp only [isSeparator, Bool.or_eq_false_iff, beq_eq_false_iff_ne] at hseparator
  rcases hupper with hupper | hfirst
  · simp [phraseStep, hseparator, Text.isCapital_of_isAlphanum hc, hupper]
  · simp [phraseStep, hseparator, hfirst]

theorem Open.ne_nil (h : Open written) : written ≠ [] := by
  rcases h with h | ⟨words, rfl, -⟩
  · exact h.ne_nil
  · simp

/-- A letter or digit is written behind words, perhaps with a space before it. -/
theorem Open.letter (h : Open written) (hc : c.isAlphanum = true) :
    Open (c :: written) ∧ Open (c :: if written.head? = some ' ' then written else ' ' :: written) := by
  rcases h with h | ⟨words, rfl, h⟩
  · obtain ⟨first, hfirst, halphanum⟩ := h.first
    have hne : written.head? ≠ some ' ' := by
      rw [hfirst]
      exact fun heq => ne_space_of_isAlphanum halphanum (Option.some.inj heq)
    rw [if_neg hne]
    exact ⟨Or.inl (h.cons hc), Or.inl (h.space hc)⟩
  · exact ⟨Or.inl (h.space hc), Or.inl (h.space hc)⟩

/-- One more character of an identifier that has begun: what is written stays words, and starts as it did. -/
theorem Open.step (h : Open written) (hc : c.isAlphanum = true ∨ isSeparator c = true) :
    Open (phraseStep false written c) ∧ (phraseStep false written c).getLast? = written.getLast? := by
  have hspace : (if written.head? = some ' ' then written else ' ' :: written).getLast? = written.getLast? := by
    split
    · rfl
    · exact getLast?_cons_of_ne_nil h.ne_nil ' '
  rcases hc with hc | hc
  · cases hupper : c.isUpper with
    | true =>
      have hlower : c.toLower.isAlphanum = true := (Text.isAlphanum_toLower c).trans hc
      rw [phraseStep_of_isUpper hc hupper, getLast?_cons_of_ne_nil]
      · exact ⟨(h.letter hlower).2, hspace⟩
      · split
        · exact h.ne_nil
        · simp
    | false =>
      rw [phraseStep_of_not_isUpper hc (Or.inl hupper), getLast?_cons_of_ne_nil h.ne_nil]
      exact ⟨(h.letter hc).1, rfl⟩
  · rw [phraseStep_of_isSeparator hc]
    simp only [h.ne_nil, or_false]
    refine ⟨?_, hspace⟩
    rcases h with h | ⟨words, rfl, h⟩
    · split
      · exact Or.inl h
      · exact Or.inr ⟨written, rfl, h⟩
    · exact Or.inr ⟨words, rfl, h⟩

/-- All characters of an identifier that has begun. -/
theorem Open.run (h : Open written) (hcs : ∀ c ∈ cs, c.isAlphanum = true ∨ isSeparator c = true) :
    Open (cs.foldl (phraseStep false) written) ∧ (cs.foldl (phraseStep false) written).getLast? = written.getLast? := by
  induction cs generalizing written with
  | nil => exact ⟨h, rfl⟩
  | cons c cs ih =>
    obtain ⟨hc, hrest⟩ := List.forall_mem_cons.1 hcs
    obtain ⟨hopen, hlast⟩ := h.step hc
    obtain ⟨hopen', hlast'⟩ := ih hopen hrest
    exact ⟨hopen', hlast'.trans hlast⟩

/-- A step looks at no more than the last character that was written. -/
theorem phraseStep_append (hne : written ≠ []) (base : List Char) (c : Char) :
    phraseStep false (written ++ base) c = phraseStep false written c ++ base := by
  obtain ⟨x, rest, rfl⟩ := List.exists_cons_of_ne_nil hne
  unfold phraseStep
  by_cases hspace : x = ' '
  · simp [hspace, apply_ite (· ++ base)]
  · simp [hspace, apply_ite (· ++ base)]

/-- What was written before the words stays behind them. -/
theorem foldl_phraseStep_append (h : Open written) (base : List Char)
    (hcs : ∀ c ∈ cs, c.isAlphanum = true ∨ isSeparator c = true) :
    cs.foldl (phraseStep false) (written ++ base) = cs.foldl (phraseStep false) written ++ base := by
  induction cs generalizing written with
  | nil => rfl
  | cons c cs ih =>
    obtain ⟨hc, hrest⟩ := List.forall_mem_cons.1 hcs
    rw [List.foldl_cons, List.foldl_cons, phraseStep_append h.ne_nil]
    exact ih (h.step hc).1 hrest

/-- The words that were written, read forwards: the space that may stand behind them is trimmed. -/
theorem Open.trimEnd (h : Open written) (base : List Char) :
    ∃ words, Spaced words ∧ words.head? = written.getLast? ∧ Text.trimEnd (written ++ base).reverse = base.reverse ++ words := by
  have hkept : ∀ {words}, Spaced words → Text.trimEnd (base.reverse ++ words.reverse) = base.reverse ++ words.reverse := by
    intro words hwords
    obtain ⟨c, hlast, hc⟩ := hwords.reverse.last
    apply Text.trimEnd_eq_self
    intro d hd
    rw [List.getLast?_append, hlast] at hd
    cases hd
    exact isBlank_of_isAlphanum hc
  rcases h with h | ⟨words, rfl, h⟩
  · refine ⟨written.reverse, h.reverse, List.head?_reverse, ?_⟩
    rw [List.reverse_append, hkept h]
  · refine ⟨words.reverse, h.reverse, ?_, ?_⟩
    · rw [List.head?_reverse, getLast?_cons_of_ne_nil h.ne_nil]
    · have hblank : ∀ c ∈ [' '], Text.isBlank c = true := by simp [Text.isBlank]
      rw [List.reverse_append, List.reverse_cons, ← List.append_assoc, Text.trimEnd_append hblank, hkept h]

/-! ## The phrase -/

/-- Nothing is written for separators at the start. -/
theorem phraseWords_separators {separators : List Char} (h : ∀ c ∈ separators, isSeparator c = true) (c : Char) (rest : List Char) :
    phraseWords (separators ++ c :: rest) = (rest.foldl (phraseStep false) (phraseStep separators.isEmpty [] c)).reverse := by
  have hnothing : ∀ first, ∀ x ∈ separators, phraseStep first [] x = [] := by
    intro first x hx
    rw [phraseStep_of_isSeparator (h x hx), if_pos (Or.inr rfl)]
  have hfold : separators.foldl (phraseStep false) [] = [] := by
    clear h
    induction separators with
    | nil => rfl
    | cons x separators ih =>
      rw [List.foldl_cons, hnothing false x List.mem_cons_self]
      exact ih fun first y hy => hnothing first y (List.mem_cons_of_mem x hy)
  cases separators with
  | nil => rfl
  | cons x separators =>
    rw [List.cons_append, phraseWords, hnothing true x List.mem_cons_self, List.foldl_append, List.foldl_cons]
    rw [List.foldl_cons, hnothing false x List.mem_cons_self] at hfold
    rw [hfold]
    rfl

/-- An identifier is its separators at the start, a letter or digit, and what is behind that. -/
theorem IsIdentifier.exists_split (h : IsIdentifier name) : ∃ separators c rest, name = separators ++ c :: rest ∧
    (∀ x ∈ separators, isSeparator x = true) ∧ c.isAlphanum = true ∧ (∀ x ∈ rest, x.isAlphanum = true ∨ isSeparator x = true) ∧
      hidesCapital name = (!separators.isEmpty && c.isUpper) := by
  obtain ⟨plain, d, hd, halphanum⟩ := h
  have hdrop : name.dropWhile isSeparator ≠ [] := by
    intro hnil
    have hseparator := List.dropWhile_eq_nil_iff.1 hnil d hd
    rw [isSeparator_of_isAlphanum halphanum] at hseparator
    cases hseparator
  obtain ⟨c, rest, hrest⟩ := List.exists_cons_of_ne_nil hdrop
  have hsplit : name = name.takeWhile isSeparator ++ c :: rest := by
    rw [← hrest, List.takeWhile_append_dropWhile]
  have hnot : isSeparator c = false := by
    have hhead := List.head?_dropWhile_not isSeparator name
    rw [hrest] at hhead
    exact hhead
  have hmem : ∀ x ∈ c :: rest, x.isAlphanum = true ∨ isSeparator x = true := by
    intro x hx
    exact plain x (hsplit ▸ List.mem_append_right _ hx)
  refine ⟨_, c, rest, hsplit, fun x hx => List.mem_takeWhile_imp hx, ?_, fun x hx => hmem x (List.mem_cons_of_mem _ hx), ?_⟩
  · exact (hmem c List.mem_cons_self).resolve_right (by simp [hnot])
  · unfold hidesCapital
    rw [hrest]
    cases name with
    | nil => cases hd
    | cons x tail => cases hx : isSeparator x <;> simp [hx]

/-- Words stay words when their first letter takes another form. -/
theorem Spaced.of_cons {first : Char} (h : Spaced (first :: cs)) (hc : c.isAlphanum = true) : Spaced (c :: cs) := by
  obtain ⟨hchars, hapart, -, last, hlast, halphanum⟩ := h
  rw [List.infix_cons_iff, not_or] at hapart
  refine ⟨?_, ?_, ⟨c, rfl, hc⟩, ?_⟩
  · exact List.forall_mem_cons.2 ⟨Or.inl hc, (List.forall_mem_cons.1 hchars).2⟩
  · rw [List.infix_cons_iff]
    rintro (hfront | hlater)
    · exact ne_space_of_isAlphanum hc (List.cons_prefix_cons.1 hfront).1.symm
    · exact hapart.2 hlater
  · cases cs with
    | nil => exact ⟨c, rfl, hc⟩
    | cons d cs =>
      rw [getLast?_cons_of_ne_nil (by simp)] at hlast ⊢
      exact ⟨last, hlast, halphanum⟩

/-- The phrase of an identifier is its words, behind a space where a capital stands behind the separators at its start. -/
theorem exists_phrase_eq (h : IsIdentifier name) : ∃ c words, c.isLower = false ∧ Spaced (c :: words) ∧
    phrase name = if hidesCapital name then ' ' :: c.toLower :: words else c :: words := by
  obtain ⟨separators, c, rest, rfl, hseparators, hc, hrest, hhides⟩ := h.exists_split
  have hupper : c.toUpper.isAlphanum = true := (Text.isAlphanum_toUpper c).trans hc
  rw [hhides, phrase, phraseWords_separators hseparators]
  cases hcapital : !separators.isEmpty && c.isUpper with
  | true =>
    rw [Bool.and_eq_true, Bool.not_eq_true'] at hcapital
    have hlower : c.toLower.isAlphanum = true := (Text.isAlphanum_toLower c).trans hc
    have hstart : Open [c.toLower] := Or.inl (spaced_singleton hlower)
    obtain ⟨hopen, hlast⟩ := hstart.run hrest
    rw [List.getLast?_singleton] at hlast
    obtain ⟨words, hwords, hhead, htrim⟩ := hopen.trimEnd [' ']
    obtain ⟨tail, rfl⟩ := List.head?_eq_some_iff.1 (hhead.trans hlast)
    refine ⟨c, tail, by simpa using Char.not_isLower_of_isUpper hcapital.2, hwords.of_cons hc, ?_⟩
    have hfirst : phraseStep separators.isEmpty [] c = [c.toLower] ++ [' '] := by
      rw [hcapital.1, phraseStep_of_isUpper hc hcapital.2]
      rfl
    rw [hfirst, foldl_phraseStep_append hstart [' '] hrest, htrim]
    rfl
  | false =>
    have hstart : Open [c] := Or.inl (spaced_singleton hc)
    obtain ⟨hopen, hlast⟩ := hstart.run hrest
    rw [List.getLast?_singleton] at hlast
    obtain ⟨words, hwords, hhead, htrim⟩ := hopen.trimEnd []
    obtain ⟨tail, rfl⟩ := List.head?_eq_some_iff.1 (hhead.trans hlast)
    refine ⟨c.toUpper, tail, Char.isLower_toUpper_eq_false c, hwords.of_cons hupper, ?_⟩
    have hfirst : phraseStep separators.isEmpty [] c = [c] := by
      apply phraseStep_of_not_isUpper hc
      rw [Bool.and_eq_false_iff, Bool.not_eq_false'] at hcapital
      exact hcapital.symm
    rw [List.append_nil, List.reverse_nil, List.nil_append] at htrim
    rw [hfirst, htrim, Text.capitalize, Text.capital_of_isAlphanum hc]
    rfl

/-- The phrase of an identifier has no separator in it, no space at its end and no two spaces next to each other, and it does not
start with a small letter. It starts with a space only where the identifier hides a capital behind separators. -/
theorem isPhrase_phrase (h : IsIdentifier name) :
    IsPhrase (phrase name) ∧ ((phrase name).head? = some ' ' ↔ hidesCapital name = true) := by
  obtain ⟨c, words, hcapital, hspaced, heq⟩ := exists_phrase_eq h
  obtain ⟨first, hfirst, hc⟩ := hspaced.first
  cases hfirst
  rw [heq]
  cases hhides : hidesCapital name with
  | true =>
    have hlower : Spaced (c.toLower :: words) := hspaced.of_cons ((Text.isAlphanum_toLower c).trans hc)
    obtain ⟨last, hlast, halphanum⟩ := hlower.last
    refine ⟨⟨?_, hlower.not_apart_cons, ⟨last, ?_, ne_space_of_isAlphanum halphanum⟩, ?_⟩, ?_⟩
    · exact List.forall_mem_cons.2 ⟨rfl, hlower.unseparated⟩
    · exact (getLast?_cons_of_ne_nil (by simp) ' ').trans hlast
    · intro d hd
      cases hd
      rfl
    · simp
  | false =>
    obtain ⟨last, hlast, halphanum⟩ := hspaced.last
    refine ⟨⟨hspaced.unseparated, hspaced.apart, ⟨last, hlast, ne_space_of_isAlphanum halphanum⟩, ?_⟩, ?_⟩
    · intro d hd
      cases hd
      exact hcapital
    · simpa using ne_space_of_isAlphanum hc

/-- Separators of both kinds before, between and behind words, one of which starts with a capital. -/
theorem isPhrase_phrase_windSpeed :
    IsIdentifier "-_wind_-Speed--max2_".toList ∧ phrase "-_wind_-Speed--max2_".toList = "Wind speed max2".toList ∧
      hidesCapital "-_wind_-Speed--max2_".toList = false ∧ (phrase "-_wind_-Speed--max2_".toList).head? ≠ some ' ' := by
  have hname : IsIdentifier "-_wind_-Speed--max2_".toList := by decide
  have hhides : hidesCapital "-_wind_-Speed--max2_".toList = false := by decide
  refine ⟨hname, by decide +kernel, hhides, fun hspace => ?_⟩
  rw [(isPhrase_phrase hname).2, hhides] at hspace
  cases hspace

/-- A capital behind a separator is not the first character, so it takes a space, though no word stands before it. -/
theorem phrase_hiddenCapital :
    IsIdentifier "_Key".toList ∧ phrase "_Key".toList = " key".toList := ⟨by decide, by decide +kernel⟩

end RenderCatalog.Name
