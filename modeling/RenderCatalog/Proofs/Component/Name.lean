import RenderCatalog.Component.Name
import RenderCatalog.Proofs.Path

/-!
# Spellings of a component name

A component name is made of the segments of a file stem, each with a capital, and its title is made from the name alone: a space
before every capital but a leading one. So the title of the name is that of the stem where the segments can be told apart by
their capitals (`Worded`): every segment but the first starts with a capital, and no segment has a capital inside. Where the stem
has no space of its own there is no other way (`title_pascal_iff`).
-/

namespace RenderCatalog

/-! ## Capital forms -/

namespace Text

/-- No spelling of a capital form is empty, and none has a small ASCII letter or a character before the digits in it. -/
theorem capitalSpellings_all :
    capitalSpellings.all (fun e => !e.2.isEmpty && e.2.all fun n => decide (48 ≤ n) && (n < 97 || 122 < n)) = true := by
  decide +kernel

/-- No run of small letters has a capital form at a small ASCII letter or before the digits. -/
theorem capitalRuns_forall :
    ∀ run ∈ capitalRuns, 122 < run.first + run.shift ∨ 47 < run.first + run.shift ∧ run.last + run.shift < 97 := by
  decide +kernel

/-- A code point gives no other character than the one it is the code point of, or the first one of all. -/
theorem ofNat_ne {n : Nat} {c : Char} (h₀ : c.toNat ≠ 0) (h : n ≠ c.toNat) : Char.ofNat n ≠ c := by
  rintro rfl
  rw [Char.ofNat] at h₀ h
  split at h
  · exact h rfl
  · rename_i hvalid
    rw [dif_neg hvalid] at h₀
    exact h₀ rfl

/-- The plain small letters stand in a row. -/
theorem isLower_iff {c : Char} : c.isLower = true ↔ 97 ≤ c.toNat ∧ c.toNat ≤ 122 := by
  rw [Char.isLower, Bool.and_eq_true, decide_eq_true_eq, decide_eq_true_eq]
  exact Iff.rfl

/-- No other character is one of them. -/
theorem isLower_ofNat_eq_false {n : Nat} (h : n < 97 ∨ 122 < n) : (Char.ofNat n).isLower = false := by
  rw [Bool.eq_false_iff]
  intro hlower
  have hrange := isLower_iff.1 hlower
  have hne : Char.ofNat n ≠ Char.ofNat n := ofNat_ne (by omega) (by omega)
  exact hne rfl

/-- A character before the digits is the plain capital form of no other. -/
theorem eq_of_toUpper {c : Char} (h : c.toUpper.toNat < 48) : c = c.toUpper := by
  by_cases hlower : c.isLower
  · have hrange := isLower_iff.1 hlower
    rw [Char.toUpper_eq_of_isLower hlower] at h
    have hvalid : (c.toNat - 32).isValidChar := Or.inl (by omega)
    rw [Char.ofNat, dif_pos hvalid] at h
    have hvalue : (Char.ofNatAux (c.toNat - 32) hvalid).toNat = c.toNat - 32 := rfl
    omega
  · rw [Char.toUpper_eq_of_not_isLower hlower]

/-- The capital form of a character is not empty, has no small ASCII letter in it, and a sign before the digits only where the
character is that sign. -/
theorem capital_forall (c : Char) :
    capital c ≠ [] ∧ ∀ x ∈ capital c, x.isLower = false ∧ (x.toNat ≠ 0 → x.toNat < 48 → c = x) := by
  rw [capital]
  split
  · refine ⟨by simp, fun x hx => ?_⟩
    obtain rfl := List.mem_singleton.1 hx
    exact ⟨Char.isLower_toUpper_eq_false c, fun _ => eq_of_toUpper⟩
  · rename_i hplain
    have hnone : ∀ n : Nat, n < 97 ∨ 122 < n → 48 ≤ n →
        (Char.ofNat n).isLower = false ∧ ((Char.ofNat n).toNat ≠ 0 → (Char.ofNat n).toNat < 48 → c = Char.ofNat n) :=
      fun n hlower hsign => ⟨isLower_ofNat_eq_false hlower, fun h₀ h => absurd rfl (ofNat_ne h₀ (by omega))⟩
    split
    · rename_i spelling hspelling
      obtain ⟨l₁, l₂, hsplit, -⟩ := List.lookup_eq_some_iff.1 hspelling
      have hall := List.all_eq_true.1 capitalSpellings_all (c.val.toNat, spelling) (by rw [hsplit]; simp)
      rw [Bool.and_eq_true, List.all_eq_true] at hall
      refine ⟨by simpa using hall.1, fun x hx => ?_⟩
      obtain ⟨n, hn, rfl⟩ := List.mem_map.1 hx
      have hne := hall.2 n hn
      rw [Bool.and_eq_true, Bool.or_eq_true, decide_eq_true_eq, decide_eq_true_eq, decide_eq_true_eq] at hne
      exact hnone n hne.2 hne.1
    · refine ⟨by simp, fun x hx => ?_⟩
      obtain rfl := List.mem_singleton.1 hx
      rw [shifted?]
      cases hfind : capitalRuns.find? (·.has c.val.toNat) with
      | none =>
        refine ⟨?_, fun _ _ => rfl⟩
        rw [Bool.eq_false_iff]
        intro hlower
        have hrange := isLower_iff.1 (show c.isLower = true from hlower)
        exact hplain (decide_eq_true (show c.toNat < 128 by omega))
      | some run =>
        have hhas : run.has c.val.toNat = true := by simpa using List.find?_some hfind
        rw [Span.has, Bool.and_eq_true, Bool.and_eq_true, decide_eq_true_eq, decide_eq_true_eq] at hhas
        have hrun := capitalRuns_forall run (List.mem_of_find?_eq_some hfind)
        exact hnone _ (by omega) (by omega)

/-- A sign before the digits is in the capitalized form of a word only where it is in the word. -/
theorem mem_of_mem_capitalize {word : List Char} {sign : Char} (h₀ : sign.toNat ≠ 0) (hsign : sign.toNat < 48)
    (h : sign ∈ capitalize word) : sign ∈ word := by
  cases word with
  | nil => cases h
  | cons c rest =>
    rw [capitalize, List.mem_append] at h
    rcases h with hfirst | hrest
    · rw [((capital_forall c).2 sign hfirst).2 h₀ hsign]
      exact List.mem_cons_self
    · exact List.mem_cons_of_mem _ hrest

/-- The capitalized form of a word is not empty, unless the word is. -/
theorem capitalize_ne_nil {word : List Char} (h : word ≠ []) : capitalize word ≠ [] := by
  cases word with
  | nil => exact absurd rfl h
  | cons c rest => exact List.append_ne_nil_of_left_ne_nil (capital_forall c).1 rest

end Text

/-! ## Component names -/

namespace Name

/-- A segment of a stem is a word: it is not empty, and its characters are those of the stem. -/
theorem of_mem_segments {stem segment : List Char} (h : segment ∈ segments stem) : segment ≠ [] ∧ segment ⊆ stem := by
  obtain ⟨hpiece, hne⟩ := List.mem_filter.1 h
  exact ⟨by simpa using hne, fun c hc => Text.mem_of_mem_pieces hpiece hc⟩

/-- A component name has no slash, when its stem has none. -/
theorem no_slash_pascal {stem : List Char} (h : '/' ∉ stem) : '/' ∉ pascal stem := by
  intro hmem
  obtain ⟨_, hcapitalized, hslash⟩ := List.mem_flatten.1 hmem
  obtain ⟨segment, hsegment, rfl⟩ := List.mem_map.1 hcapitalized
  exact h ((of_mem_segments hsegment).2 (Text.mem_of_mem_capitalize (by decide) (by decide) hslash))

/-- A component name does not start with a small ASCII letter. -/
theorem isLower_head_pascal {stem : List Char} {first : Char} (h : (pascal stem).head? = some first) : first.isLower = false := by
  cases hsegments : segments stem with
  | nil =>
    rw [pascal, hsegments] at h
    cases h
  | cons segment rest =>
    have hmem : segment ∈ segments stem := by
      rw [hsegments]
      exact List.mem_cons_self
    obtain ⟨c, more, rfl⟩ := List.exists_cons_of_ne_nil (of_mem_segments hmem).1
    obtain ⟨hcapital, hforall⟩ := Text.capital_forall c
    rw [pascal, hsegments, List.map_cons, List.flatten_cons, Text.capitalize, List.append_assoc,
      List.head?_append_of_ne_nil _ hcapital] at h
    exact (hforall first (List.mem_of_head? h)).1

/-! ## Titles -/

/-- A space before every capital. -/
def spaced (cs : List Char) : List Char := cs.flatMap fun c => if Text.isCapital c then [' ', c] else [c]

/-- A text that starts with a capital and has no other. -/
def IsWord (word : List Char) : Prop :=
  ∃ first rest, word = first :: rest ∧ Text.isCapital first = true ∧ ∀ c ∈ rest, Text.isCapital c = false

/-- Texts that can be told apart by their capitals: all but the first one start with a capital, and none has one inside. -/
def Worded : List (List Char) → Prop
  | [] => True
  | first :: rest => (∀ c ∈ first.tail, Text.isCapital c = false) ∧ ∀ word ∈ rest, IsWord word

variable {words : List (List Char)} {word : List Char}

/-- A space is put before a capital. -/
theorem spaced_cons_of_capital {c : Char} (hc : Text.isCapital c = true) (rest : List Char) :
    spaced (c :: rest) = ' ' :: c :: spaced rest := by
  rw [spaced, List.flatMap_cons, if_pos hc]
  rfl

/-- Before other characters nothing is put. -/
theorem spaced_cons_of_not_capital {c : Char} (hc : Text.isCapital c = false) (rest : List Char) :
    spaced (c :: rest) = c :: spaced rest := by
  rw [spaced, List.flatMap_cons, if_neg (by simp [hc])]
  rfl

/-- Characters that are no capitals stay as they are. -/
theorem spaced_append_of_forall (h : ∀ c ∈ word, Text.isCapital c = false) (rest : List Char) :
    spaced (word ++ rest) = word ++ spaced rest := by
  induction word with
  | nil => rfl
  | cons c word ih =>
    obtain ⟨hc, hword⟩ := List.forall_mem_cons.1 h
    rw [List.cons_append, spaced_cons_of_not_capital hc, ih hword, List.cons_append]

/-- Words in a row are told apart by a space before each. -/
theorem spaced_flatten (h : ∀ word ∈ words, IsWord word) : spaced words.flatten = words.flatMap (' ' :: ·) := by
  induction words with
  | nil => rfl
  | cons word words ih =>
    obtain ⟨⟨first, rest, rfl, hfirst, hrest⟩, hwords⟩ := List.forall_mem_cons.1 h
    rw [List.flatten_cons, List.cons_append, spaced_cons_of_capital hfirst, spaced_append_of_forall hrest, ih hwords,
      List.flatMap_cons]
    rfl

/-- A text without spaces that shows no space before its capitals has none. -/
theorem of_spaced_append {rest rest' : List Char} (hspace : ' ' ∉ word) (h : spaced (word ++ rest) = word ++ rest') :
    (∀ c ∈ word, Text.isCapital c = false) ∧ spaced rest = rest' := by
  induction word with
  | nil => exact ⟨nofun, h⟩
  | cons c word ih =>
    rw [List.mem_cons, not_or] at hspace
    cases hcapital : Text.isCapital c with
    | true =>
      rw [List.cons_append, spaced_cons_of_capital hcapital] at h
      exact absurd (List.cons.inj h).1 hspace.1
    | false =>
      rw [List.cons_append, spaced_cons_of_not_capital hcapital] at h
      obtain ⟨hword, hrest⟩ := ih hspace.2 (List.cons.inj h).2
      exact ⟨List.forall_mem_cons.2 ⟨hcapital, hword⟩, hrest⟩

/-- Texts without spaces that are told apart by a space before each capital are words. -/
theorem isWord_of_spaced_flatten (hwords : ∀ word ∈ words, word ≠ [] ∧ ' ' ∉ word)
    (h : spaced words.flatten = words.flatMap (' ' :: ·)) : ∀ word ∈ words, IsWord word := by
  induction words with
  | nil => nofun
  | cons word words ih =>
    obtain ⟨⟨hne, hspace⟩, hrest⟩ := List.forall_mem_cons.1 hwords
    obtain ⟨first, more, rfl⟩ := List.exists_cons_of_ne_nil hne
    rw [List.mem_cons, not_or] at hspace
    rw [List.flatten_cons, List.flatMap_cons, List.cons_append] at h
    cases hcapital : Text.isCapital first with
    | true =>
      rw [spaced_cons_of_capital hcapital] at h
      obtain ⟨hmore, hwords'⟩ := of_spaced_append hspace.2 (List.cons.inj (List.cons.inj h).2).2
      exact List.forall_mem_cons.2 ⟨⟨first, more, rfl, hcapital, hmore⟩, ih hrest hwords'⟩
    | false =>
      rw [spaced_cons_of_not_capital hcapital] at h
      exact absurd (List.cons.inj h).1.symm hspace.1

/-- The title of texts in a row is these texts with spaces between, when they are told apart by their capitals. -/
theorem title_flatten (hne : ∀ word ∈ words, word ≠ []) (h : Worded words) : title words.flatten = Text.joinWith [' '] words := by
  cases words with
  | nil => rfl
  | cons word words =>
    obtain ⟨first, more, rfl⟩ := List.exists_cons_of_ne_nil (hne word List.mem_cons_self)
    obtain ⟨hmore, hwords⟩ := h
    rw [List.tail_cons] at hmore
    rw [Text.joinWith_cons, List.flatten_cons, List.cons_append, title, ← spaced, spaced_append_of_forall hmore,
      spaced_flatten hwords]
    rfl

/-- Texts without spaces are told apart by their capitals, when their title is these texts with spaces between. -/
theorem worded_of_title_flatten (hwords : ∀ word ∈ words, word ≠ [] ∧ ' ' ∉ word)
    (h : title words.flatten = Text.joinWith [' '] words) : Worded words := by
  cases words with
  | nil => trivial
  | cons word words =>
    obtain ⟨⟨hne, hspace⟩, hrest⟩ := List.forall_mem_cons.1 hwords
    obtain ⟨first, more, rfl⟩ := List.exists_cons_of_ne_nil hne
    rw [Text.joinWith_cons, List.flatten_cons, List.cons_append, title, ← spaced] at h
    rw [List.mem_cons, not_or] at hspace
    obtain ⟨hmore, hwords'⟩ := of_spaced_append hspace.2 (List.cons.inj h).2
    exact ⟨hmore, isWord_of_spaced_flatten hrest hwords'⟩

/-- The capitalized segments of a stem. -/
def capitalized (stem : List Char) : List (List Char) := (segments stem).map Text.capitalize

variable {stem : List Char}

/-- No word is empty. -/
theorem capitalized_ne_nil : ∀ word ∈ capitalized stem, word ≠ [] :=
  List.forall_mem_map.2 fun _ hsegment => Text.capitalize_ne_nil (of_mem_segments hsegment).1

/-- The title of a component name is that of the stem, when its segments are told apart by their capitals. -/
theorem title_pascal (h : Worded (capitalized stem)) : title (pascal stem) = stemTitle stem :=
  title_flatten capitalized_ne_nil h

/-- Where a stem has no space of its own, that is the only case. -/
theorem title_pascal_iff (hspace : ' ' ∉ stem) : title (pascal stem) = stemTitle stem ↔ Worded (capitalized stem) := by
  refine ⟨worded_of_title_flatten ?_, title_pascal⟩
  refine List.forall_mem_map.2 fun segment hsegment => ⟨Text.capitalize_ne_nil (of_mem_segments hsegment).1, fun hmem => ?_⟩
  exact hspace ((of_mem_segments hsegment).2 (Text.mem_of_mem_capitalize (by decide) (by decide) hmem))

end Name

end RenderCatalog
