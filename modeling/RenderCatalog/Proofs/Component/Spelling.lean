import RenderCatalog.Proofs.Component.Name
import RenderCatalog.Proofs.Text

/-!
# Spellings of a hyphenated stem

A stem of hyphenated segments, each a small letter with small letters and digits behind it, can be read off every other
spelling. Only the first letter of a segment changes when a component is named for the stem, and it is the only capital there,
so the snake-case name and the title cut the name where the stem has its hyphens (`keys_of_kebab`). Different stems of this form
therefore give names, render types and tool names that differ.
-/

namespace RenderCatalog

/-! ## Plain letters -/

namespace Text

variable {c : Char}

theorem isAlphanum_of_isAlpha (h : c.isAlpha = true) : c.isAlphanum = true := by
  rw [Char.isAlphanum, h, Bool.true_or]

theorem isAlphanum_of_isLower (h : c.isLower = true) : c.isAlphanum = true :=
  isAlphanum_of_isAlpha (by rw [Char.isAlpha, h, Bool.or_true])

theorem isAlphanum_of_isUpper (h : c.isUpper = true) : c.isAlphanum = true :=
  isAlphanum_of_isAlpha (by rw [Char.isAlpha, h, Bool.true_or])

theorem isAlphanum_of_isDigit (h : c.isDigit = true) : c.isAlphanum = true := by
  rw [Char.isAlphanum, h, Bool.or_true]

theorem isUpper_of_isDigit (h : c.isDigit = true) : c.isUpper = false := by
  rw [Bool.eq_false_iff]
  intro hupper
  simp only [Char.isDigit, Char.isUpper, Bool.and_eq_true, decide_eq_true_eq, ge_iff_le, UInt32.le_iff_toNat_le] at h hupper
  have h9 : '9'.val.toNat = 57 := rfl
  have hA : 'A'.val.toNat = 65 := rfl
  omega

/-- A hyphen is neither a letter nor a digit. -/
theorem ne_hyphen_of_isAlphanum (h : c.isAlphanum = true) : c ≠ '-' := by
  rintro rfl
  cases h

/-- Letters and digits are plain characters. -/
theorem isPlain_of_isAlphanum (h : c.isAlphanum = true) : isPlain c = true := by
  simp only [Char.isAlphanum, Char.isAlpha, Char.isUpper, Char.isLower, Char.isDigit, Bool.or_eq_true, Bool.and_eq_true,
    decide_eq_true_eq, ge_iff_le, UInt32.le_iff_toNat_le] at h
  have hZ : 'Z'.val.toNat = 90 := rfl
  have hz : 'z'.val.toNat = 122 := rfl
  have h9 : '9'.val.toNat = 57 := rfl
  have hsmall : c.val.toNat < 128 := by omega
  exact decide_eq_true hsmall

/-- A character is a letter or a digit when its small form is. -/
theorem isAlphanum_toLower (c : Char) : c.toLower.isAlphanum = c.isAlphanum := by
  by_cases h : c.isUpper = true
  · simp [Char.isAlphanum, Char.isAlpha, h]
  · rw [Char.toLower_eq_of_not_isUpper h]

theorem isAlphanum_toUpper (c : Char) : c.toUpper.isAlphanum = c.isAlphanum := by
  by_cases h : c.isLower = true
  · simp [Char.isAlphanum, Char.isAlpha, h]
  · rw [Char.toUpper_eq_of_not_isLower h]

/-- Among letters and digits the capitals are the plain ones. -/
theorem isCapital_of_isAlphanum (h : c.isAlphanum = true) : isCapital c = c.isUpper := by
  rw [isCapital, if_pos (isPlain_of_isAlphanum h)]

/-- The small form of a letter or a digit is one character. -/
theorem small_of_isAlphanum (h : c.isAlphanum = true) : small c = [c.toLower] := by
  rw [small, if_pos (isPlain_of_isAlphanum h)]

theorem capital_of_isAlphanum (h : c.isAlphanum = true) : capital c = [c.toUpper] := by
  rw [capital, if_pos (isPlain_of_isAlphanum h)]

/-- Only the first character of a text is made a capital. -/
theorem capitalize_append {segment : List Char} (hne : segment ≠ []) (rest : List Char) :
    capitalize (segment ++ rest) = capitalize segment ++ rest := by
  cases segment with
  | nil => exact absurd rfl hne
  | cons c segment => rw [List.cons_append, capitalize, capitalize, List.append_assoc]

/-- A first letter is made the same capital from either of its forms. -/
theorem capitalize_toLower (hc : c.isAlphanum = true) (rest : List Char) :
    capitalize (c.toLower :: rest) = c.toUpper :: rest := by
  have hsmall : c.toLower.isAlphanum = true := (isAlphanum_toLower c).trans hc
  rw [capitalize, capital_of_isAlphanum hsmall, Char.toUpper_toLower_eq_toUpper, List.singleton_append]

/-- A capital is its own capital form. -/
theorem toUpper_of_isUpper (h : c.isUpper = true) : c.toUpper = c :=
  Char.toUpper_eq_of_not_isLower (Char.not_isLower_of_isUpper h)

/-- In a plain text no character looks at those before it. -/
theorem lowercaseAfter_of_plain {cs : List Char} (h : ∀ c ∈ cs, isPlain c = true) (before : List Char) :
    lowercaseAfter before cs = cs.map Char.toLower := by
  induction cs generalizing before with
  | nil => rfl
  | cons c cs ih =>
    obtain ⟨hc, hcs⟩ := List.forall_mem_cons.1 h
    have hsigma : c ≠ 'Σ' := by
      rintro rfl
      cases hc
    rw [lowercaseAfter, if_neg hsigma, small, if_pos hc, ih hcs, List.singleton_append, List.map_cons]

/-- In a plain text no character changes with those around it. -/
theorem lowercase_of_plain {cs : List Char} (h : ∀ c ∈ cs, isPlain c = true) : lowercase cs = cs.map Char.toLower :=
  lowercaseAfter_of_plain h []

end Text

namespace Name

variable {segment first stem name : List Char} {more : List (List Char)}

/-! ## Segments -/

/-- The segments on both sides of a hyphen are those of the sides. -/
theorem segments_append (a b : List Char) : segments (a ++ '-' :: b) = segments a ++ segments b := by
  rw [segments, Text.pieces_append rfl, List.filter_append]
  rfl

/-- A text without a hyphen is one segment. -/
theorem segments_of_not_mem (hne : segment ≠ []) (hhyphen : '-' ∉ segment) : segments segment = [segment] := by
  have hone : Text.pieces (· == '-') segment = [segment] := Text.pieces_of_forall fun c hc => by
    rw [beq_eq_false_iff_ne]
    rintro rfl
    exact hhyphen hc
  rw [segments, hone]
  simpa using hne

/-- The Pascal-case forms of both sides of a hyphen are put together. -/
theorem pascal_append (a b : List Char) : pascal (a ++ '-' :: b) = pascal a ++ pascal b := by
  rw [pascal, segments_append, List.map_append, List.flatten_append]
  rfl

/-- The Pascal-case form of one segment is the segment with a capital. -/
theorem pascal_of_not_mem (hne : segment ≠ []) (hhyphen : '-' ∉ segment) : pascal segment = Text.capitalize segment := by
  rw [pascal, segments_of_not_mem hne hhyphen, List.map_singleton, List.flatten_singleton]

/-- A component name starts with the capital form of what its stem starts with. -/
theorem exists_pascal_cons {c : Char} (hc : c.isAlphanum = true) (rest : List Char) :
    ∃ more, pascal (c :: rest) = c.toUpper :: more := by
  obtain ⟨piece, pieces, hpieces⟩ := List.exists_cons_of_ne_nil (Text.pieces_ne_nil (· == '-') rest)
  have hhyphen : (c == '-') = false := beq_eq_false_iff_ne.2 (Text.ne_hyphen_of_isAlphanum hc)
  have hsegments : segments (c :: rest) = (c :: piece) :: pieces.filter (!·.isEmpty) := by
    rw [segments, Text.pieces, hpieces]
    simp [hhyphen]
  rw [pascal, hsegments, List.map_cons, List.flatten_cons, Text.capitalize, Text.capital_of_isAlphanum hc]
  exact ⟨_, rfl⟩

/-- Texts without hyphens are the segments of what they are joined to by hyphens. -/
theorem segments_joinWith (h : ∀ word ∈ first :: more, word ≠ [] ∧ '-' ∉ word) :
    segments (Text.joinWith ['-'] (first :: more)) = first :: more := by
  rw [segments, Text.pieces_joinWith fun word hword => (h word hword).2, List.filter_eq_self]
  intro word hword
  simpa using (h word hword).1

/-- A segment of a plain stem: a small letter, with small letters and digits behind it. -/
inductive IsSegment : List Char → Prop where
  | intro {first : Char} {rest : List Char} (letter : first.isLower = true)
      (more : ∀ c ∈ rest, c.isLower = true ∨ c.isDigit = true) : IsSegment (first :: rest)

/-- A plain stem: segments with hyphens between. -/
inductive IsKebab : List Char → Prop where
  | intro {first : List Char} {more : List (List Char)} (each : ∀ word ∈ first :: more, IsSegment word) :
      IsKebab (Text.joinWith ['-'] (first :: more))

/-- A segment is made of letters and digits. -/
theorem IsSegment.isAlphanum (h : IsSegment segment) : ∀ c ∈ segment, c.isAlphanum = true := by
  obtain ⟨letter, more⟩ := h
  refine List.forall_mem_cons.2 ⟨Text.isAlphanum_of_isLower letter, fun c hc => ?_⟩
  rcases more c hc with hlower | hdigit
  · exact Text.isAlphanum_of_isLower hlower
  · exact Text.isAlphanum_of_isDigit hdigit

/-- A segment is one piece between hyphens. -/
theorem IsSegment.plain (h : IsSegment segment) : segment ≠ [] ∧ '-' ∉ segment := by
  refine ⟨?_, fun hmem => absurd (h.isAlphanum _ hmem) (by decide)⟩
  cases h
  simp

/-! ## Capitals inside a name -/

/-- A name behind its first character, with an underscore before every capital. -/
def snaked (cs : List Char) : List Char := cs.flatMap (snakeChar false)

theorem snaked_cons (c : Char) (rest : List Char) : snaked (c :: rest) = snakeChar false c ++ snaked rest := List.flatMap_cons

/-- Without capitals no underscore is put in. -/
theorem snaked_of_forall (h : ∀ c ∈ segment, Text.isCapital c = false) : snaked segment = segment := by
  induction segment with
  | nil => rfl
  | cons c segment ih =>
    obtain ⟨hc, hmore⟩ := List.forall_mem_cons.1 h
    rw [snaked_cons, ih hmore, snakeChar, if_neg (by simp [hc]), List.singleton_append]

/-- Underscores are put into both parts of a text. -/
theorem snaked_append (a b : List Char) : snaked (a ++ b) = snaked a ++ snaked b := List.flatMap_append

theorem snake_cons (c : Char) (rest : List Char) : snake (c :: rest) = snakeChar true c ++ snaked rest := rfl

/-- The capital of a segment is its first letter and no other, and that letter turns back into what it was. -/
theorem IsSegment.capitalize (h : IsSegment segment) : ∃ c rest, Text.capitalize segment = c :: rest ∧
    Text.isCapital c = true ∧ (∀ x ∈ rest, Text.isCapital x = false) ∧ segment = Text.small c ++ rest := by
  obtain @⟨c, rest, letter, more⟩ := h
  have hc := Text.isAlphanum_of_isLower letter
  have hupper : c.toUpper.isAlphanum = true := (Text.isAlphanum_toUpper c).trans hc
  refine ⟨c.toUpper, rest, ?_, ?_, fun x hx => ?_, ?_⟩
  · rw [Text.capitalize, Text.capital_of_isAlphanum hc, List.singleton_append]
  · rw [Text.isCapital_of_isAlphanum hupper, Char.isUpper_toUpper_eq_isAlpha, Char.isAlpha, letter, Bool.or_true]
  · rcases more x hx with hlower | hdigit
    · rw [Text.isCapital_of_isAlphanum (Text.isAlphanum_of_isLower hlower), Bool.eq_false_iff]
      exact Char.not_isUpper_of_isLower hlower
    · rw [Text.isCapital_of_isAlphanum (Text.isAlphanum_of_isDigit hdigit)]
      exact Text.isUpper_of_isDigit hdigit
  · rw [Text.small_of_isAlphanum hupper, Char.toLower_toUpper_eq_toLower,
      Char.toLower_eq_of_not_isUpper (Char.not_isUpper_of_isLower letter), List.singleton_append]

/-- A segment with a capital is a word. -/
theorem IsSegment.isWord (h : IsSegment segment) : IsWord (Text.capitalize segment) := by
  obtain ⟨c, rest, hword, hc, hrest, -⟩ := h.capitalize
  exact ⟨c, rest, hword, hc, hrest⟩

/-- Behind other segments a capitalized segment is told apart by an underscore. -/
theorem IsSegment.snaked (h : IsSegment segment) : snaked (Text.capitalize segment) = '_' :: segment := by
  obtain ⟨c, rest, hword, hc, hrest, hsegment⟩ := h.capitalize
  rw [hword, snaked_cons, snaked_of_forall hrest, snakeChar, if_pos hc, hsegment]
  rfl

/-- In front of others a capitalized segment turns back into what it was. -/
theorem IsSegment.snake_append (h : IsSegment segment) (rest : List Char) :
    snake (Text.capitalize segment ++ rest) = segment ++ Name.snaked rest := by
  obtain ⟨c, tail, hword, hc, htail, hsegment⟩ := h.capitalize
  rw [hword, List.cons_append, snake_cons, snaked_append, snaked_of_forall htail, snakeChar, if_pos hc, if_pos rfl,
    List.nil_append, hsegment, List.append_assoc]

/-- Segments with capitals are told apart by underscores. -/
theorem snaked_flatten (h : ∀ word ∈ more, IsSegment word) : snaked (more.map Text.capitalize).flatten = more.flatMap ('_' :: ·) := by
  induction more with
  | nil => rfl
  | cons word more ih =>
    obtain ⟨hword, hmore⟩ := List.forall_mem_cons.1 h
    rw [List.map_cons, List.flatten_cons, snaked_append, hword.snaked, ih hmore, List.flatMap_cons]

/-- The snake-case form of capitalized segments in a row is these segments with underscores between. -/
theorem snake_flatten (h : ∀ word ∈ first :: more, IsSegment word) :
    snake ((first :: more).map Text.capitalize).flatten = Text.joinWith ['_'] (first :: more) := by
  obtain ⟨hfirst, hmore⟩ := List.forall_mem_cons.1 h
  rw [List.map_cons, List.flatten_cons, hfirst.snake_append, snaked_flatten hmore, Text.joinWith_cons]

/-! ## Hyphens and underscores -/

/-- An underscore in place of a hyphen. -/
def underscored (c : Char) : Char := if c = '-' then '_' else c

/-- Only hyphens are replaced by underscores. -/
theorem underscored_of_ne {c : Char} (h : c ≠ '-') : underscored c = c := if_neg h

/-- A hyphen in place of an underscore. -/
def hyphened (c : Char) : Char := if c = '_' then '-' else c

/-- Letters and digits are not replaced by hyphens. -/
theorem hyphened_of_isAlphanum {c : Char} (hc : c.isAlphanum = true) : hyphened c = c := by
  refine if_neg ?_
  rintro rfl
  cases hc

/-- The hyphens of a text without underscores come back. -/
theorem map_hyphened_underscored (h : '_' ∉ stem) : (stem.map underscored).map hyphened = stem := by
  rw [List.map_map]
  refine (List.map_congr_left fun c hc => ?_).trans (List.map_id stem)
  have hne : c ≠ '_' := fun heq => h (heq ▸ hc)
  by_cases hhyphen : c = '-'
  · simp [underscored, hyphened, hhyphen]
  · simp [underscored, hyphened, hhyphen, hne]

/-- Underscores stand in place of the hyphens between texts that have none. -/
theorem underscored_joinWith (h : ∀ word ∈ first :: more, '-' ∉ word) :
    (Text.joinWith ['-'] (first :: more)).map underscored = Text.joinWith ['_'] (first :: more) := by
  have hword : ∀ word ∈ first :: more, word.map underscored = word := by
    intro word hword
    refine (List.map_congr_left fun c hc => ?_).trans (List.map_id word)
    refine underscored_of_ne ?_
    rintro rfl
    exact h word hword hc
  obtain ⟨hfirst, hmore⟩ := List.forall_mem_cons.1 hword
  rw [Text.joinWith_cons, Text.joinWith_cons, List.map_append, hfirst, List.map_flatMap]
  refine congrArg (first ++ ·) (List.flatMap_congr fun word hmem => ?_)
  rw [List.map_cons, hmore word hmem]
  rfl

/-! ## Tool names -/

/-- A letter or digit of a component name gives characters of a tool name. -/
theorem snakeChar_forall (start : Bool) {c : Char} (hc : c.isAlphanum = true) :
    ∀ x ∈ snakeChar start c, (x.isAlphanum || x == '_') = true := by
  intro x hx
  rw [snakeChar] at hx
  split at hx
  · rw [Text.small_of_isAlphanum hc, List.mem_append, List.mem_singleton] at hx
    rcases hx with hx | rfl
    · have hunderscore : x = '_' := by
        cases start
        · simpa using hx
        · cases hx
      rw [hunderscore]
      rfl
    · rw [Text.isAlphanum_toLower, hc, Bool.true_or]
  · rw [List.mem_singleton.1 hx, hc, Bool.true_or]

/-- A component name of letters and digits has a tool name that every consumer accepts. -/
theorem isToolName_tool (h : ∀ c ∈ name, c.isAlphanum = true) : isToolName (tool name) = true := by
  have hsnake : (snake name).all (fun c => c.isAlphanum || c == '_') = true := by
    cases name with
    | nil => rfl
    | cons c rest =>
      obtain ⟨hc, hrest⟩ := List.forall_mem_cons.1 h
      rw [snake_cons, List.all_append, Bool.and_eq_true, List.all_eq_true, List.all_eq_true]
      refine ⟨snakeChar_forall true hc, fun x hx => ?_⟩
      obtain ⟨d, hd, hx⟩ := List.mem_flatMap.1 hx
      exact snakeChar_forall false (hrest d hd) x hx
  have hstart : toolStart.all (fun c => c.isAlphanum || c == '_') = true := by decide
  rw [isToolName, tool, List.all_append, hstart, hsnake]
  rfl

/-- A component is named with letters and digits, when its stem consists of them and hyphens. -/
theorem isAlphanum_pascal (h : ∀ c ∈ stem, c.isAlphanum = true ∨ c = '-') : ∀ c ∈ pascal stem, c.isAlphanum = true := by
  intro c hc
  obtain ⟨_, hcapitalized, hc⟩ := List.mem_flatten.1 hc
  obtain ⟨segment, hsegment, rfl⟩ := List.mem_map.1 hcapitalized
  have hall : ∀ x ∈ segment, x.isAlphanum = true := by
    intro x hx
    refine (h x ((of_mem_segments hsegment).2 hx)).resolve_right ?_
    rintro rfl
    have hplain := Text.of_mem_pieces (List.mem_filter.1 hsegment).1 '-' hx
    simp at hplain
  cases segment with
  | nil => cases hc
  | cons first rest =>
    obtain ⟨hfirst, hrest⟩ := List.forall_mem_cons.1 hall
    rw [Text.capitalize, Text.capital_of_isAlphanum hfirst, List.singleton_append] at hc
    rcases List.mem_cons.1 hc with rfl | hc
    · rw [Text.isAlphanum_toUpper, hfirst]
    · exact hrest c hc

/-! ## Plain stems -/

/-- A plain stem is made of letters, digits and hyphens. -/
theorem IsKebab.isAlphanum_or (h : IsKebab stem) : ∀ c ∈ stem, c.isAlphanum = true ∨ c = '-' := by
  obtain ⟨each⟩ := h
  intro c hc
  rw [Text.joinWith_cons, List.mem_append, List.mem_flatMap] at hc
  obtain ⟨hfirst, hmore⟩ := List.forall_mem_cons.1 each
  rcases hc with hc | ⟨word, hword, hc⟩
  · exact Or.inl (hfirst.isAlphanum c hc)
  · rcases List.mem_cons.1 hc with rfl | hc
    · exact Or.inr rfl
    · exact Or.inl ((hmore word hword).isAlphanum c hc)

/-- The capitals of the component name tell its segments apart. -/
theorem IsKebab.worded (h : IsKebab stem) : Worded (capitalized stem) := by
  obtain ⟨each⟩ := h
  rw [capitalized, segments_joinWith fun word hword => (each word hword).plain]
  obtain ⟨hfirst, hmore⟩ := List.forall_mem_cons.1 each
  refine ⟨?_, List.forall_mem_map.2 fun word hword => (hmore word hword).isWord⟩
  obtain ⟨c, rest, hword, -, hrest, -⟩ := hfirst.capitalize
  rw [hword]
  exact hrest

/-- The snake-case form of a component name gives the plain stem back. -/
theorem IsKebab.snake_pascal (h : IsKebab stem) : snake (pascal stem) = stem.map underscored := by
  obtain ⟨each⟩ := h
  rw [pascal, segments_joinWith fun word hword => (each word hword).plain, snake_flatten each,
    underscored_joinWith fun word hword => (each word hword).plain.2]

/-- Plain stems can be told apart by the snake-case forms of their component names. -/
theorem IsKebab.snake_pascal_inj {other : List Char} (h : IsKebab stem) (hother : IsKebab other)
    (heq : snake (pascal other) = snake (pascal stem)) : other = stem := by
  have hplain : ∀ {stem}, IsKebab stem → '_' ∉ stem := fun h hmem => by
    rcases h.isAlphanum_or '_' hmem with halphanum | hhyphen
    · cases halphanum
    · cases hhyphen
  rw [h.snake_pascal, hother.snake_pascal] at heq
  rw [← map_hyphened_underscored (hplain h), ← map_hyphened_underscored (hplain hother), heq]

/-- The spellings of a component that is named for a plain stem cut it where the stem has its hyphens: its render type has
underscores there, and its title spaces. Its tool name is one that every consumer accepts, and the components of different plain stems
differ in their names, their render types and their tool names. -/
theorem keys_of_kebab (h : IsKebab stem) :
    snake (pascal stem) = stem.map underscored ∧ title (pascal stem) = stemTitle stem ∧ isToolName (tool (pascal stem)) = true ∧
      ∀ other, IsKebab other → other ≠ stem →
        pascal other ≠ pascal stem ∧ snake (pascal other) ≠ snake (pascal stem) ∧ tool (pascal other) ≠ tool (pascal stem) := by
  refine ⟨h.snake_pascal, title_pascal h.worded, isToolName_tool (isAlphanum_pascal h.isAlphanum_or), fun other hother hne => ?_⟩
  have hsnake : snake (pascal other) ≠ snake (pascal stem) := fun heq => hne (h.snake_pascal_inj hother heq)
  exact ⟨fun heq => hsnake (congrArg snake heq), hsnake, fun heq => hsnake (List.append_cancel_left heq)⟩

/-- A stem of two segments, and one that other spellings could be taken for. -/
theorem keys_of_kebab_weatherCard :
    IsKebab "weather-card2".toList ∧ snake (pascal "weather-card2".toList) = "weather_card2".toList ∧
      title (pascal "weather-card2".toList) = "Weather Card2".toList ∧
      pascal "weathercard2".toList ≠ pascal "weather-card2".toList := by
  have hplain : ∀ {cs : List Char}, cs.all (fun c => c.isLower || c.isDigit) = true →
      ∀ c ∈ cs, c.isLower = true ∨ c.isDigit = true := by
    simp
  have hweather : IsSegment "weather".toList := .intro rfl (hplain rfl)
  have hcard : IsSegment "card2".toList := .intro rfl (hplain rfl)
  have hone : IsSegment "weathercard2".toList := .intro rfl (hplain rfl)
  have hkebab : IsKebab "weather-card2".toList :=
    .intro (List.forall_mem_cons.2 ⟨hweather, List.forall_mem_singleton.2 hcard⟩)
  have hother : IsKebab "weathercard2".toList := .intro (List.forall_mem_singleton.2 hone)
  obtain ⟨hsnake, htitle, -, hdistinct⟩ := keys_of_kebab hkebab
  refine ⟨hkebab, hsnake.trans (by decide), htitle.trans (by cbv), (hdistinct _ hother (by decide)).1⟩

end Name

end RenderCatalog
