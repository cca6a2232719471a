import RenderCatalog.Proofs.Source.Extract
import RenderCatalog.Proofs.Text

/-!
# Comments that describe a component

The comment before a declaration is found from its end: the last opener starts it, a tag cuts it off, and the stars at its left
edge are left out. A layout says how words may be written in such a comment (`Layout`). However they are laid out, whatever stands
before the comment, and whatever blanks stand around the words, the description of the component is these words with single spaces
between (`extract_commented`). Nothing else can get in, since no opener and no closer is made of parts that blanks stand between.
-/

namespace RenderCatalog.Source

/-! ## Layouts -/

/-- A word of a comment: without blanks, no star, no tag, and without an opener or a closer in it. -/
structure IsCommentWord (word : List Char) : Prop where
  nonempty : word ≠ []
  plain : ∀ c ∈ word, Text.isBlank c = false
  ne_star : word ≠ ['*']
  no_tag : word.head? ≠ some '@'
  no_opener : ¬opener <:+: word
  no_closer : ¬closer <:+: word

/-- Words laid out between the opener and the closer of a comment. Blanks stand before every word, stars may stand alone among
them, and a tag may follow the last word, with anything behind it that is no opener or closer. -/
inductive Layout : List (List Char) → List Char → Prop where
  | done {blanks : List Char} (last : Blanks blanks) : Layout [] blanks
  | tagged {gap tail : List Char} (before : Gap gap) (no_opener : ¬opener <:+: '@' :: tail)
      (no_closer : ¬closer <:+: '@' :: tail) : Layout [] (gap ++ '@' :: tail)
  | star {gap rest : List Char} {words : List (List Char)} (before : Gap gap) (more : Layout words rest) :
      Layout words (gap ++ '*' :: rest)
  | word {gap word rest : List Char} {words : List (List Char)} (before : Gap gap) (said : IsCommentWord word)
      (more : Layout words rest) : Layout (word :: words) (gap ++ (word ++ rest))

/-- A documenting comment that says the words. -/
inductive Says (words : List (List Char)) : List Char → Prop where
  | intro {text : List Char} (laidOut : Layout words text) : Says words (opener ++ (text ++ closer))

variable {words : List (List Char)} {text gap blanks rest : List Char}

/-- What starts a gap is a blank. -/
theorem Gap.head (h : Gap gap) (rest : List Char) : ∀ c, (gap ++ rest).head? = some c → Text.isBlank c = true := by
  intro c hc
  obtain ⟨hne, hblank⟩ := h
  rw [List.head?_append_of_ne_nil _ hne] at hc
  exact hblank c (List.mem_of_head? hc)

/-- A layout starts with a blank, unless it is empty. -/
theorem Layout.head (h : Layout words text) : ∀ c, text.head? = some c → Text.isBlank c = true := by
  cases h with
  | done last => exact fun c hc => last c (List.mem_of_head? hc)
  | tagged before => exact before.head _
  | star before => exact before.head _
  | word before => exact before.head _

/-- A flattened layout starts with a blank, unless it is empty. -/
theorem Layout.head_flatten (h : Layout words text) : ∀ c, (Text.flatten text).head? = some c → Text.isBlank c = true := by
  have hhead := h.head
  cases text with
  | nil => nofun
  | cons d text =>
    intro c hc
    rw [Text.head?_flatten (hhead d rfl)] at hc
    cases hc
    rfl

theorem plain_opener : ∀ c ∈ opener, Text.isBlank c = false :=
  List.forall_mem_cons.2 ⟨rfl, List.forall_mem_cons.2 ⟨rfl, List.forall_mem_singleton.2 rfl⟩⟩

theorem plain_closer : ∀ c ∈ closer, Text.isBlank c = false := List.forall_mem_cons.2 ⟨rfl, List.forall_mem_singleton.2 rfl⟩

/-- No opener and no closer stands in a layout. -/
theorem Layout.not_inside (h : Layout words text) {needle : List Char} (hneedle : needle = opener ∨ needle = closer) :
    ¬needle <:+: text := by
  have hplain : ∀ c ∈ needle, Text.isBlank c = false := hneedle.elim (· ▸ plain_opener) (· ▸ plain_closer)
  have hstar : ¬needle <:+: ['*'] := by
    rcases hneedle with rfl | rfl <;> decide
  induction h with
  | done last =>
    intro hin
    have hnil : needle <:+: [] := Text.infix_of_infix_append hplain last (by rwa [List.append_nil])
    exact hstar (List.infix_cons hnil)
  | tagged before no_opener no_closer =>
    intro hin
    have hin := Text.infix_of_infix_append hplain before.2 hin
    rcases hneedle with rfl | rfl
    · exact no_opener hin
    · exact no_closer hin
  | star before more ih =>
    intro hin
    have hin := Text.infix_of_infix_append hplain before.2 hin
    exact (Text.infix_append hplain more.head hin).elim hstar ih
  | word before said more ih =>
    intro hin
    have hin := Text.infix_of_infix_append hplain before.2 hin
    refine (Text.infix_append hplain more.head hin).elim (fun hword => ?_) ih
    rcases hneedle with rfl | rfl
    · exact said.no_opener hword
    · exact said.no_closer hword

/-! ## The words of a layout -/

/-- Up to the tag a word stays, and what is said after it. -/
theorem words_beforeFirst {word rest : List Char} (hne : word ≠ []) (hword : ∀ c ∈ word, Text.isBlank c = false)
    (htag : word.head? ≠ some '@') (hrest : ∀ c, rest.head? = some c → Text.isBlank c = true) :
    Text.words (Text.beforeFirst [' ', '@'] (' ' :: (word ++ rest))) = word :: Text.words (Text.beforeFirst [' ', '@'] rest) := by
  have hspace : ' ' ∉ word := fun hmem => absurd (hword _ hmem) (by decide)
  obtain ⟨c, more, rfl⟩ := List.exists_cons_of_ne_nil hne
  have hc : '@' ≠ c := fun heq => htag (by rw [heq]; rfl)
  have hcut : Text.beforeFirst [' ', '@'] (' ' :: (c :: more ++ rest)) =
      ' ' :: Text.beforeFirst [' ', '@'] (c :: more ++ rest) := by
    rw [Text.beforeFirst, if_neg (by simp [hc])]
  rw [hcut, Text.words_cons_of_blank rfl, Text.beforeFirst_append hspace, Text.words_append hne hword]
  exact Text.head_of_front (Text.prefix_beforeFirst _ _) hrest

/-- A word behind a gap stays behind a single space. -/
theorem Gap.flatten_append {word : List Char} (h : Gap gap) (hne : word ≠ []) (hword : ∀ c ∈ word, Text.isBlank c = false)
    (rest : List Char) : Text.flatten (gap ++ (word ++ rest)) = ' ' :: (word ++ Text.flatten rest) := by
  rw [Text.flatten_append_of_blank h.1 h.2, Text.flatten_append_of_forall hword]
  intro c hc
  rw [List.head?_append_of_ne_nil _ hne] at hc
  exact hword c (List.mem_of_head? hc)

/-- The words of a flattened layout, up to the tag and without the stars, are those that were laid out. -/
theorem Layout.words_flatten (h : Layout words text) :
    (Text.words (Text.beforeFirst [' ', '@'] (Text.flatten text))).filter (· != ['*']) = words := by
  -- each case flattens the gap to one space, so that the cut at a tag is decided by the first character behind it
  induction h with
  | done last =>
    have hblank := fun c hc => Text.isBlank_of_mem_flatten last c ((Text.prefix_beforeFirst [' ', '@'] _).subset hc)
    rw [Text.words_of_forall hblank, List.filter_nil]
  | @tagged gap tail before =>
    have hplain : ∀ c ∈ ['@'], Text.isBlank c = false := List.forall_mem_singleton.2 rfl
    have hflatten : Text.flatten (gap ++ '@' :: tail) = ' ' :: '@' :: Text.flatten tail :=
      before.flatten_append (by simp) hplain tail
    rw [hflatten]
    rfl
  | @star gap rest words before more ih =>
    have hplain : ∀ c ∈ ['*'], Text.isBlank c = false := List.forall_mem_singleton.2 rfl
    have hflatten : Text.flatten (gap ++ '*' :: rest) = ' ' :: (['*'] ++ Text.flatten rest) :=
      before.flatten_append (by simp) hplain rest
    rw [hflatten, words_beforeFirst (by simp) hplain (by decide) more.head_flatten, List.filter_cons_of_neg (by simp), ih]
  | word before said more ih =>
    rw [before.flatten_append said.nonempty said.plain, words_beforeFirst said.nonempty said.plain said.no_tag more.head_flatten,
      List.filter_cons_of_pos (by simpa using said.ne_star), ih]

/-! ## The comment before a declaration -/

/-- A comment keeps its opener and its closer when it is flattened with the text around it. -/
theorem flatten_comment (front text blanks : List Char) :
    Text.flatten (front ++ (opener ++ (text ++ closer)) ++ blanks) =
      Text.flatten front ++ (opener ++ Text.flatten text) ++ closer ++ Text.flatten blanks := by
  have hassoc : front ++ (opener ++ (text ++ closer)) ++ blanks = front ++ (opener ++ (text ++ (closer ++ blanks))) := by
    simp only [List.append_assoc]
  have hcloser : ∀ c, (closer ++ blanks).head? = some c → Text.isBlank c = false := by
    rintro c ⟨⟩
    rfl
  have hopener : ∀ c, (opener ++ (text ++ (closer ++ blanks))).head? = some c → Text.isBlank c = false := by
    rintro c ⟨⟩
    rfl
  rw [hassoc, Text.flatten_append hopener, Text.flatten_append_of_forall plain_opener, Text.flatten_append hcloser,
    Text.flatten_append_of_forall plain_closer]
  simp only [List.append_assoc]

/-- A documenting comment is found behind any text and before any blanks, and gives its words. -/
theorem leadingComment?_flatten {comment : List Char} (h : Says words comment) (hne : words ≠ []) (hblanks : Blanks blanks)
    (front : List Char) : leadingComment? (Text.flatten (front ++ comment ++ blanks)) = some (Text.joinWith [' '] words) := by
  obtain @⟨text, laidOut⟩ := h
  have hopener : ¬opener <:+: Text.flatten text :=
    fun hin => laidOut.not_inside (Or.inl rfl) (Text.infix_of_infix_flatten plain_opener hin)
  have hcloser : ¬closer <:+: Text.flatten text :=
    fun hin => laidOut.not_inside (Or.inr rfl) (Text.infix_of_infix_flatten plain_closer hin)
  have htrim : Text.trimEnd (Text.flatten (front ++ (opener ++ (text ++ closer)) ++ blanks)) =
      Text.flatten front ++ (opener ++ Text.flatten text) ++ closer := by
    rw [flatten_comment, Text.trimEnd_append (Text.isBlank_of_mem_flatten hblanks)]
    refine Text.trimEnd_eq_self fun c hc => ?_
    rw [List.getLast?_append_of_ne_nil _ (by decide)] at hc
    cases hc
    rfl
  have hlast : Text.afterLast? opener (Text.flatten front ++ (opener ++ Text.flatten text)) = some (Text.flatten text) :=
    Text.afterLast?_append (Text.afterLast?_needle (by decide) hopener) _
  have hoccurs : Text.occurs closer (Text.flatten text) = false := by
    rw [← Bool.not_eq_true, Text.occurs_iff]
    exact hcloser
  have hbody : Text.dropSuffix? closer (Text.trimEnd (Text.flatten (front ++ (opener ++ (text ++ closer)) ++ blanks))) =
      some (Text.flatten front ++ (opener ++ Text.flatten text)) := by
    rw [htrim, Text.dropSuffix?_append]
  refine Option.bind_eq_some_iff.2 ⟨_, hbody, Option.bind_eq_some_iff.2 ⟨_, hlast, ?_⟩⟩
  rw [hoccurs, if_neg (by simp), laidOut.words_flatten, if_neg (by simpa using hne)]

/-- No blank starts a text that a declaration starts once it is flattened. -/
theorem DeclaredBehind.head_of_flatten {declared params : List Char} (h : DeclaredBehind (Text.flatten declared) [] params) {c : Char}
    (hc : declared.head? = some c) : Text.isBlank c = false := by
  obtain ⟨w, rest, ⟨-, -, -, -⟩, heq⟩ := h
  obtain ⟨more, rfl⟩ := List.head?_eq_some_iff.1 hc
  rw [← Bool.not_eq_true]
  intro hblank
  have hhead := Text.head?_flatten hblank more
  rw [heq] at hhead
  cases hhead

/-- A comment is the description of the component that is declared behind it, word for word: however its words are laid out, with
stars between them and tags behind them, and whatever stands before it, if no declaration starts before the one behind it. -/
theorem extract_commented {patterns : List String} {source path : String} {front comment declared params : List Char}
    (hpath : exclusionFor? patterns path = none) (hsource : source.toList = front ++ comment ++ blanks ++ declared)
    (hwords : words ≠ []) (hcomment : Says words comment) (hblanks : Blanks blanks)
    (hdeclared : DeclaredBehind (Text.flatten declared) [] params)
    (hfirst : ∀ before params', DeclaredBehind (Text.flatten source.toList) before params' →
      (Text.flatten (front ++ comment ++ blanks)).length ≤ before.length) :
    extract patterns source path =
      .ok { Component.describe path (paramProps params) with description := String.ofList (Text.joinWith [' '] words) } := by
  have hstart : ∀ c, declared.head? = some c → Text.isBlank c = false := fun c hc => hdeclared.head_of_flatten hc
  have hbehind : DeclaredBehind (Text.flatten source.toList) (Text.flatten (front ++ comment ++ blanks)) params := by
    rw [hsource, Text.flatten_append hstart, declaredBehind_append, ← declaredBehind_nil]
    exact hdeclared
  have hfind := findDeclaration?_eq_some [] hbehind hfirst
  rw [List.reverse_nil, List.nil_append] at hfind
  simp only [extract, hpath, hfind, leadingComment?_flatten hcomment hwords hblanks front]

/-- An older comment, and code that looks like the end of one. -/
def olderText : String := "/** Old. */\nconst glob = '**/*.tsx';\n"

/-- A comment of three words in several lines, with a tag. -/
def cardComment : String := "/**\n * Shows a\n * card.\n * @param title shown\n */"

/-- A function with that comment. -/
def commentedSource : String := olderText ++ cardComment ++ "\n\nexport function Card(\x7b title \x7d) \x7b\x7d"

/-- The stars at the left edge and the tag are laid out around the words. -/
theorem says_cardComment : Says ["Shows".toList, "a".toList, "card.".toList] cardComment.toList := by
  have hplain : ∀ {cs : List Char}, cs.all (!Text.isBlank ·) = true → ∀ c ∈ cs, Text.isBlank c = false := by simp
  have hgap : Gap [' '] := ⟨by decide, List.all_eq_true.1 rfl⟩
  have hline : Gap ['\n', ' '] := ⟨by decide, List.all_eq_true.1 rfl⟩
  have hshows : IsCommentWord "Shows".toList := ⟨by decide, hplain rfl, by decide, by decide, by decide, by decide⟩
  have ha : IsCommentWord "a".toList := ⟨by decide, hplain rfl, by decide, by decide, by decide, by decide⟩
  have hcard : IsCommentWord "card.".toList := ⟨by decide, hplain rfl, by decide, by decide, by decide, by decide⟩
  have htag : Layout [] "\n * @param title shown\n ".toList :=
    .star hline (.tagged hgap (by decide : ¬opener <:+: "@param title shown\n ".toList) (by decide))
  exact .intro (.star hline (.word hgap hshows (.word hgap ha (.star hline (.word hgap hcard htag)))))

/-- The comment right before the function describes it, and the older one does not. -/
theorem extract_commented_card :
    exclusionFor? ["index"] "card.tsx" = none ∧ Says ["Shows".toList, "a".toList, "card.".toList] cardComment.toList ∧
      (extract ["index"] commentedSource "card.tsx").toOption.map (·.description) = some "Shows a card." := by
  have hpath : exclusionFor? ["index"] "card.tsx" = none := by decide
  have hfind : findDeclaration? [] (Text.flatten commentedSource.toList) =
      some ⟨Text.flatten (olderText.toList ++ cardComment.toList ++ ['\n', '\n']), " title ".toList⟩ := by cbv
  have hsource : commentedSource.toList = olderText.toList ++ cardComment.toList ++ ['\n', '\n'] ++
      "export function Card(\x7b title \x7d) \x7b\x7d".toList := by cbv
  have hparams : declarationParams? (Text.flatten "export function Card(\x7b title \x7d) \x7b\x7d".toList) = some " title ".toList := by
    cbv
  have hdescription : String.ofList (Text.joinWith [' '] ["Shows".toList, "a".toList, "card.".toList]) = "Shows a card." := by cbv
  rw [extract_commented hpath hsource (by decide) says_cardComment (List.all_eq_true.1 rfl) (declaredBehind_nil.2 hparams)
    (first_of_findDeclaration? hfind).2, hdescription]
  exact ⟨hpath, says_cardComment, rfl⟩

end RenderCatalog.Source
