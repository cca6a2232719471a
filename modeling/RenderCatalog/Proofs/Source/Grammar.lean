import Mathlib
import RenderCatalog.Source.Declaration

/-!
# The grammar of declarations

`Declares w params` says that the text `w` is a declaration with the parameter text `params`, part by part and without a
matcher in mind. The matcher looks at the front of a text and never takes a choice back but one; `declarationParams?_eq_some_iff`
says that it finds a declaration exactly when one stands at the front, and then its parameter text. Each part is followed by a
character that cannot belong to it, so each step of the matcher takes the part whole (`front` lemmas below); only a wrapper may
be spelled like the word before a bracket, and there what stands behind the bracket decides.
-/

namespace RenderCatalog.Source

/-! ## The grammar -/

/-- Blanks, perhaps none. -/
def Blanks (cs : List Char) : Prop := ∀ c ∈ cs, Text.isBlank c = true

/-- At least one blank, and nothing else. -/
def Gap (cs : List Char) : Prop := cs ≠ [] ∧ Blanks cs

/-- A name that starts with a capital. -/
inductive CapitalName : List Char → Prop where
  | intro {c : Char} {rest : List Char} (capital : c.isUpper = true) (more : ∀ x ∈ rest, isNameChar x = true) :
      CapitalName (c :: rest)

/-- The word `default` with a gap behind it, or nothing. -/
inductive DefaultMark : List Char → Prop where
  | absent : DefaultMark []
  | present {gap : List Char} (after : Gap gap) : DefaultMark ("default".toList ++ gap)

/-- Type parameters without a bracket in them and with blanks behind them, or nothing. -/
inductive TypeParams : List Char → Prop where
  | absent : TypeParams []
  | present {inner blanks : List Char} (plain : ∀ c ∈ inner, c ≠ '>' ∧ c ≠ '(') (after : Blanks blanks) :
      TypeParams ('<' :: (inner ++ '>' :: blanks))

/-- A type with its colon and without an equals sign, or nothing. -/
inductive Annotation : List Char → Prop where
  | absent : Annotation []
  | present {type : List Char} (nonempty : type ≠ []) (plain : '=' ∉ type) : Annotation (':' :: type)

/-- A wrapper with its bracket and blanks behind it, or nothing. -/
inductive Wrapper : List Char → Prop where
  | absent : Wrapper []
  | present {name blanks : List Char} (nonempty : name ≠ []) (letters : ∀ c ∈ name, isWrapperChar c = true)
      (after : Blanks blanks) : Wrapper (name ++ '(' :: blanks)

/-- The word `async` with blanks behind it, or nothing. -/
inductive AsyncMark : List Char → Prop where
  | absent : AsyncMark []
  | present {blanks : List Char} (after : Blanks blanks) : AsyncMark ("async".toList ++ blanks)

/-- A function or a constant with all that stands before the bracket of its parameters. -/
inductive Head : List Char → Prop where
  | function {gap name blanks types : List Char} (afterWord : Gap gap) (named : CapitalName name)
      (afterName : Blanks blanks) (typed : TypeParams types) :
      Head ("function".toList ++ (gap ++ (name ++ (blanks ++ types))))
  | constant {gap name blanks type more wrapper async : List Char} (afterWord : Gap gap) (named : CapitalName name)
      (afterName : Blanks blanks) (typed : Annotation type) (afterSign : Blanks more) (wrapped : Wrapper wrapper)
      (marked : AsyncMark async) :
      Head ("const".toList ++ (gap ++ (name ++ (blanks ++ (type ++ ('=' :: (more ++ (wrapper ++ async))))))))

/-- Parameters in a bracket and in braces; their text holds no closing brace. -/
inductive Bracket : List Char → List Char → Prop where
  | intro {blanks params : List Char} (before : Blanks blanks) (plain : '}' ∉ params) :
      Bracket ('(' :: (blanks ++ '{' :: (params ++ ['}']))) params

/-- A declaration, with the text of its parameters. -/
inductive Declares : List Char → List Char → Prop where
  | intro {gap mark head bracket params : List Char} (afterWord : Gap gap) (marked : DefaultMark mark) (declared : Head head)
      (opened : Bracket bracket params) : Declares ("export".toList ++ (gap ++ (mark ++ (head ++ bracket)))) params

/-! ## Words, blanks and names -/

/-- The text starts with a character of a kind. -/
def Starts (p : Char → Bool) (cs : List Char) : Prop := ∃ c rest, cs = c :: rest ∧ p c = true

/-- Characters of a kind are told from what follows them by the first character of another kind. -/
theorem span_append (p : Char → Bool) (front rest : List Char) (h : ∀ c ∈ front, p c = true)
    (hrest : Starts (!p ·) rest) : (front ++ rest).takeWhile p = front ∧ (front ++ rest).dropWhile p = rest := by
  obtain ⟨x, tail, rfl, hx⟩ := hrest
  have hneg : ¬p x = true := by simpa using hx
  rw [List.takeWhile_append_of_pos h, List.dropWhile_append_of_pos h, List.takeWhile_cons_of_neg hneg,
    List.dropWhile_cons_of_neg hneg, List.append_nil]
  exact ⟨rfl, rfl⟩

/-- What is passed over are characters of the kind. -/
theorem exists_span (p : Char → Bool) (cs : List Char) :
    ∃ front, (∀ c ∈ front, p c = true) ∧ cs.takeWhile p = front ∧ cs = front ++ cs.dropWhile p :=
  ⟨cs.takeWhile p, fun _ hc => List.mem_takeWhile_imp hc, rfl, List.takeWhile_append_dropWhile.symm⟩

/-- What follows a word that stands there. -/
theorem afterWord?_append (word rest : List Char) : afterWord? word (word ++ rest) = some rest := by
  simp [afterWord?]

/-- A word that something follows stands there. -/
theorem eq_append_of_afterWord? {word cs rest : List Char} (h : afterWord? word cs = some rest) : cs = word ++ rest := by
  unfold afterWord? at h
  split at h
  · rename_i hpre
    obtain ⟨more, rfl⟩ := List.isPrefixOf_iff_prefix.1 hpre
    obtain rfl : more = rest := by simpa using h
    rfl
  · cases h

/-- A word does not stand where another letter is. -/
theorem afterWord?_eq_none {c x : Char} (hx : x ≠ c) (word rest : List Char) : afterWord? (c :: word) (x :: rest) = none := by
  simp [afterWord?, Ne.symm hx]

/-- Blanks are passed over up to the first other character. -/
theorem afterBlanks_append {blanks : List Char} (h : Blanks blanks) (rest : List Char) (hrest : Starts (!Text.isBlank ·) rest) :
    afterBlanks (blanks ++ rest) = rest :=
  (span_append Text.isBlank blanks rest h hrest).2

/-- What is passed over are blanks. -/
theorem exists_blanks (cs : List Char) : ∃ blanks, Blanks blanks ∧ cs = blanks ++ afterBlanks cs := by
  obtain ⟨blanks, hblanks, -, heq⟩ := exists_span Text.isBlank cs
  exact ⟨blanks, hblanks, heq⟩

/-- A gap is passed over up to the first other character. -/
theorem afterGap?_append {gap : List Char} (h : Gap gap) (rest : List Char) (hrest : Starts (!Text.isBlank ·) rest) :
    afterGap? (gap ++ rest) = some rest := by
  obtain ⟨hne, hblank⟩ := h
  obtain ⟨c, more, rfl⟩ := List.exists_cons_of_ne_nil hne
  rw [List.cons_append, afterGap?, if_pos (hblank c (by simp)),
    afterBlanks_append (fun x hx => hblank x (List.mem_cons_of_mem _ hx)) rest hrest]

/-- What is passed over is a gap. -/
theorem exists_gap {cs rest : List Char} (h : afterGap? cs = some rest) : ∃ gap, Gap gap ∧ cs = gap ++ rest := by
  cases cs with
  | nil => cases h
  | cons c more =>
    simp only [afterGap?] at h
    split at h
    · rename_i hc
      obtain rfl := Option.some.inj h
      obtain ⟨blanks, hblanks, heq⟩ := exists_blanks more
      exact ⟨c :: blanks, ⟨by simp, List.forall_mem_cons.2 ⟨hc, hblanks⟩⟩, by rw [List.cons_append, ← heq]⟩
    · cases h

/-- No character of a name is blank. -/
theorem isBlank_of_isNameChar {c : Char} (h : isNameChar c = true) : Text.isBlank c = false := by
  simp only [isNameChar, Char.isAlphanum, Char.isAlpha, Char.isUpper, Char.isLower, Char.isDigit, Bool.or_eq_true,
    Bool.and_eq_true, decide_eq_true_eq, beq_iff_eq, ge_iff_le, UInt32.le_iff_toNat_le] at h
  have hA : 'A'.val.toNat = 65 := rfl
  have hZ : 'Z'.val.toNat = 90 := rfl
  have ha : 'a'.val.toNat = 97 := rfl
  have hz : 'z'.val.toNat = 122 := rfl
  have h0 : '0'.val.toNat = 48 := rfl
  have h9 : '9'.val.toNat = 57 := rfl
  rcases h with h | rfl
  · rw [Bool.eq_false_iff]
    intro hblank
    simp only [Text.isBlank, Bool.or_eq_true, Bool.and_eq_true, decide_eq_true_eq, beq_iff_eq] at hblank
    omega
  · rfl

/-- No character of a wrapper is blank. -/
theorem isBlank_of_isWrapperChar {c : Char} (h : isWrapperChar c = true) : Text.isBlank c = false := by
  simp only [isWrapperChar, Bool.or_eq_true, beq_iff_eq] at h
  rcases h with (h | rfl) | rfl
  · exact isBlank_of_isNameChar (by simp [isNameChar, Char.isAlphanum, h])
  · rfl
  · rfl

/-- A name is passed over up to the first character that cannot belong to it. -/
theorem afterName?_append {name rest : List Char} (h : CapitalName name) (hrest : Starts (!isNameChar ·) rest) :
    afterName? (name ++ rest) = some rest := by
  obtain ⟨capital, more⟩ := h
  rw [List.cons_append, afterName?, if_pos capital, (span_append isNameChar _ rest more hrest).2]

/-- What is passed over is a name. -/
theorem exists_name {cs rest : List Char} (h : afterName? cs = some rest) : ∃ name, CapitalName name ∧ cs = name ++ rest := by
  cases cs with
  | nil => cases h
  | cons c more =>
    simp only [afterName?] at h
    split at h
    · rename_i hc
      obtain rfl := Option.some.inj h
      obtain ⟨front, hfront, -, heq⟩ := exists_span isNameChar more
      exact ⟨c :: front, .intro hc hfront, by rw [List.cons_append, ← heq]⟩
    · cases h

/-- A name does not start with a blank. -/
theorem CapitalName.starts {name : List Char} (h : CapitalName name) (rest : List Char) :
    Starts (!Text.isBlank ·) (name ++ rest) := by
  obtain @⟨c, more, capital, -⟩ := h
  have hname : isNameChar c = true := by simp [isNameChar, Char.isAlphanum, Char.isAlpha, capital]
  exact ⟨c, more ++ rest, rfl, by simp [isBlank_of_isNameChar hname]⟩

/-- Blanks and what starts with a character that no name holds do not go on with a name. -/
theorem starts_blanks_append {blanks rest : List Char} (h : Blanks blanks) (hrest : Starts (!isNameChar ·) rest) :
    Starts (!isNameChar ·) (blanks ++ rest) := by
  cases blanks with
  | nil => exact hrest
  | cons c more =>
    refine ⟨c, more ++ rest, rfl, ?_⟩
    rw [Bool.not_eq_true', Bool.eq_false_iff]
    intro hc
    exact absurd (h c (by simp)) (by simp [isBlank_of_isNameChar hc])

/-! ## Parameters -/

/-- Parameters stand behind a bracket exactly when they are found there. -/
theorem inBracket?_eq_some_iff {cs params : List Char} :
    inBracket? cs = some params ↔ ∃ w rest, Bracket w params ∧ cs = w ++ rest := by
  constructor
  · intro h
    obtain ⟨inside, hword, h⟩ := Option.bind_eq_some_iff.1 h
    obtain ⟨blanks, hblanks, hinside⟩ := exists_blanks inside
    obtain ⟨more, hopen, h⟩ := Option.bind_eq_some_iff.1 h
    obtain ⟨front, hfront, htake, hmore⟩ := exists_span (· != '}') more
    simp only [htake] at h
    cases hafter : more.dropWhile (· != '}') with
    | nil => simp [hafter] at h
    | cons c rest =>
      obtain rfl : front = params := by simpa [hafter] using h
      have hc : c = '}' := by
        have := List.head?_dropWhile_not (· != '}') more
        rw [hafter] at this
        simpa using this
      refine ⟨_, rest, .intro hblanks fun hmem => absurd (hfront _ hmem) (by simp), ?_⟩
      rw [eq_append_of_afterWord? hword, hinside, eq_append_of_afterWord? hopen, hmore, hafter, hc]
      simp
  · rintro ⟨w, rest, ⟨hblanks, hplain⟩, rfl⟩
    rename_i blanks
    have hspan := span_append (· != '}') params ('}' :: rest)
      (fun c hc => by rw [bne_iff_ne]; rintro rfl; exact hplain hc) ⟨'}', rest, rfl, rfl⟩
    have hopen := afterBlanks_append hblanks ('{' :: (params ++ '}' :: rest)) ⟨'{', _, rfl, rfl⟩
    have hword : afterWord? ['('] ('(' :: (blanks ++ '{' :: (params ++ ['}'])) ++ rest) =
        some (blanks ++ '{' :: (params ++ '}' :: rest)) := by
      rw [← afterWord?_append ['(']]
      simp
    have hbrace : afterWord? ['{'] ('{' :: (params ++ '}' :: rest)) = some (params ++ '}' :: rest) :=
      afterWord?_append ['{'] _
    rw [inBracket?, hword, Option.bind_some, inBraces?, hopen, hbrace]
    simp only [bind, Option.bind_some, hspan.1, hspan.2, List.isEmpty_cons, Bool.false_eq_true, if_false]

/-- Where parameters are found a bracket stands. -/
theorem eq_cons_of_inBracket? {cs params : List Char} (h : inBracket? cs = some params) : ∃ rest, cs = '(' :: rest := by
  obtain ⟨w, rest, ⟨_, _⟩, rfl⟩ := inBracket?_eq_some_iff.1 h
  exact ⟨_, rfl⟩

/-- Type parameters are passed over up to the bracket. -/
theorem afterTypeParams?_append {types : List Char} (h : TypeParams types) (rest : List Char) :
    afterTypeParams? (types ++ '(' :: rest) = some ('(' :: rest) := by
  cases h with
  | absent => rfl
  | @present inner blanks plain after =>
    have hspan := span_append (fun c => c != '>' && c != '(') inner ('>' :: (blanks ++ '(' :: rest))
      (fun c hc => by simpa using plain c hc) ⟨'>', _, rfl, rfl⟩
    have hblanks := afterBlanks_append after ('(' :: rest) ⟨'(', _, rfl, rfl⟩
    simp only [List.cons_append, List.append_assoc, afterTypeParams?, hspan.2, hblanks]

/-- What is passed over are type parameters. -/
theorem exists_typeParams {cs rest : List Char} (h : afterTypeParams? cs = some rest) :
    ∃ types, TypeParams types ∧ cs = types ++ rest := by
  unfold afterTypeParams? at h
  split at h
  · rename_i inner
    obtain ⟨front, hfront, -, hinner⟩ := exists_span (fun c => c != '>' && c != '(') inner
    split at h
    · rename_i after hdrop
      obtain rfl := Option.some.inj h
      obtain ⟨blanks, hblanks, hafter⟩ := exists_blanks after
      refine ⟨_, .present (fun c hc => by simpa using hfront c hc) hblanks, ?_⟩
      rw [hinner, hdrop]
      simp [← hafter]
    · cases h
  · obtain rfl := Option.some.inj h
    exact ⟨[], .absent, rfl⟩

/-- A type stands before an equals sign exactly when it is passed over. -/
theorem afterType?_append {type : List Char} (h : Annotation type) (rest : List Char) :
    afterType? (type ++ '=' :: rest) = some ('=' :: rest) := by
  cases h with
  | absent => rfl
  | @present type nonempty plain =>
    obtain ⟨c, more, rfl⟩ := List.exists_cons_of_ne_nil nonempty
    have hc : c ≠ '=' := fun h => plain (by simp [h])
    have hspan := span_append (· != '=') more ('=' :: rest)
      (fun x hx => by rw [bne_iff_ne]; rintro rfl; exact plain (List.mem_cons_of_mem _ hx)) ⟨'=', _, rfl, rfl⟩
    simp only [List.cons_append, afterType?, if_neg hc, hspan.2]

/-- What is passed over before an equals sign is a type. -/
theorem exists_annotation {cs rest : List Char} (h : afterType? cs = some ('=' :: rest)) :
    ∃ type, Annotation type ∧ cs = type ++ '=' :: rest := by
  unfold afterType? at h
  split at h
  · rename_i c more
    split at h
    · cases h
    · rename_i hc
      obtain ⟨front, hfront, -, hmore⟩ := exists_span (· != '=') more
      have hdrop : more.dropWhile (· != '=') = '=' :: rest := by simpa using h
      refine ⟨_, .present (List.cons_ne_nil c front) ?_, by rw [hmore, hdrop]; simp⟩
      rw [List.mem_cons, not_or]
      exact ⟨Ne.symm hc, fun hmem => absurd (hfront _ hmem) (by simp)⟩
  · cases h
  · obtain rfl := Option.some.inj h
    exact ⟨[], .absent, rfl⟩

/-! ## Functions and constants -/

/-- A function has its parameters found exactly when it is written as functions are. -/
theorem functionParams?_eq_some_iff {cs params : List Char} :
    functionParams? cs = some params ↔ ∃ gap name blanks types opened, Gap gap ∧ CapitalName name ∧ Blanks blanks ∧
      TypeParams types ∧ inBracket? opened = some params ∧ cs = gap ++ (name ++ (blanks ++ (types ++ opened))) := by
  constructor
  · intro h
    obtain ⟨cs₁, h₁, h⟩ := Option.bind_eq_some_iff.1 h
    obtain ⟨cs₂, h₂, h⟩ := Option.bind_eq_some_iff.1 h
    obtain ⟨opened, h₃, ho⟩ := Option.bind_eq_some_iff.1 h
    obtain ⟨gap, hgap, rfl⟩ := exists_gap h₁
    obtain ⟨name, hname, rfl⟩ := exists_name h₂
    obtain ⟨blanks, hblanks, heq⟩ := exists_blanks cs₂
    obtain ⟨types, htypes, htail⟩ := exists_typeParams h₃
    exact ⟨gap, name, blanks, types, opened, hgap, hname, hblanks, htypes, ho, by rw [← htail, ← heq]⟩
  · rintro ⟨gap, name, blanks, types, opened, hgap, hname, hblanks, htypes, h, rfl⟩
    obtain ⟨rest, rfl⟩ := eq_cons_of_inBracket? h
    have htail : Starts (!isNameChar ·) (types ++ '(' :: rest) ∧ Starts (!Text.isBlank ·) (types ++ '(' :: rest) := by
      cases htypes with
      | absent => exact ⟨⟨'(', _, rfl, rfl⟩, ⟨'(', _, rfl, rfl⟩⟩
      | present => exact ⟨⟨'<', _, rfl, rfl⟩, ⟨'<', _, rfl, rfl⟩⟩
    simp only [functionParams?, bind, afterGap?_append hgap _ (hname.starts _), Option.bind_some,
      afterName?_append hname (starts_blanks_append hblanks htail.1), afterBlanks_append hblanks _ htail.2,
      afterTypeParams?_append htypes, h]

/-- The word `async` is taken where it stands, whatever follows it before the bracket. -/
theorem asyncParams?_append {async opened params : List Char} (h : AsyncMark async) (ho : inBracket? opened = some params) :
    asyncParams? (async ++ opened) = some params := by
  obtain ⟨rest, rfl⟩ := eq_cons_of_inBracket? ho
  cases h with
  | absent =>
    have hword : afterWord? "async".toList ('(' :: rest) = none := afterWord?_eq_none (by decide) _ _
    rw [List.nil_append, asyncParams?, hword, ho]
    rfl
  | @present blanks after =>
    have hblanks := afterBlanks_append after ('(' :: rest) ⟨'(', _, rfl, rfl⟩
    rw [List.append_assoc, asyncParams?, afterWord?_append, Option.bind_some, hblanks, ho]
    rfl

/-- What stands before the bracket is the word `async` or nothing. -/
theorem exists_async {cs params : List Char} (h : asyncParams? cs = some params) :
    ∃ async opened, AsyncMark async ∧ inBracket? opened = some params ∧ cs = async ++ opened := by
  rcases (Option.orElse_eq_some _ _ _).1 h with h | ⟨-, h⟩
  · obtain ⟨more, hword, h⟩ := Option.bind_eq_some_iff.1 h
    obtain ⟨blanks, hblanks, heq⟩ := exists_blanks more
    exact ⟨_, _, .present hblanks, h, by rw [List.append_assoc, ← heq, eq_append_of_afterWord? hword]⟩
  · exact ⟨[], cs, .absent, h, rfl⟩

/-- A wrapper is passed over with the blanks behind it. -/
theorem afterWrapper?_append {name blanks : List Char} (nonempty : name ≠ [])
    (letters : ∀ c ∈ name, isWrapperChar c = true) (after : Blanks blanks) (rest : List Char)
    (hrest : Starts (!Text.isBlank ·) rest) :
    afterWrapper? (name ++ '(' :: (blanks ++ rest)) = some rest := by
  have hspan := span_append isWrapperChar name ('(' :: (blanks ++ rest)) letters ⟨'(', _, rfl, rfl⟩
  obtain ⟨c, more, rfl⟩ := List.exists_cons_of_ne_nil nonempty
  have hword : afterWord? ['('] ('(' :: (blanks ++ rest)) = some (blanks ++ rest) := afterWord?_append ['('] _
  simp only [afterWrapper?, hspan.1, hspan.2, hword, Option.map_some, afterBlanks_append after rest hrest]

/-- What is passed over is a wrapper. -/
theorem exists_wrapper {cs rest : List Char} (h : afterWrapper? cs = some rest) :
    ∃ wrapper, Wrapper wrapper ∧ cs = wrapper ++ rest := by
  obtain ⟨name, hname, htake, hcs⟩ := exists_span isWrapperChar cs
  unfold afterWrapper? at h
  rw [htake] at h
  split at h
  · cases h
  · rename_i hne
    obtain ⟨more, hword, rfl⟩ := Option.map_eq_some_iff.1 h
    obtain ⟨blanks, hblanks, heq⟩ := exists_blanks more
    refine ⟨_, .present (fun h => hne h) hname hblanks, ?_⟩
    rw [hcs, eq_append_of_afterWord? hword]
    simp [← heq]

/-- The word `async` before a bracket is no wrapper of parameters: behind the bracket there are the parameters already. -/
theorem wrapped_async_eq_none {async opened params : List Char} (h : AsyncMark async)
    (ho : inBracket? opened = some params) : (afterWrapper? (async ++ opened)).bind asyncParams? = none := by
  obtain ⟨w, rest, @⟨inner, _, before, plain⟩, rfl⟩ := inBracket?_eq_some_iff.1 ho
  have hall : "async".toList.all isWrapperChar = true := rfl
  have hword : ∀ c ∈ "async".toList, isWrapperChar c = true := List.all_eq_true.1 hall
  cases h with
  | absent => rfl
  | @present blanks after =>
    cases blanks with
    | cons c more =>
      -- A blank parts the word from the bracket, so the word wraps nothing.
      have hblank : Text.isBlank c = true := after c (by simp)
      have hc : isWrapperChar c = false := by
        rw [Bool.eq_false_iff]
        intro hw
        simp [isBlank_of_isWrapperChar hw] at hblank
      have hspan := span_append isWrapperChar "async".toList
        (c :: more ++ ('(' :: (inner ++ '{' :: (params ++ ['}'])) ++ rest)) hword ⟨c, _, rfl, by simp [hc]⟩
      have hopen : c ≠ '(' := by
        rintro rfl
        exact absurd hblank (by decide)
      rw [List.append_assoc, afterWrapper?, hspan.1, hspan.2, List.cons_append, afterWord?_eq_none hopen]
      rfl
    | nil =>
      have hwrapper := afterWrapper?_append (by decide) hword before
        ('{' :: (params ++ '}' :: rest)) ⟨'{', _, rfl, rfl⟩
      have hnone : asyncParams? ('{' :: (params ++ '}' :: rest)) = none := by
        have h₁ : afterWord? "async".toList ('{' :: (params ++ '}' :: rest)) = none := afterWord?_eq_none (by decide) _ _
        have h₂ : afterWord? ['('] ('{' :: (params ++ '}' :: rest)) = none := afterWord?_eq_none (by decide) _ _
        rw [asyncParams?, h₁, inBracket?, h₂]
        rfl
      simp only [List.append_nil, List.cons_append, List.append_assoc, List.nil_append, hwrapper, Option.bind_some, hnone]

/-- The value of a constant has its parameters found exactly when it is written as such values are. -/
theorem valueParams?_eq_some_iff {cs params : List Char} :
    valueParams? cs = some params ↔ ∃ wrapper async opened, Wrapper wrapper ∧ AsyncMark async ∧
      inBracket? opened = some params ∧ cs = wrapper ++ (async ++ opened) := by
  constructor
  · intro h
    rcases (Option.orElse_eq_some _ _ _).1 h with h | ⟨-, h⟩
    · obtain ⟨inside, hwrapper, hinside⟩ := Option.bind_eq_some_iff.1 h
      obtain ⟨wrapper, hw, rfl⟩ := exists_wrapper hwrapper
      obtain ⟨async, opened, ha, ho, rfl⟩ := exists_async hinside
      exact ⟨wrapper, async, opened, hw, ha, ho, rfl⟩
    · obtain ⟨async, opened, ha, ho, rfl⟩ := exists_async h
      exact ⟨[], async, opened, .absent, ha, ho, rfl⟩
  · rintro ⟨wrapper, async, opened, hw, ha, ho, rfl⟩
    cases hw with
    | absent =>
      rw [List.nil_append, valueParams?, wrapped_async_eq_none ha ho, asyncParams?_append ha ho]
      rfl
    | @present name blanks nonempty letters after =>
      have hstart : Starts (!Text.isBlank ·) (async ++ opened) := by
        obtain ⟨rest, rfl⟩ := eq_cons_of_inBracket? ho
        cases ha with
        | absent => exact ⟨'(', _, rfl, rfl⟩
        | present => exact ⟨'a', _, rfl, rfl⟩
      rw [List.append_assoc, List.cons_append, valueParams?, afterWrapper?_append nonempty letters after _ hstart,
        Option.bind_some, asyncParams?_append ha ho]
      rfl

/-- A constant has its parameters found exactly when it is written as constants are. -/
theorem constParams?_eq_some_iff {cs params : List Char} :
    constParams? cs = some params ↔ ∃ gap name blanks type more wrapper async opened, Gap gap ∧ CapitalName name ∧
      Blanks blanks ∧ Annotation type ∧ Blanks more ∧ Wrapper wrapper ∧ AsyncMark async ∧
      inBracket? opened = some params ∧
      cs = gap ++ (name ++ (blanks ++ (type ++ '=' :: (more ++ (wrapper ++ (async ++ opened)))))) := by
  constructor
  · intro h
    obtain ⟨cs₁, h₁, h⟩ := Option.bind_eq_some_iff.1 h
    obtain ⟨cs₂, h₂, h⟩ := Option.bind_eq_some_iff.1 h
    obtain ⟨cs₃, h₃, h⟩ := Option.bind_eq_some_iff.1 h
    obtain ⟨value, h₄, h₅⟩ := Option.bind_eq_some_iff.1 h
    obtain ⟨gap, hgap, rfl⟩ := exists_gap h₁
    obtain ⟨name, hname, rfl⟩ := exists_name h₂
    obtain ⟨blanks, hblanks, heq⟩ := exists_blanks cs₂
    have hsign : cs₃ = '=' :: value := eq_append_of_afterWord? h₄
    obtain ⟨type, htype, htail⟩ := exists_annotation (hsign ▸ h₃)
    obtain ⟨more, hmore, hvalue⟩ := exists_blanks value
    obtain ⟨wrapper, async, opened, hw, ha, ho, hinner⟩ := valueParams?_eq_some_iff.1 h₅
    exact ⟨gap, name, blanks, type, more, wrapper, async, opened, hgap, hname, hblanks, htype, hmore, hw, ha, ho,
      by rw [← hinner, ← hvalue, ← htail, ← heq]⟩
  · rintro ⟨gap, name, blanks, type, more, wrapper, async, opened, hgap, hname, hblanks, htype, hmore, hw, ha, ho, rfl⟩
    have hvalue : valueParams? (wrapper ++ (async ++ opened)) = some params :=
      valueParams?_eq_some_iff.2 ⟨wrapper, async, opened, hw, ha, ho, rfl⟩
    have hinner : Starts (!Text.isBlank ·) (wrapper ++ (async ++ opened)) := by
      obtain ⟨rest, rfl⟩ := eq_cons_of_inBracket? ho
      cases hw with
      | absent =>
        cases ha with
        | absent => exact ⟨'(', _, rfl, rfl⟩
        | present => exact ⟨'a', _, rfl, rfl⟩
      | @present name blanks nonempty letters after =>
        obtain ⟨c, tail, rfl⟩ := List.exists_cons_of_ne_nil nonempty
        exact ⟨c, _, rfl, by simp [isBlank_of_isWrapperChar (letters c (by simp))]⟩
    have htail : ∀ rest, Starts (!isNameChar ·) (type ++ '=' :: rest) ∧ Starts (!Text.isBlank ·) (type ++ '=' :: rest) := by
      intro rest
      cases htype with
      | absent => exact ⟨⟨'=', _, rfl, rfl⟩, ⟨'=', _, rfl, rfl⟩⟩
      | present => exact ⟨⟨':', _, rfl, rfl⟩, ⟨':', _, rfl, rfl⟩⟩
    have hsign : ∀ rest, afterWord? ['='] ('=' :: rest) = some rest := fun rest => afterWord?_append ['='] rest
    simp only [constParams?, bind, afterGap?_append hgap _ (hname.starts _), Option.bind_some,
      afterName?_append hname (starts_blanks_append hblanks (htail _).1), afterBlanks_append hblanks _ (htail _).2,
      afterType?_append htype, hsign, afterBlanks_append hmore _ hinner, hvalue]

/-! ## Declarations -/

/-- The word `default` is passed over with the gap behind it. -/
theorem afterDefault_append {mark head : List Char} (hm : DefaultMark mark) (hh : Head head) (rest : List Char) :
    afterDefault (mark ++ (head ++ rest)) = head ++ rest ∧ Starts (!Text.isBlank ·) (mark ++ (head ++ rest)) := by
  have hhead : ∃ c tail, head ++ rest = c :: tail ∧ c ≠ 'd' ∧ Text.isBlank c = false := by
    cases hh with
    | function => exact ⟨'f', _, rfl, by decide, rfl⟩
    | constant => exact ⟨'c', _, rfl, by decide, rfl⟩
  obtain ⟨c, tail, heq, hne, hc⟩ := hhead
  rw [heq]
  cases hm with
  | absent =>
    have hword : afterWord? "default".toList (c :: tail) = none := afterWord?_eq_none hne _ _
    rw [List.nil_append, afterDefault, hword]
    exact ⟨rfl, c, tail, rfl, by simp [hc]⟩
  | @present gap after =>
    have hgap := afterGap?_append after (c :: tail) ⟨c, tail, rfl, by simp [hc]⟩
    rw [List.append_assoc, afterDefault, afterWord?_append, Option.bind_some, hgap]
    exact ⟨rfl, 'd', _, rfl, rfl⟩

/-- What is passed over is the word `default` with a gap behind it, or nothing. -/
theorem exists_default (cs : List Char) : ∃ mark, DefaultMark mark ∧ cs = mark ++ afterDefault cs := by
  cases h : (afterWord? "default".toList cs).bind afterGap? with
  | none => exact ⟨[], .absent, by rw [afterDefault, h]; rfl⟩
  | some rest =>
    obtain ⟨more, hword, hgap⟩ := Option.bind_eq_some_iff.1 h
    obtain ⟨gap, hg, rfl⟩ := exists_gap hgap
    exact ⟨_, .present hg, by rw [afterDefault, h, eq_append_of_afterWord? hword]; simp⟩

/-- A declaration is found at the front of a text exactly when one stands there, and with its own parameter text. -/
theorem declarationParams?_eq_some_iff {cs params : List Char} :
    declarationParams? cs = some params ↔ ∃ w rest, Declares w params ∧ cs = w ++ rest := by
  constructor
  · intro h
    obtain ⟨cs₁, h₁, h⟩ := Option.bind_eq_some_iff.1 h
    obtain ⟨cs₂, h₂, h₃⟩ := Option.bind_eq_some_iff.1 h
    obtain ⟨gap, hgap, rfl⟩ := exists_gap h₂
    obtain ⟨mark, hmark, hdefault⟩ := exists_default cs₂
    have hhead : ∃ head opened, Head head ∧ inBracket? opened = some params ∧ afterDefault cs₂ = head ++ opened := by
      rcases (Option.orElse_eq_some _ _ _).1 h₃ with h | ⟨-, h⟩
      · obtain ⟨tail, hword, hf⟩ := Option.bind_eq_some_iff.1 h
        obtain ⟨g, name, blanks, types, opened, hg, hname, hblanks, htypes, ho, rfl⟩ := functionParams?_eq_some_iff.1 hf
        exact ⟨_, opened, .function hg hname hblanks htypes, ho, by rw [eq_append_of_afterWord? hword]; simp⟩
      · obtain ⟨tail, hword, hf⟩ := Option.bind_eq_some_iff.1 h
        obtain ⟨g, name, blanks, type, more, wrapper, async, opened, hg, hname, hblanks, htype, hmore, hw, ha, ho, rfl⟩ :=
          constParams?_eq_some_iff.1 hf
        exact ⟨_, opened, .constant hg hname hblanks htype hmore hw ha, ho, by rw [eq_append_of_afterWord? hword]; simp⟩
    obtain ⟨head, opened, hh, ho, heq⟩ := hhead
    obtain ⟨bracket, rest, hb, rfl⟩ := inBracket?_eq_some_iff.1 ho
    refine ⟨_, rest, .intro hgap hmark hh hb, ?_⟩
    rw [eq_append_of_afterWord? h₁, hdefault, heq]
    simp
  · rintro ⟨w, rest, @⟨gap, mark, head, bracket, _, hgap, hmark, hh, hb⟩, rfl⟩
    obtain ⟨hdefault, hstart⟩ := afterDefault_append hmark hh (bracket ++ rest)
    have ho : inBracket? (bracket ++ rest) = some params := inBracket?_eq_some_iff.2 ⟨bracket, rest, hb, rfl⟩
    simp only [List.append_assoc, declarationParams?, bind, afterWord?_append, Option.bind_some,
      afterGap?_append hgap _ hstart, hdefault]
    refine (Option.orElse_eq_some _ _ _).2 ?_
    cases hh with
    | @function g name blanks types hg hname hblanks htypes =>
      refine Or.inl ?_
      rw [List.append_assoc, afterWord?_append, Option.bind_some]
      exact functionParams?_eq_some_iff.2 ⟨g, name, blanks, types, _, hg, hname, hblanks, htypes, ho, by simp⟩
    | @constant g name blanks type more wrapper async hg hname hblanks htype hmore hw ha =>
      refine Or.inr ⟨?_, ?_⟩
      · have hword : ∀ tail, afterWord? "function".toList ("const".toList ++ tail) = none :=
          fun tail => afterWord?_eq_none (by decide) _ _
        rw [List.append_assoc, hword]
        rfl
      · rw [List.append_assoc, afterWord?_append, Option.bind_some]
        exact constParams?_eq_some_iff.2
          ⟨g, name, blanks, type, more, wrapper, async, _, hg, hname, hblanks, htype, hmore, hw, ha, ho, by simp⟩

end RenderCatalog.Source
