import RenderCatalog.Proofs.Path
import RenderCatalog.Source.Params

/-!
# The props of a parameter list

A parameter list is read token by token, where a token is what stands between two commas (`TokenBehind`), and of the tokens that
declare one name the first one counts. So the props are those of the first declarations of their names, every declared name is
among them, and they stand in the order of these declarations (`lists_paramProps`). A parameter list may be read in two parts that meet at
a comma: the second part adds the props whose names the first one does not have (`paramProps_append`).
-/

namespace RenderCatalog.Source

variable {params before token : List Char}

/-! ## Tokens -/

/-- A token stands behind the first part of a parameter list: it holds no comma, and there is nothing or a comma right before it
and right after it. -/
def TokenBehind (params before token : List Char) : Prop :=
  ∃ after, params = before ++ token ++ after ∧ ',' ∉ token ∧ (before = [] ∨ before.getLast? = some ',') ∧
    (after = [] ∨ after.head? = some ',')

/-- The tokens of a parameter list. -/
def tokens (params : List Char) : List (List Char) := Text.pieces (· == ',') params

/-- Tokens as they are written, each with a comma behind it. -/
def written (tokens : List (List Char)) : List Char := tokens.flatMap (· ++ [','])

/-- Tokens in a row are written in a row. -/
theorem written_append (a b : List (List Char)) : written (a ++ b) = written a ++ written b := List.flatMap_append

/-- A token is written with a comma behind it, and then the others. -/
theorem written_cons (token : List Char) (rest : List (List Char)) : written (token :: rest) = token ++ ',' :: written rest := by
  rw [written, List.flatMap_cons, List.append_assoc, List.singleton_append]
  rfl

/-- The tokens of a parameter list spell it out. -/
theorem written_tokens (params : List Char) : written (tokens params) = params ++ [','] := by
  induction params with
  | nil => rfl
  | cons c rest ih =>
    rw [tokens] at ih
    rw [tokens, Text.pieces]
    split
    · rename_i hcomma
      obtain rfl : c = ',' := by simpa using hcomma
      rw [written_cons, ih]
      rfl
    · obtain ⟨w, ws, hw⟩ := List.exists_cons_of_ne_nil (Text.pieces_ne_nil (· == ',') rest)
      rw [hw] at ih ⊢
      rw [written_cons] at ih
      simp only
      rw [written_cons, List.cons_append, ih, List.cons_append]

/-- What is written of tokens ends in a comma, if there are any. -/
theorem written_eq_nil_or (tokens : List (List Char)) : written tokens = [] ∨ ∃ text, written tokens = text ++ [','] := by
  rcases List.eq_nil_or_concat tokens with rfl | ⟨front, token, rfl⟩
  · exact Or.inl rfl
  · refine Or.inr ⟨written front ++ token, ?_⟩
    rw [List.concat_eq_append, written_append, written_cons, List.append_assoc]
    rfl

/-- A text without a comma is one token. -/
theorem tokens_of_not_mem (h : ',' ∉ token) : tokens token = [token] :=
  Text.pieces_of_forall fun c hc => by
    rw [beq_eq_false_iff_ne]
    rintro rfl
    exact h hc

/-- What stands behind a first part are the tokens, and the first part is the tokens before as they are written. -/
theorem tokenBehind_iff :
    TokenBehind params before token ↔ ∃ front back, tokens params = front ++ token :: back ∧ before = written front := by
  constructor
  · rintro ⟨after, rfl, htoken, hbefore, hafter⟩
    -- the tokens from this one on are its own and those behind the comma after it
    have hrest : ∃ back, tokens (token ++ after) = token :: back := by
      rcases hafter with rfl | hhead
      · exact ⟨[], by rw [List.append_nil, tokens_of_not_mem htoken]⟩
      · obtain ⟨more, rfl⟩ := List.head?_eq_some_iff.1 hhead
        refine ⟨tokens more, ?_⟩
        rw [tokens, Text.pieces_append rfl, ← tokens, tokens_of_not_mem htoken]
        rfl
    obtain ⟨back, hback⟩ := hrest
    rcases hbefore with rfl | hlast
    · exact ⟨[], back, hback, rfl⟩
    · obtain ⟨text, rfl⟩ := List.getLast?_eq_some_iff.1 hlast
      refine ⟨tokens text, back, ?_, (written_tokens text).symm⟩
      rw [tokens, List.append_assoc, List.append_assoc, List.singleton_append, Text.pieces_append rfl, ← tokens, ← tokens, hback]
  · rintro ⟨front, back, htokens, rfl⟩
    have htext := written_tokens params
    rw [htokens, written_append, written_cons] at htext
    have htoken : ',' ∉ token := by
      intro hmem
      have hpiece : token ∈ Text.pieces (· == ',') params := by
        rw [← tokens, htokens]
        simp
      have := Text.of_mem_pieces hpiece ',' hmem
      simp at this
    have hfront : written front = [] ∨ (written front).getLast? = some ',' := by
      rcases written_eq_nil_or front with hnil | ⟨text, htext⟩
      · exact Or.inl hnil
      · exact Or.inr (by rw [htext, List.getLast?_concat])
    rcases written_eq_nil_or back with hnil | ⟨text, hback⟩
    · rw [hnil, ← List.append_assoc] at htext
      refine ⟨[], ?_, htoken, hfront, Or.inl rfl⟩
      rw [List.append_nil]
      exact (List.append_cancel_right htext).symm
    · refine ⟨',' :: text, ?_, htoken, hfront, Or.inr rfl⟩
      rw [hback, ← List.cons_append, ← List.append_assoc, ← List.append_assoc] at htext
      rw [← List.append_cancel_right htext]

/-! ## Declarations -/

/-- A token behind the first part of a parameter list declares the prop. -/
def PropBehind (params before : List Char) (p : DeclaredProp) : Prop :=
  ∃ token, TokenBehind params before token ∧ propOfToken? token = some p

/-- The props are those that a parameter list declares: each is the first declaration of its name, every declared name is among
them, and each is declared before any declaration of the names after it. -/
structure Lists (params : List Char) (props : List DeclaredProp) : Prop where
  first : ∀ p ∈ props, ∃ before, PropBehind params before p ∧
    ∀ before' q, PropBehind params before' q → q.name = p.name → before.length ≤ before'.length
  all : ∀ before p, PropBehind params before p → p.name ∈ props.map (·.name)
  ordered : props.Pairwise fun p q => ∃ before, PropBehind params before p ∧
    ∀ before' q', PropBehind params before' q' → q'.name = q.name → before.length < before'.length

/-- A prop is declared by a token that starts just behind the first part. -/
theorem propBehind_iff {p : DeclaredProp} : PropBehind params before p ↔
    ∃ front token back, tokens params = front ++ token :: back ∧ before = written front ∧ propOfToken? token = some p := by
  simp only [PropBehind, tokenBehind_iff]
  constructor
  · rintro ⟨token, ⟨front, back, htokens, hbefore⟩, hp⟩
    exact ⟨front, token, back, htokens, hbefore, hp⟩
  · rintro ⟨front, token, back, htokens, hbefore, hp⟩
    exact ⟨token, ⟨front, back, htokens, hbefore⟩, hp⟩

/-- Where a prop is among those of the tokens, a token declares it, and the props before it are those of the tokens before. -/
theorem exists_propBehind {front back : List DeclaredProp} {p : DeclaredProp} (h : tokenProps params = front ++ p :: back) :
    ∃ before, PropBehind params before p ∧ ∀ before' q, PropBehind params before' q →
      (q.name ∉ front.map (·.name) → before.length ≤ before'.length) ∧
      (q.name ∉ (front ++ [p]).map (·.name) → before.length < before'.length) := by
  obtain ⟨first, rest, htokens, hfirst, hrest⟩ := List.filterMap_eq_append_iff.1 h
  obtain ⟨skipped, token, tail, rfl, hskipped, htoken, -⟩ := List.filterMap_eq_cons_iff.1 hrest
  rw [← tokens, ← List.append_assoc] at htokens
  have hfront : (first ++ skipped).filterMap propOfToken? = front := by
    rw [List.filterMap_append, hfirst, List.filterMap_eq_nil_iff.2 hskipped, List.append_nil]
  refine ⟨written (first ++ skipped), propBehind_iff.2 ⟨_, token, tail, htokens, rfl, htoken⟩, fun before' q hbehind => ?_⟩
  obtain ⟨front', token', back', htokens', rfl, hq⟩ := propBehind_iff.1 hbehind
  rw [htokens] at htokens'
  -- the other token is this one, or stands behind it, or declares a prop of the front
  rcases List.append_eq_append_iff.1 htokens' with ⟨between, rfl, hbetween⟩ | ⟨between, hsplit, hbetween⟩
  · have hle : (written (first ++ skipped)).length ≤ (written (first ++ skipped ++ between)).length := by
      rw [written_append (first ++ skipped) between, List.length_append]
      exact Nat.le_add_right _ _
    refine ⟨fun _ => hle, fun hne => ?_⟩
    cases between with
    | nil =>
      obtain ⟨rfl, -⟩ := List.cons.inj hbetween
      rw [htoken] at hq
      cases hq
      simp at hne
    | cons t more =>
      rw [written_append (first ++ skipped) (t :: more), written_cons, List.length_append, List.length_append, List.length_cons]
      omega
  · cases between with
    | nil =>
      obtain ⟨rfl, -⟩ := List.cons.inj hbetween
      rw [htoken] at hq
      cases hq
      rw [hsplit, List.append_nil]
      exact ⟨fun _ => le_refl _, fun hne => absurd (by simp) hne⟩
    | cons t more =>
      obtain ⟨rfl, -⟩ := List.cons.inj hbetween
      have hmem : q.name ∈ front.map (·.name) := by
        rw [← hfront, hsplit]
        exact List.mem_map_of_mem (List.mem_filterMap.2 ⟨token', by simp, hq⟩)
      refine ⟨fun hne => absurd hmem hne, fun hne => absurd ?_ hne⟩
      rw [List.map_append]
      exact List.mem_append_left _ hmem

/-! ## The first of each name -/

/-- A name is kept when it comes and has not been seen. -/
theorem mem_names_firstOfEach (seen : List String) (props : List DeclaredProp) (name : String) :
    name ∈ (firstOfEach seen props).map (·.name) ↔ name ∈ props.map (·.name) ∧ name ∉ seen := by
  induction props generalizing seen with
  | nil => simp [firstOfEach]
  | cons p rest ih =>
    rw [firstOfEach]
    split
    · rename_i hseen
      rw [ih, List.map_cons, List.mem_cons]
      have hp : name = p.name → name ∈ seen := by
        rintro rfl
        simpa using hseen
      tauto
    · rename_i hseen
      have hp : name = p.name → name ∉ seen := by
        rintro rfl
        simpa using hseen
      rw [List.map_cons, List.mem_cons, ih, List.map_cons, List.mem_cons, List.mem_cons]
      tauto

/-- A prop that stays is the first of its name. -/
theorem exists_first_of_mem {seen : List String} {props : List DeclaredProp} {p : DeclaredProp}
    (h : p ∈ firstOfEach seen props) : ∃ front back, props = front ++ p :: back ∧ p.name ∉ front.map (·.name) := by
  induction props generalizing seen with
  | nil => cases h
  | cons x rest ih =>
    have hseen : p.name ∉ seen := ((mem_names_firstOfEach seen _ p.name).1 (List.mem_map_of_mem h)).2
    rw [firstOfEach] at h
    -- what is skipped, or stays before, has another name
    have hbehind : ∀ {seen'}, x.name ∈ seen' → p ∈ firstOfEach seen' rest →
        ∃ front back, x :: rest = front ++ p :: back ∧ p.name ∉ front.map (·.name) := by
      intro seen' hx hp
      have hne : p.name ∉ seen' := ((mem_names_firstOfEach seen' _ p.name).1 (List.mem_map_of_mem hp)).2
      obtain ⟨front, back, rfl, hfront⟩ := ih hp
      refine ⟨x :: front, back, rfl, ?_⟩
      rw [List.map_cons, List.mem_cons, not_or]
      exact ⟨fun heq => hne (heq ▸ hx), hfront⟩
    split at h
    · rename_i hx
      exact hbehind (by simpa using hx) h
    · rcases List.mem_cons.1 h with rfl | h
      · exact ⟨[], rest, rfl, by simp⟩
      · exact hbehind List.mem_cons_self h

/-- Each prop that stays stands before every prop with the name of one that stays behind it. -/
theorem firstOfEach_ordered (seen : List String) (props : List DeclaredProp) :
    (firstOfEach seen props).Pairwise fun p q =>
      ∃ front back, props = front ++ p :: back ∧ q.name ∉ (front ++ [p]).map (·.name) := by
  induction props generalizing seen with
  | nil => exact List.Pairwise.nil
  | cons x rest ih =>
    have hbehind : ∀ {seen'}, x.name ∈ seen' → (firstOfEach seen' rest).Pairwise fun p q =>
        ∃ front back, x :: rest = front ++ p :: back ∧ q.name ∉ (front ++ [p]).map (·.name) := by
      intro seen' hx
      refine (ih seen').imp_of_mem fun {p q} _ hq hpair => ?_
      have hne : q.name ∉ seen' := ((mem_names_firstOfEach seen' _ q.name).1 (List.mem_map_of_mem hq)).2
      obtain ⟨front, back, rfl, hfront⟩ := hpair
      refine ⟨x :: front, back, rfl, ?_⟩
      rw [List.cons_append, List.map_cons, List.mem_cons, not_or]
      exact ⟨fun heq => hne (heq ▸ hx), hfront⟩
    rw [firstOfEach]
    split
    · rename_i hx
      exact hbehind (by simpa using hx)
    · refine List.pairwise_cons.2 ⟨fun q hq => ⟨[], rest, rfl, ?_⟩, hbehind List.mem_cons_self⟩
      have hne := ((mem_names_firstOfEach _ _ q.name).1 (List.mem_map_of_mem hq)).2
      rw [List.mem_cons, not_or] at hne
      simpa using hne.1

/-- No name comes twice. -/
theorem nodup_names_firstOfEach (seen : List String) (props : List DeclaredProp) :
    ((firstOfEach seen props).map (·.name)).Nodup := by
  refine List.pairwise_map.2 ((firstOfEach_ordered seen props).imp fun {p q} hpair => ?_)
  obtain ⟨front, -, -, hne⟩ := hpair
  rintro heq
  rw [List.map_append, List.mem_append, not_or] at hne
  exact hne.2 (by simp [heq])

/-- The props of a parameter list are the first declarations of their names, in the order of the text. -/
theorem lists_paramProps (params : List Char) : Lists params (paramProps params) := by
  refine ⟨fun p hp => ?_, fun before p hp => ?_, (firstOfEach_ordered [] (tokenProps params)).imp fun {p q} hpair => ?_⟩
  · obtain ⟨front, back, hprops, hfront⟩ := exists_first_of_mem hp
    obtain ⟨before, hbefore, hfirst⟩ := exists_propBehind hprops
    exact ⟨before, hbefore, fun before' q hq hname => (hfirst before' q hq).1 (hname ▸ hfront)⟩
  · obtain ⟨front, token, back, htokens, -, htoken⟩ := propBehind_iff.1 hp
    refine (mem_names_firstOfEach [] _ _).2 ⟨List.mem_map_of_mem (List.mem_filterMap.2 ⟨token, ?_, htoken⟩), by simp⟩
    rw [← tokens, htokens]
    simp
  · obtain ⟨front, back, hprops, hne⟩ := hpair
    obtain ⟨before, hbefore, hfirst⟩ := exists_propBehind hprops
    exact ⟨before, hbefore, fun before' q' hq' hname => (hfirst before' q' hq').2 (hname ▸ hne)⟩

/-! ## Parameter lists in two parts -/

/-- The tokens on the two sides of a comma are read on their own. -/
theorem tokenProps_append (a b : List Char) : tokenProps (a ++ ',' :: b) = tokenProps a ++ tokenProps b := by
  rw [tokenProps, Text.pieces_append rfl, List.filterMap_append]
  rfl

/-- Names that were seen before take away the props that have them, and change nothing about the others. -/
theorem firstOfEach_eq_filter (seen : List String) (props : List DeclaredProp) :
    firstOfEach seen props = (firstOfEach [] props).filter fun p => p.name ∉ seen := by
  induction props generalizing seen with
  | nil => rfl
  | cons p rest ih =>
    have hfirst : firstOfEach [] (p :: rest) = p :: (firstOfEach [] rest).filter fun q => q.name ∉ [p.name] := by
      rw [firstOfEach, if_neg (by simp), ih [p.name]]
    rw [hfirst, firstOfEach]
    by_cases hseen : p.name ∈ seen
    · rw [if_pos (by simpa using hseen), List.filter_cons_of_neg (by simpa using hseen), List.filter_filter, ih]
      refine List.filter_congr fun q _ => ?_
      have hne : q.name ∉ seen → q.name ≠ p.name := fun hq heq => hq (heq ▸ hseen)
      simpa using hne
    · rw [if_neg (by simpa using hseen), List.filter_cons_of_pos (by simpa using hseen), List.filter_filter, ih]
      refine congrArg (p :: ·) (List.filter_congr fun q _ => ?_)
      simp [Bool.and_comm]

/-- Of two lists of props in a row, the second gives those whose names are not in the first. -/
theorem firstOfEach_append (seen : List String) (front back : List DeclaredProp) :
    firstOfEach seen (front ++ back) =
      firstOfEach seen front ++ (firstOfEach [] back).filter fun q => q.name ∉ seen ∧ q.name ∉ front.map (·.name) := by
  induction front generalizing seen with
  | nil =>
    rw [List.nil_append, firstOfEach_eq_filter]
    simp [firstOfEach]
  | cons p rest ih =>
    rw [List.cons_append, firstOfEach, firstOfEach]
    by_cases hseen : p.name ∈ seen
    · rw [if_pos (by simpa using hseen), if_pos (by simpa using hseen), ih]
      refine congrArg _ (List.filter_congr fun q _ => ?_)
      have hne : q.name ∉ seen → q.name ≠ p.name := fun hq heq => hq (heq ▸ hseen)
      simp only [List.map_cons, List.mem_cons, not_or, decide_eq_decide]
      tauto
    · rw [if_neg (by simpa using hseen), if_neg (by simpa using hseen), ih]
      refine congrArg (p :: firstOfEach (p.name :: seen) rest ++ ·) (List.filter_congr fun q _ => ?_)
      simp only [List.map_cons, List.mem_cons, not_or, decide_eq_decide]
      tauto

/-- A comma cuts a parameter list in two whatever stands around it, also inside a type or a default value: the props of the whole are
those of the first part, and after them, in their order and as they are declared there, those of the second part whose names
the first one does not have. -/
theorem paramProps_append (a b : List Char) :
    paramProps (a ++ ',' :: b) = paramProps a ++ (paramProps b).filter fun p => p.name ∉ (paramProps a).map (·.name) := by
  rw [paramProps, tokenProps_append, firstOfEach_append]
  refine congrArg _ (List.filter_congr fun q _ => ?_)
  simp only [paramProps, mem_names_firstOfEach, List.not_mem_nil, not_false_eq_true, true_and, and_true]

end RenderCatalog.Source
