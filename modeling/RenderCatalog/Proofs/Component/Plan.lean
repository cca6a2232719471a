import RenderCatalog.Component.Basic
import RenderCatalog.Component.Plan
import RenderCatalog.Proofs.Component.Spelling
import RenderCatalog.Proofs.Path.Extension

/-!
# Planned names

A component may be planned under any of its spellings. A name is accepted when it is made of letters and digits with single
hyphens between, a letter first (`IsPlannable`), and the stem that it stands for is such a name again, without capitals
(`isStem_stemOf`). A hyphenated name stands for itself in small letters; any other name is broken before its capitals, and naming a
component for the stem puts them back (`pascal_broken`). So the stem and the component name both lead to the component that was
planned, and so does the planned file (`names_normal`).
-/

namespace RenderCatalog

namespace Plan

variable {name stem segment rest : List Char} {c : Char}

/-! ## Accepted names -/

/-- Letters, digits and hyphens, a letter first, no hyphen last and no two in a row. -/
structure IsPlannable (name : List Char) : Prop where
  chars : ∀ c ∈ name, c.isAlphanum = true ∨ c = '-'
  first : ∃ c rest, name = c :: rest ∧ c.isAlpha = true
  last : ¬['-'] <:+ name
  single : ¬['-', '-'] <:+: name

/-- The check of a name accepts just these. -/
theorem isName_iff : isName name = true ↔ IsPlannable name := by
  have hchars : name.all isNameChar = true ↔ ∀ c ∈ name, c.isAlphanum = true ∨ c = '-' := by
    simp [isNameChar]
  have hfirst : name.head?.any isLetter = true ↔ ∃ c rest, name = c :: rest ∧ c.isAlpha = true := by
    cases name <;> simp [isLetter]
  have hlast : (name.getLast? != some '-') = true ↔ ¬['-'] <:+ name := by
    rw [bne_iff_ne, Ne, not_iff_not, List.getLast?_eq_some_iff]
    exact exists_congr fun _ => eq_comm
  have hsingle : (!Text.occurs ['-', '-'] name) = true ↔ ¬['-', '-'] <:+: name := by
    rw [Bool.not_eq_true', ← Bool.not_eq_true, Text.occurs_iff]
  rw [isName, Bool.and_eq_true, Bool.and_eq_true, Bool.and_eq_true, hchars, hfirst, hlast, hsingle]
  exact ⟨fun ⟨⟨⟨h₁, h₂⟩, h₃⟩, h₄⟩ => ⟨h₁, h₂, h₃, h₄⟩, fun ⟨h₁, h₂, h₃, h₄⟩ => ⟨⟨⟨h₁, h₂⟩, h₃⟩, h₄⟩⟩

/-- Letters and digits with single hyphens between, character by character. -/
inductive Hyphenated : List Char → Prop where
  | single {c : Char} (alphanum : c.isAlphanum = true) : Hyphenated [c]
  | cons {c : Char} {rest : List Char} (alphanum : c.isAlphanum = true) (more : Hyphenated rest) : Hyphenated (c :: rest)
  | hyphen {c : Char} {rest : List Char} (alphanum : c.isAlphanum = true) (more : Hyphenated rest) :
      Hyphenated (c :: '-' :: rest)

/-- A hyphenated name starts with a letter or a digit. -/
theorem Hyphenated.exists_cons (h : Hyphenated name) : ∃ c rest, name = c :: rest ∧ c.isAlphanum = true := by
  cases h with
  | single alphanum => exact ⟨_, _, rfl, alphanum⟩
  | cons alphanum => exact ⟨_, _, rfl, alphanum⟩
  | hyphen alphanum => exact ⟨_, _, rfl, alphanum⟩

/-- A letter or digit more at the front puts no hyphen in a wrong place. -/
theorem cons_hyphens_iff (hc : c.isAlphanum = true) :
    (¬['-'] <:+ c :: rest ∧ ¬['-', '-'] <:+: c :: rest) ↔ (¬['-'] <:+ rest ∧ ¬['-', '-'] <:+: rest) := by
  have hhyphen := (Text.ne_hyphen_of_isAlphanum hc).symm
  rw [List.suffix_cons_iff, List.infix_cons_iff, List.cons_prefix_cons]
  simp [hhyphen]

/-- Neither does a hyphen before a letter or digit. -/
theorem hyphen_cons_hyphens_iff (hc : c.isAlphanum = true) :
    (¬['-'] <:+ '-' :: c :: rest ∧ ¬['-', '-'] <:+: '-' :: c :: rest) ↔ (¬['-'] <:+ c :: rest ∧ ¬['-', '-'] <:+: c :: rest) := by
  have hhyphen := (Text.ne_hyphen_of_isAlphanum hc).symm
  rw [List.suffix_cons_iff, @List.infix_cons_iff _ _ _ (c :: rest), List.cons_prefix_cons, List.cons_prefix_cons]
  simp [hhyphen]

/-- In a hyphenated name no hyphen stands in a wrong place. -/
theorem Hyphenated.hyphens (h : Hyphenated name) : ¬['-'] <:+ name ∧ ¬['-', '-'] <:+: name := by
  induction h with
  | single alphanum => exact (cons_hyphens_iff alphanum).2 ⟨by simp, by simp⟩
  | cons alphanum more ih => exact (cons_hyphens_iff alphanum).2 ih
  | hyphen alphanum more ih =>
    obtain ⟨d, rest, rfl, hd⟩ := more.exists_cons
    exact (cons_hyphens_iff alphanum).2 ((hyphen_cons_hyphens_iff hd).2 ih)

/-- A hyphenated name is made of letters, digits and hyphens. -/
theorem Hyphenated.chars (h : Hyphenated name) : ∀ c ∈ name, c.isAlphanum = true ∨ c = '-' := by
  induction h with
  | single alphanum => exact List.forall_mem_singleton.2 (Or.inl alphanum)
  | cons alphanum more ih => exact List.forall_mem_cons.2 ⟨Or.inl alphanum, ih⟩
  | hyphen alphanum more ih => exact List.forall_mem_cons.2 ⟨Or.inl alphanum, List.forall_mem_cons.2 ⟨Or.inr rfl, ih⟩⟩

/-- A name that starts with a letter or digit is hyphenated, if no hyphen stands in a wrong place. -/
theorem hyphenated_of_hyphens : ∀ {name : List Char}, (∃ c rest, name = c :: rest ∧ c.isAlphanum = true) →
    (∀ c ∈ name, c.isAlphanum = true ∨ c = '-') → ¬['-'] <:+ name ∧ ¬['-', '-'] <:+: name → Hyphenated name
  | [], ⟨_, _, h, _⟩, _, _ => nomatch h
  | [_], ⟨_, _, rfl, hc⟩, _, _ => .single hc
  | c :: d :: rest, ⟨_, _, rfl, hc⟩, hchars, hhyphens => by
    have hmore : ∀ x ∈ d :: rest, x.isAlphanum = true ∨ x = '-' := fun x hx => hchars x (List.mem_cons_of_mem _ hx)
    rcases hmore d List.mem_cons_self with hd | rfl
    · exact .cons hc (hyphenated_of_hyphens ⟨d, rest, rfl, hd⟩ hmore ((cons_hyphens_iff hc).1 hhyphens))
    · -- a hyphen is neither the last character nor followed by another hyphen
      cases rest with
      | nil => exact absurd (List.suffix_append [c] ['-']) hhyphens.1
      | cons e rest =>
        have he : e.isAlphanum = true := by
          refine (hmore e (by simp)).resolve_right ?_
          rintro rfl
          exact hhyphens.2 ⟨[c], rest, rfl⟩
        exact .hyphen hc (hyphenated_of_hyphens ⟨e, rest, rfl, he⟩ (fun x hx => hmore x (List.mem_cons_of_mem _ hx))
          ((hyphen_cons_hyphens_iff he).1 ((cons_hyphens_iff hc).1 hhyphens)))

/-- A name can be planned exactly when it is hyphenated and starts with a letter. -/
theorem isPlannable_iff : IsPlannable name ↔ Hyphenated name ∧ ∀ c, name.head? = some c → c.isAlpha = true := by
  constructor
  · rintro ⟨chars, ⟨c, rest, rfl, hc⟩, last, single⟩
    have halphanum : c.isAlphanum = true := Text.isAlphanum_of_isAlpha hc
    exact ⟨hyphenated_of_hyphens ⟨c, rest, rfl, halphanum⟩ chars ⟨last, single⟩, by rintro _ ⟨⟩; exact hc⟩
  · rintro ⟨h, hfirst⟩
    obtain ⟨c, rest, rfl, -⟩ := h.exists_cons
    exact ⟨h.chars, ⟨c, rest, rfl, hfirst c rfl⟩, h.hyphens.1, h.hyphens.2⟩

/-! ## The stem of a name -/

/-- Small letters put no hyphen in a wrong place. -/
theorem Hyphenated.map_toLower (h : Hyphenated name) : Hyphenated (name.map Char.toLower) := by
  induction h with
  | single alphanum => exact .single ((Text.isAlphanum_toLower _).trans alphanum)
  | cons alphanum more ih => exact .cons ((Text.isAlphanum_toLower _).trans alphanum) ih
  | hyphen alphanum more ih => exact .hyphen ((Text.isAlphanum_toLower _).trans alphanum) ih

/-- A name behind its first character with a hyphen before every capital, in small letters. -/
def broken (cs : List Char) : List Char := (Name.snaked cs).map Name.hyphened

/-- A hyphen is put before a capital, and before nothing else. -/
theorem broken_cons (hc : c.isAlphanum = true) (rest : List Char) :
    broken (c :: rest) = (if c.isUpper then ['-', c.toLower] else [c]) ++ broken rest := by
  have hsmall : c.toLower.isAlphanum = true := (Text.isAlphanum_toLower c).trans hc
  rw [broken, Name.snaked_cons, List.map_append, ← broken, Name.snakeChar, Text.isCapital_of_isAlphanum hc, Text.small_of_isAlphanum hc]
  split
  · rw [List.map_append, List.map_singleton, Name.hyphened_of_isAlphanum hsmall]
    rfl
  · rw [List.map_singleton, Name.hyphened_of_isAlphanum hc]

/-- The stem of a name without hyphens starts with its first character in small form. -/
theorem hyphened_snake (hc : c.isAlphanum = true) (rest : List Char) :
    (Name.snake (c :: rest)).map Name.hyphened = c.toLower :: broken rest := by
  have hsmall : c.toLower.isAlphanum = true := (Text.isAlphanum_toLower c).trans hc
  have hfirst : Name.snakeChar true c = [c.toLower] := by
    rw [Name.snakeChar, Text.isCapital_of_isAlphanum hc, Text.small_of_isAlphanum hc]
    split
    · rfl
    · rename_i hupper
      rw [Char.toLower_eq_of_not_isUpper hupper]
  rw [Name.snake_cons, hfirst, List.map_append, List.map_singleton, Name.hyphened_of_isAlphanum hsmall, ← broken, List.singleton_append]

/-- Breaking a name before its capitals puts no hyphen in a wrong place. -/
theorem hyphenated_broken (hc : c.isAlphanum = true) (hrest : ∀ x ∈ rest, x.isAlphanum = true) :
    Hyphenated (c.toLower :: broken rest) := by
  have hsmall : c.toLower.isAlphanum = true := (Text.isAlphanum_toLower c).trans hc
  induction rest generalizing c with
  | nil => exact .single hsmall
  | cons d rest ih =>
    obtain ⟨hd, hrest⟩ := List.forall_mem_cons.1 hrest
    have hmore : Hyphenated (d.toLower :: broken rest) := ih hd hrest ((Text.isAlphanum_toLower d).trans hd)
    rw [broken_cons hd]
    split
    · exact .hyphen hsmall hmore
    · rename_i hupper
      rw [Char.toLower_eq_of_not_isUpper hupper] at hmore
      exact .cons hsmall hmore

/-- No capital is left. -/
theorem isUpper_of_mem_broken (hrest : ∀ x ∈ rest, x.isAlphanum = true) : ∀ x ∈ broken rest, x.isUpper = false := by
  induction rest with
  | nil => nofun
  | cons d rest ih =>
    obtain ⟨hd, hrest⟩ := List.forall_mem_cons.1 hrest
    rw [broken_cons hd, List.forall_mem_append]
    refine ⟨?_, ih hrest⟩
    split
    · exact List.forall_mem_cons.2 ⟨rfl, List.forall_mem_singleton.2 (Char.isUpper_toLower_eq_false d)⟩
    · rename_i hupper
      exact List.forall_mem_singleton.2 (Bool.eq_false_iff.2 hupper)

/-- A stem: a name that can be planned, without capitals. -/
structure IsStem (stem : List Char) : Prop where
  plannable : IsPlannable stem
  small : ∀ c ∈ stem, c.isUpper = false

/-- The stem is the small form of a name with hyphens or without capitals, and else that of its words with hyphens between. -/
theorem stemOf_eq (name : List Char) :
    stemOf name = if name.contains '-' || name.all (!·.isUpper) then Text.lowercase name else (Name.snake name).map Name.hyphened :=
  rfl

/-- The small form of an accepted name is made character by character. -/
theorem IsPlannable.lowercase_eq (h : IsPlannable name) : Text.lowercase name = name.map Char.toLower := by
  refine Text.lowercase_of_plain fun c hc => ?_
  rcases h.chars c hc with halphanum | rfl
  · exact Text.isPlain_of_isAlphanum halphanum
  · rfl

/-- A name without hyphens consists of letters and digits. -/
theorem IsPlannable.exists_cons (h : IsPlannable name) (hhyphen : '-' ∉ name) :
    ∃ c rest, name = c :: rest ∧ c.isAlpha = true ∧ c.isAlphanum = true ∧ ∀ x ∈ rest, x.isAlphanum = true := by
  obtain ⟨c, rest, rfl, hc⟩ := h.first
  have hall : ∀ x ∈ c :: rest, x.isAlphanum = true := fun x hx =>
    (h.chars x hx).resolve_right fun heq => hhyphen (heq ▸ hx)
  exact ⟨c, rest, rfl, hc, (List.forall_mem_cons.1 hall).1, (List.forall_mem_cons.1 hall).2⟩

/-- What a name stands for is a stem. -/
theorem isStem_stemOf (h : IsPlannable name) : IsStem (stemOf name) := by
  rw [stemOf_eq]
  split
  · -- small letters leave the hyphens where they are
    obtain ⟨hname, hfirst⟩ := isPlannable_iff.1 h
    rw [h.lowercase_eq]
    refine ⟨isPlannable_iff.2 ⟨hname.map_toLower, fun c hc => ?_⟩, List.forall_mem_map.2 fun c _ => Char.isUpper_toLower_eq_false c⟩
    rw [List.head?_map, Option.map_eq_some_iff] at hc
    obtain ⟨first, hhead, rfl⟩ := hc
    rw [Char.isAlpha_toLower_eq_isAlpha, hfirst first hhead]
  · -- no hyphen stands in the name, so those of the stem are the ones before its capitals
    rename_i hsplit
    have hhyphen : '-' ∉ name := fun hmem => hsplit (by rw [List.contains_iff_mem.2 hmem, Bool.true_or])
    obtain ⟨c, rest, rfl, hletter, hc, hrest⟩ := h.exists_cons hhyphen
    rw [hyphened_snake hc]
    refine ⟨isPlannable_iff.2 ⟨hyphenated_broken hc hrest, ?_⟩,
      List.forall_mem_cons.2 ⟨Char.isUpper_toLower_eq_false c, isUpper_of_mem_broken hrest⟩⟩
    rintro _ ⟨⟩
    rw [Char.isAlpha_toLower_eq_isAlpha, hletter]

/-- A stem stands for itself. -/
theorem IsStem.stemOf_eq (h : IsStem stem) : stemOf stem = stem := by
  have hsmall : stem.all (!·.isUpper) = true := List.all_eq_true.2 fun c hc => by rw [h.small c hc, Bool.not_false]
  have hmap : stem.map Char.toLower = stem :=
    (List.map_congr_left fun c hc => Char.toLower_eq_of_not_isUpper (Bool.eq_false_iff.1 (h.small c hc))).trans (List.map_id stem)
  rw [Plan.stemOf_eq, hsmall, Bool.or_true, if_pos rfl, h.plannable.lowercase_eq, hmap]

/-! ## The component name of a stem -/

/-- A name that was broken before its capitals is put together again. -/
theorem pascal_broken (hne : segment ≠ []) (hhyphen : '-' ∉ segment) (hrest : ∀ x ∈ rest, x.isAlphanum = true) :
    Name.pascal (segment ++ broken rest) = Text.capitalize segment ++ rest := by
  induction rest generalizing segment with
  | nil =>
    have hnil : broken [] = [] := rfl
    rw [hnil, List.append_nil, List.append_nil, Name.pascal_of_not_mem hne hhyphen]
  | cons d rest ih =>
    obtain ⟨hd, hrest⟩ := List.forall_mem_cons.1 hrest
    have hplain : ∀ {x : Char}, x.isAlphanum = true → '-' ∉ [x] := fun hx hmem =>
      Text.ne_hyphen_of_isAlphanum hx (List.mem_singleton.1 hmem).symm
    rw [broken_cons hd]
    split
    · -- a capital: the segment ends here, and the next one starts with the small form of the capital
      rename_i hupper
      have hsmall : d.toLower.isAlphanum = true := (Text.isAlphanum_toLower d).trans hd
      have hnext := ih (List.cons_ne_nil d.toLower []) (hplain hsmall) hrest
      rw [List.singleton_append] at hnext
      rw [List.cons_append, List.singleton_append, Name.pascal_append, Name.pascal_of_not_mem hne hhyphen, hnext,
        Text.capitalize_toLower hd, Text.toUpper_of_isUpper hupper, List.singleton_append]
    · -- any other character belongs to the segment before it
      have hmore : '-' ∉ segment ++ [d] := List.not_mem_append hhyphen (hplain hd)
      rw [← List.append_assoc, ih (by simp) hmore hrest, Text.capitalize_append hne, List.append_assoc, List.singleton_append]

/-- A component name: a capital, with letters and digits behind it. -/
inductive IsComponent : List Char → Prop where
  | intro {first : Char} {rest : List Char} (capital : first.isUpper = true) (more : ∀ c ∈ rest, c.isAlphanum = true) :
      IsComponent (first :: rest)

/-- The Pascal-case form of a stem is a component name. -/
theorem IsStem.isComponent (h : IsStem stem) : IsComponent (Name.pascal stem) := by
  obtain ⟨c, rest, rfl, hletter⟩ := h.plannable.first
  have hc : c.isAlphanum = true := Text.isAlphanum_of_isAlpha hletter
  obtain ⟨more, hmore⟩ := Name.exists_pascal_cons hc rest
  have hall := Name.isAlphanum_pascal h.plannable.chars
  rw [hmore] at hall ⊢
  exact .intro (by rw [Char.isUpper_toUpper_eq_isAlpha, hletter]) (List.forall_mem_cons.1 hall).2

/-- A component name is made of letters and digits. -/
theorem IsComponent.isAlphanum (h : IsComponent name) : ∀ c ∈ name, c.isAlphanum = true := by
  obtain ⟨capital, more⟩ := h
  exact List.forall_mem_cons.2 ⟨Text.isAlphanum_of_isUpper capital, more⟩

/-- A component name can be planned. -/
theorem IsComponent.plannable (h : IsComponent name) : IsPlannable name := by
  have halphanum := h.isAlphanum
  have hhyphen : '-' ∉ name := fun hmem => Text.ne_hyphen_of_isAlphanum (halphanum _ hmem) rfl
  obtain @⟨c, rest, capital, -⟩ := h
  have hletter : c.isAlpha = true := by rw [Char.isAlpha, capital, Bool.true_or]
  exact ⟨fun x hx => Or.inl (halphanum x hx), ⟨c, rest, rfl, hletter⟩, fun hlast => hhyphen (hlast.subset (by simp)),
    fun hdouble => hhyphen (hdouble.subset (by simp))⟩

/-- It stands for a stem with the same component name. -/
theorem IsComponent.pascal_stemOf (h : IsComponent name) : Name.pascal (stemOf name) = name := by
  have hhyphen : '-' ∉ name := fun hmem => Text.ne_hyphen_of_isAlphanum (h.isAlphanum _ hmem) rfl
  obtain @⟨c, rest, capital, more⟩ := h
  have hc : c.isAlphanum = true := Text.isAlphanum_of_isUpper capital
  have hsplit : ¬((c :: rest).contains '-' || (c :: rest).all (!·.isUpper)) = true := by
    simpa [capital] using hhyphen
  have hfirst : '-' ∉ [c.toLower] := fun hmem =>
    Text.ne_hyphen_of_isAlphanum ((Text.isAlphanum_toLower c).trans hc) (List.mem_singleton.1 hmem).symm
  calc Name.pascal (stemOf (c :: rest))
      = Name.pascal ([c.toLower] ++ broken rest) := by rw [stemOf_eq, if_neg hsplit, hyphened_snake hc, List.singleton_append]
    _ = Text.capitalize [c.toLower] ++ rest := pascal_broken (List.cons_ne_nil _ _) hfirst more
    _ = c :: rest := by rw [Text.capitalize_toLower hc, Text.toUpper_of_isUpper capital, List.singleton_append]

/-! ## The planned file -/

/-- The stem of a planned file is the stem that was planned. -/
theorem stem_file {stem : String} (h : IsStem stem.toList) (component : String) (category : Category) :
    Path.stem (file ⟨component, category, stem⟩) = stem := by
  have hslash : '/' ∉ (stem ++ ".tsx").toList := by
    rw [String.toList_append]
    refine List.not_mem_append (fun hmem => ?_) (by decide)
    rcases h.plannable.chars _ hmem with halphanum | hhyphen
    · cases halphanum
    · cases hhyphen
  have hname : Path.IsName (stem ++ ".tsx") := Path.isName_of_length hslash (by simp)
  have hjoin : Path.join "" (stem ++ ".tsx") = stem ++ ".tsx" := if_pos (by simp)
  have hne : stem.toList ≠ [] := by
    obtain ⟨c, rest, hcons, -⟩ := h.plannable.first
    rw [hcons]
    exact List.cons_ne_nil c rest
  have hsplit : Path.splitAtPoint (stem ++ ".tsx").toList = (stem.toList, some "tsx".toList) := by
    have hdots := hname.not_dots
    rw [String.toList_append] at hdots ⊢
    exact Path.splitAtPoint_append hdots hne (by decide)
  rw [Path.stem, Path.stem?, file, ← hjoin, Path.fileName?_join hname, Option.map_some, hsplit]
  exact String.ofList_toList

/-! ## The names of a plan -/

/-- A name is planned when it is accepted, with its stem and the Pascal-case form of the stem. -/
theorem names_eq_ok_iff {name component stem : String} : names name = .ok (component, stem) ↔
    IsPlannable name.toList ∧ component = String.ofList (Name.pascal (stemOf name.toList)) ∧
      stem = String.ofList (stemOf name.toList) := by
  rw [names]
  split
  · rename_i hname
    simp only [Except.ok.injEq, Prod.mk.injEq, isName_iff.1 hname, true_and]
    exact and_congr eq_comm eq_comm
  · rename_i hname
    rw [isName_iff] at hname
    simp [hname]

/-- What a planned name settles: the stem and the component name lead to the same component again, so does the file that would be
created, and its tool has a name that every consumer accepts. -/
structure Settled (component stem : String) : Prop where
  stem_again : names stem = .ok (component, stem)
  component_again : ∃ other, names component = .ok (component, other)
  described : ∀ category props, (Component.describe (file ⟨component, category, stem⟩) props).name = component
  callable : Name.isToolName (Name.tool component.toList) = true

/-- Exactly the letters, digits and single inner hyphens with a letter first can be planned, and every spelling that can be planned
settles on one component. -/
theorem names_normal (name : String) : ((∃ planned, names name = .ok planned) ↔ IsPlannable name.toList) ∧
    ∀ component stem, names name = .ok (component, stem) → Settled component stem := by
  refine ⟨⟨?_, fun h => ⟨_, names_eq_ok_iff.2 ⟨h, rfl, rfl⟩⟩⟩, ?_⟩
  · rintro ⟨⟨component, stem⟩, h⟩
    exact (names_eq_ok_iff.1 h).1
  · intro component stem h
    obtain ⟨hname, rfl, rfl⟩ := names_eq_ok_iff.1 h
    have hstem := isStem_stemOf hname
    have hcomponent := hstem.isComponent
    refine ⟨names_eq_ok_iff.2 ?_, ⟨String.ofList (stemOf (Name.pascal (stemOf name.toList))), names_eq_ok_iff.2 ?_⟩,
      fun category props => ?_, ?_⟩
    · rw [String.toList_ofList, hstem.stemOf_eq]
      exact ⟨hstem.plannable, rfl, rfl⟩
    · rw [String.toList_ofList, hcomponent.pascal_stemOf]
      exact ⟨hcomponent.plannable, rfl, rfl⟩
    · rw [Component.describe, stem_file (by rwa [String.toList_ofList]), Text.on, String.toList_ofList]
    · rw [String.toList_ofList]
      exact Name.isToolName_tool hcomponent.isAlphanum

/-- Hyphens and capitals mixed, small letters before capitals, and capitals in a row. -/
theorem names_normal_runs :
    names "Stock-Ticker" = .ok ("StockTicker", "stock-ticker") ∧ names "stockTicker" = .ok ("StockTicker", "stock-ticker") ∧
      names "A1B" = .ok ("A1B", "a1-b") ∧ Settled "StockTicker" "stock-ticker" ∧ Settled "A1B" "a1-b" := by
  have hhyphen : names "Stock-Ticker" = .ok ("StockTicker", "stock-ticker") := by cbv
  have hsmall : names "stockTicker" = .ok ("StockTicker", "stock-ticker") := by cbv
  have hrun : names "A1B" = .ok ("A1B", "a1-b") := by cbv
  exact ⟨hhyphen, hsmall, hrun, (names_normal "stockTicker").2 _ _ hsmall, (names_normal "A1B").2 _ _ hrun⟩

end Plan

end RenderCatalog
