import RenderCatalog.Proofs.Source.Params
import RenderCatalog.Proofs.Text

/-!
# Props written out

The props of a parameter list can be written as a parameter list again: their names with commas between, and a question mark
behind the name of a prop that need not be given. The props that are read off that text are the same (`paramProps_propsText`).
It rests on what a name looks like that was cut out of a token (`IsPropName`): the cuts have left nothing at its ends or inside
that would be cut again. A question mark at the end of a name is the one thing that may be left, and only where the prop need not be
given, so that the mark behind it is the one that is taken off (`IsWritable`).
-/

namespace RenderCatalog

/-- A prop as it is written in a parameter list. -/
def DeclaredProp.text (p : DeclaredProp) : List Char := p.name.toList ++ if p.required then [] else ['?']

/-- A name that a prop may have: not empty, without a separator and without blanks at its ends, and not one that gathers the rest. -/
structure IsPropName (name : List Char) : Prop extends Text.IsTrimmed name where
  nonempty : name ≠ []
  plain : ∀ c ∈ name, c ≠ ',' ∧ c ≠ ':' ∧ c ≠ '='
  no_rest : ¬['.', '.', '.'] <+: name

/-- A prop that can be read back: one that has to be given does not end with the mark of one that need not. -/
structure DeclaredProp.IsWritable (p : DeclaredProp) : Prop where
  named : IsPropName p.name.toList
  unmarked : p.required = true → ¬['?'] <:+ p.name.toList

namespace Source

/-- Props as a parameter list. -/
def propsText (props : List DeclaredProp) : List Char := Text.joinWith [',', ' '] (props.map (·.text))

variable {token : List Char} {p : DeclaredProp} {props : List DeclaredProp}

/-! ## One token -/

/-- What stands before the separator of a token, without the blanks around it. -/
def partOf (token : List Char) : List Char := Text.trim ((Text.trim token).takeWhile fun c => !endsName c)

/-- A prop is made of every name but the empty one. -/
theorem named_eq_some_iff {name : List Char} {required : Bool} :
    (if name.isEmpty then none else some (⟨String.ofList name, required⟩ : DeclaredProp)) = some p ↔
      p.name.toList ≠ [] ∧ p.name.toList = name ∧ p.required = required := by
  obtain ⟨own, ownRequired⟩ := p
  simp only
  split
  · rename_i hempty
    exact iff_of_false nofun fun h => h.1 (h.2.1.trans (List.isEmpty_iff.1 hempty))
  · rename_i hne
    rw [List.isEmpty_iff] at hne
    rw [Option.some.injEq, DeclaredProp.mk.injEq, ← String.toList_inj, String.toList_ofList]
    constructor
    · rintro ⟨rfl, rfl⟩
      exact ⟨hne, rfl, rfl⟩
    · rintro ⟨-, rfl, rfl⟩
      exact ⟨rfl, rfl⟩

/-- Two ways lead to a prop: a question mark ends the part before the separator, or that part is the name, and an equals sign
decides whether the prop has to be given. -/
theorem propOfToken?_eq_some_iff : propOfToken? token = some p ↔
    ¬['.', '.', '.'] <+: Text.trim token ∧ p.name.toList ≠ [] ∧
      ((∃ front, partOf token = front ++ ['?'] ∧ p.name.toList = Text.trimEnd front ∧ p.required = false) ∨
        (¬['?'] <:+ partOf token ∧ p.name.toList = partOf token ∧ p.required = !(Text.trim token).contains '=')) := by
  rw [propOfToken?]
  simp only
  split
  · rename_i hskipped
    rw [Bool.or_eq_true, List.isEmpty_iff, List.isPrefixOf_iff_prefix] at hskipped
    refine iff_of_false nofun ?_
    rintro ⟨hrest, hne, hways⟩
    -- an empty token has nothing before its separator either, and so no name
    have hempty : Text.trim token = [] := hskipped.resolve_right hrest
    rw [partOf, hempty] at hways
    rcases hways with ⟨front, hfront, -⟩ | ⟨-, hname, -⟩
    · exact List.append_ne_nil_of_right_ne_nil front (by simp) hfront.symm
    · exact hne hname
  · rename_i hkept
    rw [Bool.or_eq_true, not_or, List.isPrefixOf_iff_prefix] at hkept
    rw [← partOf]
    cases hmark : Text.dropSuffix? ['?'] (partOf token) with
    | some front =>
      simp only [Bool.true_or, Bool.not_true, named_eq_some_iff]
      rw [Text.eq_append_of_dropSuffix? hmark]
      simp [hkept.2]
    | none =>
      rw [Text.dropSuffix?_eq_none_iff] at hmark
      have hnone : ∀ front, partOf token ≠ front ++ ['?'] := fun front hfront => hmark ⟨front, hfront.symm⟩
      simp only [Bool.false_or, named_eq_some_iff]
      simp [hkept.2, hmark, hnone]

/-- The part before the separator is a front of the token. -/
theorem prefix_partOf (token : List Char) : partOf token <+: (Text.trim token).takeWhile fun c => !endsName c := by
  have hhead := Text.head_of_front (List.takeWhile_prefix fun c => !endsName c) (Text.isTrimmed_trim token).head
  rw [partOf, Text.trim, Text.trimStart_eq_self hhead]
  exact Text.prefix_trimEnd _

/-- A front of the part before the separator is a name, if it is not empty and no blank is left at its end. -/
theorem isPropName_of_front {name : List Char} (hcomma : ',' ∉ token) (hrest : ¬['.', '.', '.'] <+: Text.trim token)
    (hname : name <+: partOf token) (hne : name ≠ []) (hlast : ∀ c, name.getLast? = some c → Text.isBlank c = false) :
    IsPropName name := by
  have hfront := hname.trans (prefix_partOf token)
  have htoken : name <+: Text.trim token := hfront.trans (List.takeWhile_prefix _)
  refine ⟨⟨Text.head_of_front htoken (Text.isTrimmed_trim token).head, hlast⟩, hne, fun c hc => ?_, fun h => hrest (h.trans htoken)⟩
  have hends := List.mem_takeWhile_imp (hfront.subset hc)
  rw [endsName, Bool.not_eq_true', Bool.or_eq_false_iff, beq_eq_false_iff_ne, beq_eq_false_iff_ne] at hends
  refine ⟨?_, hends⟩
  rintro rfl
  exact hcomma (Text.trim_subset token (htoken.subset hc))

/-- The prop that a token declares can be read back. -/
theorem isWritable_of_propOfToken? (hcomma : ',' ∉ token) (h : propOfToken? token = some p) : p.IsWritable := by
  obtain ⟨hrest, hne, ⟨front, hpart, hname, hrequired⟩ | ⟨hmark, hname, -⟩⟩ := propOfToken?_eq_some_iff.1 h
  · -- the name may end with a further question mark here, but then it need not be given
    have hstart : p.name.toList <+: partOf token := by
      rw [hname, hpart]
      exact (Text.prefix_trimEnd front).trans (List.prefix_append _ _)
    refine ⟨isPropName_of_front hcomma hrest hstart hne ?_, by simp [hrequired]⟩
    rw [hname]
    exact Text.last_trimEnd front
  · refine ⟨isPropName_of_front hcomma hrest (hname ▸ List.prefix_rfl) hne ?_, fun _ => hname ▸ hmark⟩
    rw [hname]
    exact (Text.isTrimmed_trim _).last

/-- A prop as it is written is trimmed, has no separator in it, and does not gather the rest. -/
theorem isPropName_text (h : p.IsWritable) : IsPropName p.text := by
  rw [DeclaredProp.text]
  split
  · rw [List.append_nil]
    exact h.named
  · have hne := h.named.nonempty
    refine ⟨⟨fun c hc => ?_, fun c hc => ?_⟩, by simp, fun c hc => ?_, fun hrest => ?_⟩
    · rw [List.head?_append_of_ne_nil _ hne] at hc
      exact h.named.head c hc
    · rw [List.getLast?_concat] at hc
      cases hc
      rfl
    · rcases List.mem_append.1 hc with hc | hc
      · exact h.named.plain c hc
      · rw [List.mem_singleton.1 hc]
        decide
    · rcases List.prefix_concat_iff.1 hrest with heq | hrest
      · have hlast := congrArg List.getLast? heq
        rw [List.getLast?_concat] at hlast
        cases hlast
      · exact h.named.no_rest hrest

/-- A prop is read back from its text, whatever blanks stand before it. -/
theorem propOfToken?_text (h : p.IsWritable) {blanks : List Char} (hblanks : ∀ c ∈ blanks, Text.isBlank c = true) :
    propOfToken? (blanks ++ p.text) = some p := by
  have htext := isPropName_text h
  have htrim : Text.trim (blanks ++ p.text) = p.text := Text.trim_append hblanks htext.toIsTrimmed
  have hpart : partOf (blanks ++ p.text) = p.text := by
    rw [partOf, htrim, List.takeWhile_eq_self_iff.2, Text.trim_eq_self htext.toIsTrimmed]
    intro c hc
    simp [endsName, htext.plain c hc]
  rw [propOfToken?_eq_some_iff, htrim, hpart]
  refine ⟨htext.no_rest, h.named.nonempty, ?_⟩
  cases hrequired : p.required with
  | false =>
    refine Or.inl ⟨p.name.toList, by simp [DeclaredProp.text, hrequired], ?_, rfl⟩
    rw [Text.trimEnd_eq_self h.named.last]
  | true =>
    have hsame : p.text = p.name.toList := by simp [DeclaredProp.text, hrequired]
    have hequals : '=' ∉ p.text := fun hmem => (htext.plain _ hmem).2.2 rfl
    refine Or.inr ⟨hsame ▸ h.unmarked hrequired, hsame.symm, ?_⟩
    simpa using hequals

/-! ## The whole list -/

/-- A prop behind blanks is one token. -/
theorem tokenProps_text (h : p.IsWritable) {blanks : List Char} (hblanks : ∀ c ∈ blanks, Text.isBlank c = true) :
    tokenProps (blanks ++ p.text) = [p] := by
  have hcomma : ',' ∉ blanks ++ p.text := by
    rw [List.mem_append, not_or]
    exact ⟨fun hmem => absurd (hblanks _ hmem) (by decide), fun hmem => ((isPropName_text h).plain _ hmem).1 rfl⟩
  rw [tokenProps, ← tokens, tokens_of_not_mem hcomma, List.filterMap_cons_some (propOfToken?_text h hblanks), List.filterMap_nil]

/-- Props are read back one by one. -/
theorem tokenProps_propsText_cons {rest : List DeclaredProp} (h : ∀ q ∈ p :: rest, q.IsWritable) {blanks : List Char}
    (hblanks : ∀ c ∈ blanks, Text.isBlank c = true) : tokenProps (blanks ++ propsText (p :: rest)) = p :: rest := by
  induction rest generalizing p blanks with
  | nil => exact tokenProps_text (h p List.mem_cons_self) hblanks
  | cons q rest ih =>
    obtain ⟨hp, hrest⟩ := List.forall_mem_cons.1 h
    have htext : blanks ++ propsText (p :: q :: rest) = (blanks ++ p.text) ++ ',' :: ([' '] ++ propsText (q :: rest)) := by
      simp [propsText, Text.joinWith]
    rw [htext, tokenProps_append, tokenProps_text hp hblanks, ih hrest (List.forall_mem_singleton.2 rfl), List.singleton_append]

/-- Where no name comes twice and none was seen before, all props stay. -/
theorem firstOfEach_eq_self {seen : List String} (hnames : (props.map (·.name)).Nodup) (hseen : ∀ p ∈ props, p.name ∉ seen) :
    firstOfEach seen props = props := by
  induction props generalizing seen with
  | nil => rfl
  | cons p rest ih =>
    obtain ⟨hp, hrest⟩ := List.forall_mem_cons.1 hseen
    rw [List.map_cons, List.nodup_cons] at hnames
    rw [firstOfEach, if_neg (by simpa using hp), ih hnames.2]
    intro q hq
    rw [List.mem_cons, not_or]
    exact ⟨fun heq => hnames.1 (heq ▸ List.mem_map_of_mem hq), hrest q hq⟩

/-- Props of different names are read back from the list of them. -/
theorem paramProps_propsText_of_forall (h : ∀ p ∈ props, p.IsWritable) (hnames : (props.map (·.name)).Nodup) :
    paramProps (propsText props) = props := by
  have htokens : tokenProps (propsText props) = props := by
    cases props with
    | nil => rfl
    | cons p rest => exact tokenProps_propsText_cons h (by simp : ∀ c ∈ ([] : List Char), Text.isBlank c = true)
  rw [paramProps, htokens]
  exact firstOfEach_eq_self hnames (by simp)

/-- The props of a parameter list can be read back. -/
theorem isWritable_of_mem_paramProps {params : List Char} (h : p ∈ paramProps params) : p.IsWritable := by
  obtain ⟨front, back, hprops, -⟩ := exists_first_of_mem h
  have hmem : p ∈ tokenProps params := by
    rw [hprops]
    simp
  obtain ⟨token, htoken, hp⟩ := List.mem_filterMap.1 hmem
  refine isWritable_of_propOfToken? (fun hcomma => ?_) hp
  have hplain := Text.of_mem_pieces htoken ',' hcomma
  simp at hplain

/-- The props of a parameter list, written as a parameter list, are read back as they are. Their names are not empty, hold no
comma, colon or equals sign, have no blank at either end, do not start with three points, and differ from each other. -/
theorem paramProps_propsText (params : List Char) :
    paramProps (propsText (paramProps params)) = paramProps params ∧
      (∀ p ∈ paramProps params, IsPropName p.name.toList) ∧ ((paramProps params).map (·.name)).Nodup := by
  have hwritable : ∀ p ∈ paramProps params, p.IsWritable := fun p => isWritable_of_mem_paramProps
  have hnames : ((paramProps params).map (·.name)).Nodup := nodup_names_firstOfEach [] (tokenProps params)
  exact ⟨paramProps_propsText_of_forall hwritable hnames, fun p hp => (hwritable p hp).named, hnames⟩

/-- A name keeps the question marks before its last one, and a default value is written as a question mark. -/
example : propsText (paramProps " icon ? ?: string, title = 'x', title".toList) = "icon ??, title?".toList := by decide

end Source

end RenderCatalog
