import RenderCatalog.Proofs.Source.Grammar
import RenderCatalog.Source.Extract

/-!
# What an extraction finds

The search goes through the text from its front and stops at the first place where a declaration stands, so an extraction
gives a component exactly when some part of the text is a declaration (`extract_eq`): the component of the first place where
one starts. Several declarations may start there, of different lengths, but they have the same parameter text.
-/

namespace RenderCatalog.Source

/-- A declaration with these parameters stands behind the first part of a text. -/
def DeclaredBehind (text before params : List Char) : Prop := ∃ w rest, Declares w params ∧ text = before ++ (w ++ rest)

/-- A declaration stands behind the first part of a text exactly when the matcher finds one there. -/
theorem declaredBehind_append (before : List Char) {rest params : List Char} :
    DeclaredBehind (before ++ rest) before params ↔ declarationParams? rest = some params := by
  rw [declarationParams?_eq_some_iff]
  simp only [DeclaredBehind, List.append_cancel_left_eq]

/-- A declaration stands at the front of a text exactly when the matcher finds one there. -/
theorem declaredBehind_nil {text params : List Char} :
    DeclaredBehind text [] params ↔ declarationParams? text = some params :=
  declaredBehind_append []

/-- All declarations that stand at one place have the same parameters. -/
theorem DeclaredBehind.params_eq {text before params params' : List Char} (h : DeclaredBehind text before params)
    (h' : DeclaredBehind text before params') : params' = params := by
  obtain ⟨w, rest, hw, rfl⟩ := h
  have hp := (declaredBehind_append before).1 ⟨w, rest, hw, rfl⟩
  rw [(declaredBehind_append before).1 h'] at hp
  exact Option.some.inj hp

/-- No declaration is found where none stands. -/
theorem findDeclaration?_eq_none {text : List Char} (passed : List Char)
    (h : ∀ before params, ¬DeclaredBehind text before params) : findDeclaration? passed text = none := by
  induction text generalizing passed with
  | nil => rfl
  | cons c rest ih =>
    have hhere : declarationParams? (c :: rest) = none := by
      rw [Option.eq_none_iff_forall_ne_some]
      intro params hp
      exact h [] params (declaredBehind_nil.2 hp)
    rw [findDeclaration?, hhere]
    refine ih _ fun before params hd => h (c :: before) params ?_
    obtain ⟨w, more, hw, heq⟩ := hd
    exact ⟨w, more, hw, by rw [heq, List.cons_append]⟩

/-- The first declaration of a text is found, with the text before it. -/
theorem findDeclaration?_eq_some {text before params : List Char} (passed : List Char)
    (h : DeclaredBehind text before params)
    (hleast : ∀ before' params', DeclaredBehind text before' params' → before.length ≤ before'.length) :
    findDeclaration? passed text = some ⟨passed.reverse ++ before, params⟩ := by
  induction before generalizing text passed with
  | nil =>
    have hp : declarationParams? text = some params := declaredBehind_nil.1 h
    cases text with
    | nil => cases hp
    | cons c rest => rw [findDeclaration?, hp, List.append_nil]
  | cons c before ih =>
    obtain ⟨w, rest, hw, rfl⟩ := h
    have hhere : declarationParams? (c :: (before ++ (w ++ rest))) = none := by
      rw [Option.eq_none_iff_forall_ne_some]
      intro params' hp
      have := hleast [] params' (declaredBehind_nil.2 hp)
      simp at this
    rw [List.cons_append, findDeclaration?, hhere]
    have hrest := ih (c :: passed) ⟨w, rest, hw, rfl⟩ fun before' params' hd => by
      obtain ⟨w', rest', hw', heq⟩ := hd
      have := hleast (c :: before') params' ⟨w', rest', hw', by rw [List.cons_append, heq, List.cons_append]⟩
      simpa using this
    simpa using hrest

/-- Where a declaration stands at all, one stands at a first place. -/
theorem exists_first {text before params : List Char} (h : DeclaredBehind text before params) :
    ∃ first params', DeclaredBehind text first params' ∧
      ∀ before' params', DeclaredBehind text before' params' → first.length ≤ before'.length := by
  induction hn : before.length using Nat.strongRecOn generalizing before params with
  | ind n ih =>
    by_cases hleast : ∀ before' params', DeclaredBehind text before' params' → before.length ≤ before'.length
    · exact ⟨before, params, h, hleast⟩
    · simp only [not_forall, not_le] at hleast
      obtain ⟨before', params', h', hlt⟩ := hleast
      exact ih _ (hn ▸ hlt) h' rfl

/-- The declaration that is found is the first one of the text. -/
theorem first_of_findDeclaration? {text : List Char} {d : Declaration} (h : findDeclaration? [] text = some d) :
    DeclaredBehind text d.before d.params ∧
      ∀ before' params', DeclaredBehind text before' params' → d.before.length ≤ before'.length := by
  have hsome : ∃ before params, DeclaredBehind text before params := by
    by_contra hnone
    push Not at hnone
    rw [findDeclaration?_eq_none [] hnone] at h
    cases h
  obtain ⟨before, params, hbehind⟩ := hsome
  obtain ⟨first, params', hfirst, hleast⟩ := exists_first hbehind
  rw [findDeclaration?_eq_some [] hfirst hleast] at h
  obtain rfl := Option.some.inj h
  exact ⟨hfirst, hleast⟩

/-- The component of a file whose parameters have been found, described by the comment that ends the text before them. -/
def componentOf (path : String) (before params : List Char) : Component :=
  let c := Component.describe path (paramProps params)
  { c with description := ((leadingComment? before).map String.ofList).getD c.description }

/-- A source whose file name is not excluded gives no component exactly when no part of its flattened text is a declaration.
Otherwise there is a first place where declarations start; all that start there have the same parameter text, and the
component has the props of that text and the description that the comment before exactly that place gives, if one ends there. -/
theorem extract_eq (patterns : List String) (source path : String) (h : exclusionFor? patterns path = none) :
    (extract patterns source path = .error .undeclared ↔
      ∀ w params, Declares w params → ¬w <:+: Text.flatten source.toList) ∧
    ((∃ w params, Declares w params ∧ w <:+: Text.flatten source.toList) →
      ∃ before params, DeclaredBehind (Text.flatten source.toList) before params ∧
        (∀ before' params', DeclaredBehind (Text.flatten source.toList) before' params' →
          before.length ≤ before'.length) ∧
        (∀ params', DeclaredBehind (Text.flatten source.toList) before params' → params' = params) ∧
        extract patterns source path = .ok (componentOf path before params)) := by
  have hfound : (∃ w params, Declares w params ∧ w <:+: Text.flatten source.toList) →
      ∃ before params, DeclaredBehind (Text.flatten source.toList) before params ∧
        (∀ before' params', DeclaredBehind (Text.flatten source.toList) before' params' →
          before.length ≤ before'.length) ∧
        (∀ params', DeclaredBehind (Text.flatten source.toList) before params' → params' = params) ∧
        extract patterns source path = .ok (componentOf path before params) := by
    rintro ⟨w, params, hw, front, back, heq⟩
    have hfront : DeclaredBehind (Text.flatten source.toList) front params :=
      ⟨w, back, hw, by rw [← heq, List.append_assoc]⟩
    obtain ⟨before, params', hd, hleast⟩ := exists_first hfront
    refine ⟨before, params', hd, hleast, fun _ => hd.params_eq, ?_⟩
    have hfind := findDeclaration?_eq_some [] hd hleast
    rw [List.reverse_nil, List.nil_append] at hfind
    simp only [extract, h, hfind, componentOf]
    cases leadingComment? before <;> rfl
  refine ⟨⟨fun herror w params hw hin => ?_, fun hnone => ?_⟩, hfound⟩
  · obtain ⟨_, _, _, _, _, hok⟩ := hfound ⟨w, params, hw, hin⟩
    rw [herror] at hok
    cases hok
  · have hfind : findDeclaration? [] (Text.flatten source.toList) = none := by
      refine findDeclaration?_eq_none [] fun before params hd => ?_
      obtain ⟨w, rest, hw, heq⟩ := hd
      exact hnone w params hw ⟨before, rest, by rw [heq, List.append_assoc]⟩
    simp only [extract, h, hfind]

/-- A constant whose function is marked as asynchronous, behind a comment. -/
def cardSource : String := "/** Shows a card. */\nexport const Card = async(\x7b title \x7d) => title;"

/-- The word before the bracket is no wrapper here: the constant declares its parameters behind the comment, and the component
is that of the first place where a declaration starts. -/
theorem extract_cardSource :
    exclusionFor? ["index"] "card.tsx" = none ∧
      DeclaredBehind (Text.flatten cardSource.toList) "/** Shows a card. */ ".toList " title ".toList ∧
      extract ["index"] cardSource "card.tsx" ≠ .error .undeclared ∧
      ∃ before params, DeclaredBehind (Text.flatten cardSource.toList) before params ∧
        extract ["index"] cardSource "card.tsx" = .ok (componentOf "card.tsx" before params) := by
  have hpath : exclusionFor? ["index"] "card.tsx" = none := by decide
  have htext : Text.flatten cardSource.toList = "/** Shows a card. */ ".toList ++
      "export const Card = async(\x7b title \x7d) => title;".toList := by cbv
  have hparams : declarationParams? "export const Card = async(\x7b title \x7d) => title;".toList = some " title ".toList := by
    cbv
  obtain ⟨hnone, hfirst⟩ := extract_eq ["index"] cardSource "card.tsx" hpath
  have hbehind : DeclaredBehind (Text.flatten cardSource.toList) "/** Shows a card. */ ".toList " title ".toList := by
    rw [htext]
    exact (declaredBehind_append _).2 hparams
  obtain ⟨w, rest, hw, heq⟩ := hbehind
  have hpart : w <:+: Text.flatten cardSource.toList := ⟨_, rest, by rw [heq, List.append_assoc]⟩
  obtain ⟨before, params, hd, -, -, hok⟩ := hfirst ⟨w, _, hw, hpart⟩
  exact ⟨hpath, ⟨w, rest, hw, heq⟩, fun herror => hnone.1 herror w _ hw hpart, before, params, hd, hok⟩

end RenderCatalog.Source
