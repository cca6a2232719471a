import RenderCatalog.Component.Category
import RenderCatalog.Component.Prop
import RenderCatalog.Proofs.Text

/-!
# Precedence of rules

The type of a prop and the category of a file are decided by the first rule with a word that occurs in the name, in small letters.
A name with more before and behind it is decided by the same rule or by an earlier one (`idxOf_append_le`), because every rule that
fits the name fits the longer one. The small form of a text is not put together from the small forms of its parts: a capital sigma
takes its final form where a word ends, so a part that ends in one is written differently when more follows. But only the form of
a sigma can differ (`medial_lowercase_append`), and no word of a rule has a sigma in it.
-/

namespace RenderCatalog

/-! ## Small letters of a part -/

namespace Text

/-- The text with every final sigma in the form that it has inside a word. -/
def medial (cs : List Char) : List Char := cs.map fun c => if c = 'ς' then 'σ' else c

/-- By itself a capital sigma has the form that it has inside a word. -/
theorem small_sigma : small 'Σ' = ['σ'] := by decide +kernel

/-- But for the form of a sigma, each character has a small form of its own, whatever stands around it. -/
theorem medial_lowercaseAfter (before cs : List Char) :
    medial (lowercaseAfter before cs) = cs.flatMap fun c => medial (small c) := by
  induction cs generalizing before with
  | nil => rfl
  | cons c rest ih =>
    have hfirst : medial (if c = 'Σ' then [if meetsCased before && !meetsCased rest then 'ς' else 'σ'] else small c) =
        medial (small c) := by
      split
      · rename_i hsigma
        rw [hsigma, small_sigma]
        split <;> rfl
      · rfl
    have happend : ∀ a b : List Char, medial (a ++ b) = medial a ++ medial b := fun _ _ => List.map_append
    rw [lowercaseAfter, happend, hfirst, ih, List.flatMap_cons]

/-- But for the form of a sigma, the small form of a text is put together from those of its parts. -/
theorem medial_lowercase_append (a b : List Char) :
    medial (lowercase (a ++ b)) = medial (lowercase a) ++ medial (lowercase b) := by
  unfold lowercase
  rw [medial_lowercaseAfter, medial_lowercaseAfter, medial_lowercaseAfter, List.flatMap_append]

/-- The small forms of the parts, put together, need not be the small form of the whole. -/
example : lowercase "ΟΔΟΣ".toList ++ lowercase "data".toList ≠ lowercase "ΟΔΟΣdata".toList := by decide +kernel

variable {word cs : List Char}

/-- A text without final sigmas stays. -/
theorem medial_eq_self (h : 'ς' ∉ cs) : medial cs = cs := by
  have hsame : ∀ c ∈ cs, (if c = 'ς' then 'σ' else c) = c := by
    intro c hc
    refine if_neg ?_
    rintro rfl
    exact h hc
  rw [medial, List.map_congr_left hsame, List.map_id']

/-- A word without a sigma is found whatever forms the sigmas of a text have. -/
theorem infix_medial_iff (hmedial : 'σ' ∉ word) (hfinal : 'ς' ∉ word) : word <:+: medial cs ↔ word <:+: cs := by
  constructor
  · intro h
    obtain ⟨found, hfound, rfl⟩ := List.infix_map_iff.1 h
    -- a final sigma in what was found would be a sigma in the word
    have hnone : 'ς' ∉ found := fun hmem => hmedial (List.mem_map.2 ⟨'ς', hmem, rfl⟩)
    have hsame : found.map (fun c => if c = 'ς' then 'σ' else c) = found := medial_eq_self hnone
    rwa [hsame]
  · intro h
    rw [← medial_eq_self hfinal]
    exact h.map _

/-- A word without a sigma that occurs in the small form of a text occurs in that of every longer text. -/
theorem occurs_lowercase_append (hmedial : 'σ' ∉ word) (hfinal : 'ς' ∉ word) (before behind : List Char)
    (h : occurs word (lowercase cs) = true) : occurs word (lowercase (before ++ cs ++ behind)) = true := by
  rw [occurs_iff, ← infix_medial_iff hmedial hfinal] at h ⊢
  rw [medial_lowercase_append, medial_lowercase_append]
  exact h.trans (List.infix_append _ _ _)

end Text

/-! ## The first rule that fits -/

namespace NameRules

variable {α : Type}

/-- No word of the rules has a sigma in it. -/
def SigmaFree (r : NameRules α) : Prop := ∀ rule ∈ r.rules, ∀ word ∈ rule.1, 'σ' ∉ word.toList ∧ 'ς' ∉ word.toList

instance (r : NameRules α) : Decidable r.SigmaFree := inferInstanceAs (Decidable (∀ rule ∈ r.rules, _))

/-- The outcomes by precedence: those of the rules, and that for a name without a rule. -/
def outcomes (r : NameRules α) : List α := r.rules.map (·.2) ++ [r.fallback]

/-- A rule whose words have no sigma fits every name that is longer than one that it fits. -/
theorem fits_append {rule : List String × α} (hwords : ∀ word ∈ rule.1, 'σ' ∉ word.toList ∧ 'ς' ∉ word.toList)
    (before behind : String) {name : String} (h : fits (Text.lowercase name.toList) rule = true) :
    fits (Text.lowercase (before ++ name ++ behind).toList) rule = true := by
  obtain ⟨word, hword, hoccurs⟩ := List.any_eq_true.1 h
  obtain ⟨hmedial, hfinal⟩ := hwords word hword
  refine List.any_eq_true.2 ⟨word, hword, ?_⟩
  rw [String.toList_append, String.toList_append]
  exact Text.occurs_lowercase_append hmedial hfinal _ _ hoccurs

variable [BEq α] [LawfulBEq α]

/-- Where no two rules have one outcome and none has that for names without a rule, the outcome tells which rule decides. -/
theorem idxOf_outcomes {rules : List (List String × α)} {fallback : α} (hnodup : (outcomes ⟨rules, fallback⟩).Nodup)
    (fits : List String × α → Bool) :
    (outcomes ⟨rules, fallback⟩).idxOf ((rules.find? fits).elim fallback (·.2)) = rules.findIdx fits := by
  simp only [outcomes] at hnodup ⊢
  induction rules with
  | nil => exact List.idxOf_cons_self
  | cons rule rest ih =>
    rw [List.map_cons, List.cons_append, List.nodup_cons] at hnodup
    rw [List.find?_cons, List.findIdx_cons, List.map_cons, List.cons_append]
    cases hfits : fits rule with
    | true => exact List.idxOf_cons_self
    | false =>
      rw [cond_false, ← ih hnodup.2]
      refine List.idxOf_cons_ne _ fun heq => hnodup.1 ?_
      -- what a later rule decides, or what no rule decides, stands behind the first rule
      rw [heq]
      cases hfind : rest.find? fits with
      | none => exact List.mem_append_right _ (List.mem_singleton.2 rfl)
      | some found => exact List.mem_append_left _ (List.mem_map_of_mem (List.mem_of_find?_eq_some hfind))

/-- A name with more before and behind it has the same outcome or one of an earlier rule. -/
theorem idxOf_outcome_append_le {r : NameRules α} (hnodup : r.outcomes.Nodup) (hwords : r.SigmaFree) (before name behind : String) :
    r.outcomes.idxOf (r.outcome (before ++ name ++ behind)) ≤ r.outcomes.idxOf (r.outcome name) := by
  rw [outcome, outcome, idxOf_outcomes hnodup, idxOf_outcomes hnodup]
  exact List.findIdx_le_findIdx fun rule hrule => fits_append (hwords rule hrule) before behind

end NameRules

/-- The types that a prop name can suggest, by precedence. -/
def PropType.suggested : List PropType := [.number, .array, .boolean, .string]

/-- A name with more before and behind it is decided by the same rule or by an earlier one: for a prop the rules for numbers,
lists and flags, in this order, before the type of all other props; for a file name those for charts, data and content before the
general category. -/
theorem idxOf_append_le (before name behind : String) :
    PropType.suggested.idxOf (.ofPropName (before ++ name ++ behind)) ≤ PropType.suggested.idxOf (.ofPropName name) ∧
      Category.all.idxOf (.ofFileName (before ++ name ++ behind)) ≤ Category.all.idxOf (.ofFileName name) := by
  have htypes : PropType.suggested = PropType.rules.outcomes := rfl
  have hcategories : Category.all = Category.rules.outcomes := rfl
  rw [htypes, hcategories]
  exact ⟨NameRules.idxOf_outcome_append_le (by decide) (by decide) before name behind,
    NameRules.idxOf_outcome_append_le (by decide) (by decide) before name behind⟩

end RenderCatalog
