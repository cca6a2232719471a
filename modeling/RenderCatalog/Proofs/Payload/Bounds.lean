import RenderCatalog.Payload.Check
import RenderCatalog.Proofs.Decimal.Binary64

/-!
# Bounds of integers

A number is compared with a bound as a floating-point number, and integers of 64 bits are rounded for it. As long as the bound has a
magnitude below `2 ^ 53` that changes nothing: an integer is said to be too small or too large exactly when it is
(`reports_bound_iff`).
-/

namespace RenderCatalog.Payload

open Json (Value)
open Decimal (Binary64)

variable {d : Definition} {n : Int} {bound : Int64}

/-- Integers that 64 bits hold, with or without a sign. -/
def Holds64 (n : Int) : Prop := -2 ^ 63 ≤ n ∧ n < 2 ^ 64

instance : Decidable (Holds64 n) := inferInstanceAs (Decidable (_ ∧ _))

/-- A bound of a definition, where there is one, has a magnitude below `2 ^ 53`. -/
def IsSmall (bound? : Option Int64) : Prop := ∀ bound, bound? = some bound → -2 ^ 53 < bound.toInt ∧ bound.toInt < 2 ^ 53

/-- An issue with a place and a wording is listed. -/
def Reports (listed : List Issue) (field text : String) : Prop := ∃ i ∈ listed, i.field = field ∧ i.reason.text = text

/-- Below an exact bound is what is smaller. -/
theorem isBelow_iff (hn : Holds64 n) (hbound : -2 ^ 53 < bound.toInt ∧ bound.toInt < 2 ^ 53) :
    isBelow (.int n) bound = true ↔ n < bound.toInt := by
  obtain ⟨hleast, hgreatest⟩ := hn
  exact Binary64.ofInt_lt_iff (Decimal.log2_lt_of_lt (by omega)) (by omega)

theorem isAbove_iff (hn : Holds64 n) (hbound : -2 ^ 53 < bound.toInt ∧ bound.toInt < 2 ^ 53) :
    isAbove (.int n) bound = true ↔ bound.toInt < n := by
  obtain ⟨hleast, hgreatest⟩ := hn
  exact Binary64.lt_ofInt_iff (Decimal.log2_lt_of_lt (by omega)) (by omega)

/-- What a definition of a number has against an integer is that it lies below the minimum or above the maximum. -/
theorem mem_valueIssues_ofInt (path : String) (htype : d.type = .number) (hminimum : IsSmall d.minimum)
    (hmaximum : IsSmall d.maximum) (hn : Holds64 n) (i : Issue) :
    i ∈ valueIssues path d (.ofInt n) ↔
      (∃ bound, d.minimum = some bound ∧ n < bound.toInt ∧ i = ⟨path, .belowMinimum bound⟩) ∨
        ∃ bound, d.maximum = some bound ∧ bound.toInt < n ∧ i = ⟨path, .aboveMaximum bound⟩ := by
  rw [Value.ofInt, valueIssues, if_pos htype, numberIssues, List.mem_append]
  refine or_congr ?_ ?_
  · cases hbound : d.minimum with
    | none => simp
    | some bound =>
      have hiff := isBelow_iff hn (hminimum bound hbound)
      by_cases hlt : n < bound.toInt
      · simp [hiff.2 hlt, hlt]
      · simp [mt hiff.1 hlt, hlt]
  · cases hbound : d.maximum with
    | none => simp
    | some bound =>
      have hiff := isAbove_iff hn (hmaximum bound hbound)
      by_cases hlt : bound.toInt < n
      · simp [hiff.2 hlt, hlt]
      · simp [mt hiff.1 hlt, hlt]

/-- The wordings for the two bounds are never the same. -/
theorem atLeast_ne_atMost (a b : String) : "must be >= " ++ a ≠ "must be <= " ++ b := by
  intro h
  have hsign : ("must be >= " ++ a).toList[8]? = ("must be <= " ++ b).toList[8]? := by rw [h]
  rw [String.toList_append, String.toList_append, List.getElem?_append_left (by decide),
    List.getElem?_append_left (by decide)] at hsign
  revert hsign
  decide

/-- Comparing as floating-point numbers is exact for bounds with a magnitude below `2 ^ 53`: whatever integer of 64 bits a number is,
it is reported for the minimum exactly when it is less, and for the maximum exactly when it is greater. -/
theorem reports_bound_iff (path : String) (d : Definition) (htype : d.type = .number) (hminimum : IsSmall d.minimum)
    (hmaximum : IsSmall d.maximum) (n : Int) (hn : Holds64 n) :
    (∀ bound, d.minimum = some bound →
      (Reports (valueIssues path d (.ofInt n)) path ("must be >= " ++ integerText bound) ↔ n < bound.toInt)) ∧
    (∀ bound, d.maximum = some bound →
      (Reports (valueIssues path d (.ofInt n)) path ("must be <= " ++ integerText bound) ↔ bound.toInt < n)) ∧
    (∀ i ∈ valueIssues path d (.ofInt n), i.field = path ∧
      ((∃ bound, d.minimum = some bound ∧ i.reason.text = "must be >= " ++ integerText bound) ∨
        ∃ bound, d.maximum = some bound ∧ i.reason.text = "must be <= " ++ integerText bound)) := by
  have hmem := mem_valueIssues_ofInt path htype hminimum hmaximum hn
  refine ⟨fun bound hbound => ⟨?_, fun hlt => ?_⟩, fun bound hbound => ⟨?_, fun hlt => ?_⟩, fun i hi => ?_⟩
  · rintro ⟨i, hi, -, htext⟩
    rcases (hmem i).1 hi with ⟨b, hb, hlt, -⟩ | ⟨b, -, -, rfl⟩
    · exact Option.some.inj (hbound.symm.trans hb) ▸ hlt
    · exact absurd htext.symm (atLeast_ne_atMost _ _)
  · exact ⟨_, (hmem _).2 (Or.inl ⟨bound, hbound, hlt, rfl⟩), rfl, rfl⟩
  · rintro ⟨i, hi, -, htext⟩
    rcases (hmem i).1 hi with ⟨b, -, -, rfl⟩ | ⟨b, hb, hlt, -⟩
    · exact absurd htext (atLeast_ne_atMost _ _)
    · exact Option.some.inj (hbound.symm.trans hb) ▸ hlt
  · exact ⟨_, (hmem _).2 (Or.inr ⟨bound, hbound, hlt, rfl⟩), rfl, rfl⟩
  · rcases (hmem i).1 hi with ⟨b, hb, -, rfl⟩ | ⟨b, hb, -, rfl⟩
    · exact ⟨rfl, Or.inl ⟨b, hb, rfl⟩⟩
    · exact ⟨rfl, Or.inr ⟨b, hb, rfl⟩⟩

/-- The widest bounds that are compared exactly. -/
def widestBounds : Definition :=
  { type := .number, minimum := some (-9007199254740991), maximum := some 9007199254740991 }

/-- The greatest integer of 64 bits is reported for the widest maximum and the least one for the widest minimum, but the maximum
itself for neither. -/
theorem reports_widestBounds :
    widestBounds.type = .number ∧ IsSmall widestBounds.minimum ∧ IsSmall widestBounds.maximum ∧
      Holds64 18446744073709551615 ∧ Holds64 (-9223372036854775808) ∧
      Reports (valueIssues "size" widestBounds (.ofInt 18446744073709551615)) "size" "must be <= 9007199254740991" ∧
      Reports (valueIssues "size" widestBounds (.ofInt (-9223372036854775808))) "size" "must be >= -9007199254740991" ∧
      ¬Reports (valueIssues "size" widestBounds (.ofInt 9007199254740991)) "size" "must be <= 9007199254740991" := by
  have hminimum : IsSmall widestBounds.minimum := by
    intro bound hbound
    obtain rfl := Option.some.inj hbound
    decide
  have hmaximum : IsSmall widestBounds.maximum := by
    intro bound hbound
    obtain rfl := Option.some.inj hbound
    decide
  have hgreatest : Holds64 18446744073709551615 := by decide
  have hleast : Holds64 (-9223372036854775808) := by decide
  have hlower : integerText (-9007199254740991) = "-9007199254740991" := by decide +kernel
  have hupper : integerText 9007199254740991 = "9007199254740991" := by decide +kernel
  refine ⟨rfl, hminimum, hmaximum, hgreatest, hleast, ?_, ?_, ?_⟩
  · have hiff := (reports_bound_iff "size" widestBounds rfl hminimum hmaximum _ hgreatest).2.1 _ rfl
    rw [hupper] at hiff
    exact hiff.2 (by decide)
  · have hiff := (reports_bound_iff "size" widestBounds rfl hminimum hmaximum _ hleast).1 _ rfl
    rw [hlower] at hiff
    exact hiff.2 (by decide)
  · have hiff := (reports_bound_iff "size" widestBounds rfl hminimum hmaximum 9007199254740991 (by decide)).2.1 _ rfl
    rw [hupper] at hiff
    exact fun hreported => absurd (hiff.1 hreported) (by decide)

/-- From `2 ^ 53` on the comparison is not exact: the integer above this bound is rounded to it. -/
example : isAbove (.int 9007199254740993) 9007199254740992 = false := by decide +kernel

end RenderCatalog.Payload
