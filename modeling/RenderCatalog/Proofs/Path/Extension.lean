import RenderCatalog.Proofs.Text

/-!
# The last extension of a name

A name is cut at its last point, unless that is its first character (`HasExtension`). Of a name that ends in an extension with
points inside, only what stands behind the last of these is its extension (`hasExtension_append_iff`).
-/

namespace RenderCatalog

namespace Text

variable {c : Char} {cs after : List Char}

/-- A text is cut at the last of the characters that occur in it. -/
theorem exists_last (h : c ∈ cs) : ∃ front after, cs = front ++ c :: after ∧ c ∉ after := by
  obtain ⟨front, after, hreverse, hnot⟩ := List.eq_append_cons_of_mem (List.mem_reverse.2 h)
  refine ⟨after.reverse, front.reverse, ?_, by simpa using hnot⟩
  rw [← List.reverse_reverse cs, hreverse]
  simp

/-- What stands behind a character for the last time is found there. -/
theorem afterLast?_last (h : c ∉ after) (front : List Char) : afterLast? [c] (front ++ c :: after) = some after := by
  have hinside : ¬[c] <:+: after := fun hmem => h (hmem.subset List.mem_cons_self)
  exact afterLast?_append (afterLast?_needle List.not_mem_nil hinside) front

end Text

namespace Path

variable {front word name extension extension' : List Char}

/-- A name is cut before its last point. -/
theorem splitAtPoint_append (hdots : front ++ '.' :: extension ≠ ['.', '.']) (hfront : front ≠ []) (hpoint : '.' ∉ extension) :
    splitAtPoint (front ++ '.' :: extension) = (front, some extension) := by
  have hbefore : (front ++ '.' :: extension).take ((front ++ '.' :: extension).length - extension.length - 1) = front := by
    have hlength : (front ++ '.' :: extension).length - extension.length - 1 = front.length := by
      rw [List.length_append, List.length_cons]
      omega
    rw [hlength, List.take_left]
  unfold splitAtPoint
  rw [if_neg hdots, Text.afterLast?_last hpoint]
  simp only [hbefore]
  rw [if_neg (by simpa using hfront)]

/-- A point at the front starts no extension. -/
theorem splitAtPoint_point (hpoint : '.' ∉ extension) : splitAtPoint ('.' :: extension) = ('.' :: extension, none) := by
  have hafter : Text.afterLast? ['.'] ('.' :: extension) = some extension := Text.afterLast?_last hpoint []
  unfold splitAtPoint
  rw [hafter]
  simp

/-- A name without a point has no extension. -/
theorem splitAtPoint_of_not_mem (h : '.' ∉ name) : splitAtPoint name = (name, none) := by
  unfold splitAtPoint
  rw [Text.afterLast?_eq_none fun hinside => h (hinside.subset List.mem_cons_self), ite_self]

/-- The last extension of a name: what stands behind its last point, when the point is not the first character. -/
def HasExtension (name extension : List Char) : Prop :=
  ∃ front, front ≠ [] ∧ name = front ++ '.' :: extension ∧ '.' ∉ extension

/-- A name has at most one last extension. -/
theorem HasExtension.unique (h : HasExtension name extension) (h' : HasExtension name extension') : extension = extension' := by
  obtain ⟨front, -, rfl, hpoint⟩ := h
  obtain ⟨front', -, heq, hpoint'⟩ := h'
  have hlast := Text.afterLast?_last hpoint front
  rw [heq, Text.afterLast?_last hpoint'] at hlast
  exact (Option.some.inj hlast).symm

/-- The extension that is split off is the one that the name has. -/
theorem splitAtPoint_eq_some_iff (h : name ≠ ['.', '.']) : (splitAtPoint name).2 = some extension ↔ HasExtension name extension := by
  by_cases hmem : '.' ∈ name
  · obtain ⟨front, after, rfl, hpoint⟩ := Text.exists_last hmem
    by_cases hfront : front = []
    · subst hfront
      rw [List.nil_append, splitAtPoint_point hpoint]
      simp only [reduceCtorEq, false_iff]
      rintro ⟨front', hfront', heq, -⟩
      obtain ⟨c, rest, rfl⟩ := List.exists_cons_of_ne_nil hfront'
      -- a second point would stand behind the first character
      exact hpoint ((List.cons.inj heq).2 ▸ List.mem_append_right rest List.mem_cons_self)
    · rw [splitAtPoint_append h hfront hpoint]
      have hextension : HasExtension (front ++ '.' :: after) after := ⟨front, hfront, rfl, hpoint⟩
      constructor
      · intro heq
        rwa [← Option.some.inj heq]
      · intro h'
        rw [hextension.unique h']
  · rw [splitAtPoint_of_not_mem hmem]
    simp only [reduceCtorEq, false_iff]
    rintro ⟨front, -, rfl, -⟩
    exact hmem (List.mem_append_right front List.mem_cons_self)

/-- The last part of an extension, behind its last point; the whole of it when there is none. -/
def lastPart (extension : List Char) : List Char := extension.rtakeWhile (· != '.')

/-- An extension without a point is its own last part. -/
theorem lastPart_of_not_mem (h : '.' ∉ extension) : lastPart extension = extension := by
  unfold lastPart
  rw [List.rtakeWhile_eq_self_iff]
  intro c hc
  simp only [bne_iff_ne]
  rintro rfl
  exact h hc

/-- What stands before the last point is no part of the last part. -/
theorem lastPart_append (front : List Char) (h : '.' ∉ extension) : lastPart (front ++ '.' :: extension) = extension := by
  have hbehind : extension.reverse.takeWhile (· != '.') = extension.reverse := by
    rw [List.takeWhile_eq_self_iff]
    intro c hc
    simp only [bne_iff_ne]
    rintro rfl
    exact h (List.mem_reverse.1 hc)
  unfold lastPart List.rtakeWhile
  rw [List.reverse_append, List.reverse_cons, List.append_assoc, List.takeWhile_append, hbehind]
  simp

/-- The last extension of a word with an extension behind it is the last part of that. -/
theorem hasExtension_append_iff (h : word ≠ []) :
    HasExtension (word ++ '.' :: extension) extension' ↔ extension' = lastPart extension := by
  have hlast : HasExtension (word ++ '.' :: extension) (lastPart extension) := by
    by_cases hmem : '.' ∈ extension
    · obtain ⟨front, after, rfl, hpoint⟩ := Text.exists_last hmem
      rw [lastPart_append front hpoint]
      exact ⟨word ++ '.' :: front, by simp, by simp, hpoint⟩
    · rw [lastPart_of_not_mem hmem]
      exact ⟨word, h, rfl, hmem⟩
  constructor
  · intro h'
    exact h'.unique hlast
  · rintro rfl
    exact hlast

end Path

end RenderCatalog
