import Mathlib
import RenderCatalog.Json.Reader

/-!
# Scalars that were printed

What the readers of scalars make of printed text: a printed string and a printed integer of 64 bits are read back as they
were, whatever stands behind them, and blanks before a part say nothing. A number goes on as long as it can, so the text
behind it must not go on with one (`Stops`).
-/

namespace RenderCatalog.Json

/-! ## Blanks -/

/-- Blanks in front of a part are passed over. -/
theorem skipGap_append (gap : List Char) (hgap : ∀ x ∈ gap, isGap x = true) {x : Char} {rest : List Char}
    (hx : isGap x = false) (offset : Nat) :
    (Cursor.mk (gap ++ x :: rest) offset).skipGap = ⟨x :: rest, offset + gap.length⟩ := by
  have hdrop : (gap ++ x :: rest).dropWhile isGap = x :: rest := by
    rw [List.dropWhile_append_of_pos hgap, List.dropWhile_cons_of_neg (by simp [hx])]
  have htake : (gap ++ x :: rest).takeWhile isGap = gap := by
    rw [List.takeWhile_append_of_pos hgap, List.takeWhile_cons_of_neg (by simp [hx]), List.append_nil]
  simp only [Cursor.skipGap, hdrop, htake]

/-- Nothing is passed over where no blank stands. -/
theorem skipGap_cons {x : Char} (hx : isGap x = false) (rest : List Char) (offset : Nat) :
    (Cursor.mk (x :: rest) offset).skipGap = ⟨x :: rest, offset⟩ :=
  skipGap_append [] (by simp) hx offset

/-- After the blanks at its end a text is at an end. -/
theorem skipGap_blank {gap : List Char} (hgap : ∀ x ∈ gap, isGap x = true) (offset : Nat) :
    ((Cursor.mk gap offset).skipGap).rest = [] := by
  have hdrop : (gap ++ []).dropWhile isGap = [] := List.dropWhile_append_of_pos hgap
  simpa [Cursor.skipGap] using hdrop

/-! ## Strings -/

/-- A hexadecimal digit that was printed has its value. -/
theorem hexValue?_hexDigit (n : Nat) : Text.hexValue? (Text.hexDigit n) = some (n % 16) := by
  have key : ∀ k < 16, Text.hexValue? (Nat.digitChar k) = some k := by decide
  exact key _ (Nat.mod_lt n (by decide))

/-- How a character is printed: as a backslash and a letter for it, by its number, or as it is. -/
theorem escapedChar_cases (c : Char) :
    (∃ x, x ≠ 'u' ∧ escapeOf? x = some c ∧ escapedChar c = ['\\', x]) ∨
      (c.val < 0x20 ∧
        escapedChar c = ['\\', 'u', '0', '0', Text.hexDigit (c.val.toNat / 16), Text.hexDigit c.val.toNat]) ∨
      (c ≠ '"' ∧ c ≠ '\\' ∧ ¬c.val < 0x20 ∧ escapedChar c = [c]) := by
  unfold escapedChar
  split_ifs with h₁ h₂ h₃ h₄ h₅ h₆ h₇ h₈
  iterate 7 exact Or.inl ⟨_, by decide, by subst_vars; rfl, rfl⟩
  · exact Or.inr (Or.inl ⟨h₈, rfl⟩)
  · exact Or.inr (Or.inr ⟨h₁, h₂, h₈, rfl⟩)

/-- The number of a control is no half of a pair. -/
theorem units_of_lt {n : Nat} (h : n < 32) : isTrailingUnit n = false ∧ isLeadingUnit n = false := by
  simp only [isTrailingUnit, isLeadingUnit, Bool.and_eq_false_iff, decide_eq_false_iff_not]
  omega

/-- A printed character is read back, whatever follows it. -/
theorem readStringTail_escapedChar (c : Char) (read rest : List Char) (offset : Nat) :
    ∃ after, readStringTail read (escapedChar c ++ rest) offset = readStringTail (c :: read) rest after := by
  rcases escapedChar_cases c with ⟨x, hu, hx, h⟩ | ⟨hc, h⟩ | ⟨hquote, hslash, hc, h⟩
  · refine ⟨offset + 2, ?_⟩
    rw [h, List.cons_append, List.cons_append, List.nil_append,
      readStringTail.eq_6 _ _ _ _ (fun _ _ _ _ _ h' _ => hu h') hu, hx]
  · have hlt : c.val.toNat < 32 := hc
    have hfour : fourHex? '0' '0' (Text.hexDigit (c.val.toNat / 16)) (Text.hexDigit c.val.toNat) = some c.val.toNat := by
      have h0 : Text.hexValue? '0' = some 0 := rfl
      simp only [fourHex?, h0, hexValue?_hexDigit, Option.some.injEq]
      omega
    obtain ⟨htrail, hlead⟩ := units_of_lt hlt
    have hofNat : Char.ofNat c.val.toNat = c := Char.ofNat_toNat c
    refine ⟨offset + 6, ?_⟩
    rw [h]
    simp only [List.cons_append, List.nil_append]
    rw [readStringTail]
    simp only [hfour, htrail, hlead, hofNat, Bool.false_eq_true, if_false]
  · refine ⟨offset + c.utf8Size, ?_⟩
    rw [h, List.cons_append, List.nil_append,
      readStringTail.eq_7 _ _ _ _ hquote (fun h' _ => hslash h') (fun _ _ _ _ _ h' _ => hslash h')
        (fun _ h' _ => hslash h') (fun _ _ h' _ => hslash h'), if_neg hc]

/-- The characters of a printed string are read back up to its closing quote. -/
theorem readStringTail_flatMap (s read rest : List Char) (offset : Nat) :
    ∃ after, readStringTail read (s.flatMap escapedChar ++ '"' :: rest) offset =
      .ok (String.ofList (read.reverse ++ s), ⟨rest, after⟩) := by
  induction s generalizing read offset with
  | nil => exact ⟨offset + 1, by simp [readStringTail]⟩
  | cons c s ih =>
    rw [List.flatMap_cons, List.append_assoc]
    obtain ⟨o, ho⟩ := readStringTail_escapedChar c read (s.flatMap escapedChar ++ '"' :: rest) offset
    obtain ⟨after, h⟩ := ih (c :: read) o
    exact ⟨after, by rw [ho, h]; simp⟩

/-- A printed string is read back. -/
theorem readString_stringText (s : String) (rest : List Char) (offset : Nat) :
    ∃ after, (Cursor.mk (stringText s ++ rest) offset).readString = .ok (s, ⟨rest, after⟩) := by
  obtain ⟨after, h⟩ := readStringTail_flatMap s.toList [] rest (offset + 1)
  refine ⟨after, ?_⟩
  simpa [Cursor.readString, stringText] using h

/-! ## Integers -/

/-- The text does not go on with a number: it is at its end, or a blank, a comma or a closing bracket follows. -/
def Stops (rest : List Char) : Prop := ∀ x ∈ rest.head?, isGap x = true ∨ x = ',' ∨ x = ']' ∨ x = '}'

/-- The digit of a number below ten has its value. -/
theorem digitValue_digitChar {d : Nat} (h : d < 10) : digitValue (Nat.digitChar d) = d := by
  have key : ∀ k < 10, digitValue (Nat.digitChar k) = k := by decide
  exact key d h

/-- Digits that are taken whole may be followed by more. -/
theorem absorb_append {digits more : List Char} {coefficient n : Nat} (h : absorb coefficient digits = (n, [])) :
    absorb coefficient (digits ++ more) = absorb n more := by
  induction digits generalizing coefficient with
  | nil =>
    obtain rfl : coefficient = n := by simpa [absorb] using h
    rfl
  | cons d rest ih =>
    simp only [absorb, List.cons_append] at h ⊢
    split at h
    · rename_i hlt
      rw [if_pos hlt, ih h]
    · simp at h

/-- The digits of a natural of 64 bits are all taken, and make it up again. -/
theorem absorb_toDigits {n : Nat} (hn : n < UInt64.size) : absorb 0 (Nat.toDigits 10 n) = (n, []) := by
  induction n using Nat.strongRecOn with
  | ind n ih =>
    by_cases h : n < 10
    · rw [Nat.toDigits_of_lt_base h]
      simp only [absorb, digitValue_digitChar h, Nat.zero_mul, Nat.zero_add, if_pos hn]
    · have hdiv := ih (n / 10) (by omega) (by omega)
      have hlast : n / 10 * 10 + n % 10 = n := by omega
      rw [Nat.toDigits_of_base_le (by omega) (by omega), absorb_append hdiv]
      simp only [absorb, digitValue_digitChar (Nat.mod_lt n (by omega : 0 < 10)), hlast, if_pos hn]

/-- Only zero starts with a zero. -/
theorem head?_toDigits {n : Nat} (h : 0 < n) : (Nat.toDigits 10 n).head? ≠ some '0' := by
  induction n using Nat.strongRecOn with
  | ind n ih =>
    by_cases hn : n < 10
    · rw [Nat.toDigits_of_lt_base hn]
      have key : ∀ k < 10, 0 < k → ([Nat.digitChar k] : List Char).head? ≠ some '0' := by decide
      exact key n hn h
    · obtain ⟨d, ds, hds⟩ := List.exists_cons_of_ne_nil (Nat.toDigits_ne_nil (n := n / 10) (b := 10))
      have hd := ih (n / 10) (by omega) (by omega)
      rw [hds] at hd
      rw [Nat.toDigits_of_base_le (by omega) (by omega), hds]
      exact hd

/-- A zero is followed by no further digit. -/
theorem toDigits_ne_zero_cons (n : Nat) (d : Char) (rest : List Char) : Nat.toDigits 10 n ≠ '0' :: d :: rest := by
  intro h
  rcases Nat.eq_zero_or_pos n with rfl | hn
  · rw [Nat.toDigits_zero] at h
    simp at h
  · exact head?_toDigits hn (by rw [h]; rfl)

/-- Digits are passed over up to the first character that is none. -/
theorem digits_toDigits (n : Nat) {rest : List Char} (hrest : Stops rest) (offset : Nat) :
    (Cursor.mk (Nat.toDigits 10 n ++ rest) offset).digits =
      (Nat.toDigits 10 n, ⟨rest, offset + (Nat.toDigits 10 n).length⟩) := by
  have hd : ∀ x ∈ Nat.toDigits 10 n, x.isDigit = true := fun x hx => Nat.isDigit_of_mem_toDigits (by omega) (by omega) hx
  have hstop : rest.takeWhile Char.isDigit = [] ∧ rest.dropWhile Char.isDigit = rest := by
    cases rest with
    | nil => simp
    | cons x rest =>
      have hx : x.isDigit = false := by
        rcases hrest x rfl with h | rfl | rfl | rfl
        · simp only [isGap, Bool.or_eq_true, beq_iff_eq] at h
          rcases h with ((rfl | rfl) | rfl) | rfl <;> rfl
        all_goals rfl
      simp [hx]
  simp only [Cursor.digits, List.takeWhile_append_of_pos hd, List.dropWhile_append_of_pos hd, hstop, List.append_nil]

/-- Printed digits of a natural of 64 bits are read back. -/
theorem readUnsigned_toDigits (negative : Bool) {n : Nat} (hn : n < UInt64.size) {rest : List Char} (hrest : Stops rest)
    (offset : Nat) :
    readUnsigned negative ⟨Nat.toDigits 10 n ++ rest, offset⟩ =
      .ok (wholeNumber negative n, ⟨rest, offset + (Nat.toDigits 10 n).length⟩) := by
  have hpoint : ∀ x ∈ rest.head?, x ≠ '.' ∧ x ≠ 'e' ∧ x ≠ 'E' := by
    intro x hx
    rcases hrest x hx with h | rfl | rfl | rfl
    · simp only [isGap, Bool.or_eq_true, beq_iff_eq] at h
      rcases h with ((rfl | rfl) | rfl) | rfl <;> decide
    all_goals decide
  simp only [readUnsigned, digits_toDigits n hrest, absorb_toDigits hn]
  split
  · exact absurd ‹_› Nat.toDigits_ne_nil
  · exact absurd ‹_› (toDigits_ne_zero_cons n _ _)
  · split <;> simp_all

/-- The integers that are stored are those of 64 bits. -/
theorem fitsInteger_iff {n : Int} : fitsInteger n = true ↔ -9223372036854775808 ≤ n ∧ n ≤ 9223372036854775807 := by
  have hmin : Int64.minValue.toInt = -9223372036854775808 := rfl
  have hmax : Int64.maxValue.toInt = 9223372036854775807 := rfl
  rw [fitsInteger, hmin, hmax, Bool.and_eq_true, decide_eq_true_eq, decide_eq_true_eq]

/-- A printed integer of 64 bits is read back. -/
theorem readNumber_intText {n : Int} (hn : fitsInteger n = true) {rest : List Char} (hrest : Stops rest) (offset : Nat) :
    ∃ after, (Cursor.mk (intText n ++ rest) offset).readNumber = .ok (.int n, ⟨rest, after⟩) := by
  obtain ⟨hlow, hhigh⟩ := fitsInteger_iff.1 hn
  have hlt : n.natAbs < 18446744073709551616 := by omega
  by_cases h : n < 0
  · have hwhole : wholeNumber true n.natAbs = .int n := by
      have h₁ : (decide (n.natAbs = 0) || decide (Nat.pow 2 63 < n.natAbs)) = false := by
        have hpow : Nat.pow 2 63 = 9223372036854775808 := rfl
        rw [hpow, Bool.or_eq_false_iff, decide_eq_false_iff_not, decide_eq_false_iff_not]
        omega
      have h₂ : -(n.natAbs : Int) = n := by omega
      simp only [wholeNumber, h₁, h₂, Bool.not_true, Bool.false_eq_true, if_false]
    have hread : (Cursor.mk (intText n ++ rest) offset).readNumber =
        readUnsigned true ⟨Nat.toDigits 10 n.natAbs ++ rest, offset + byteCount ['-']⟩ := by
      simp [intText, h, Cursor.readNumber, Cursor.drop]
    exact ⟨_, by rw [hread, readUnsigned_toDigits true hlt hrest, hwhole]⟩
  · have hwhole : wholeNumber false n.natAbs = .int n := by
      have h₂ : (n.natAbs : Int) = n := by omega
      simp [wholeNumber, h₂]
    have hfirst : ∀ tail, Nat.toDigits 10 n.natAbs ++ rest ≠ '-' :: tail := by
      intro tail ht
      obtain ⟨d, ds, hds⟩ := List.exists_cons_of_ne_nil (Nat.toDigits_ne_nil (n := n.natAbs) (b := 10))
      have hd : d.isDigit = true := Nat.isDigit_of_mem_toDigits (b := 10) (n := n.natAbs) (by omega) (by omega) (by simp [hds])
      rw [hds, List.cons_append] at ht
      obtain rfl := (List.cons.inj ht).1
      exact absurd hd (by decide)
    have hread : (Cursor.mk (intText n ++ rest) offset).readNumber =
        readUnsigned false ⟨Nat.toDigits 10 n.natAbs ++ rest, offset⟩ := by
      simp only [intText, if_neg h, List.nil_append, Cursor.readNumber]
    exact ⟨_, by rw [hread, readUnsigned_toDigits false hlt hrest, hwhole]⟩

end RenderCatalog.Json
