import RenderCatalog.Proofs.Report.Lines
import RenderCatalog.Proofs.Text

/-!
# Colour in the outline

What colour adds to the outline of a report are sequences for the terminal, and nothing else: where no key and no text has an
escape character of its own, taking the sequences away leaves the outline without colour (`uncoloured_render_pretty`). Every part
of the coloured outline shows what it shows without colour, whatever follows it (`Shows`). Only the end needs care, since the
sequence behind a last text keeps the blanks of that text from being trimmed: no sequence begins or ends in the blanks that are cut
off, so it makes no difference whether these are cut off before the sequences are taken away.
-/

namespace RenderCatalog.Report

open Json (Value)

/-! ## Texts without their sequences -/

/-- How long the rest of a sequence is, up to the `m` that ends it; `inner` says what may stand before that. -/
def endLength? (inner : Char → Bool) : List Char → Option Nat
  | [] => none
  | c :: rest => if c = 'm' then some 1 else if inner c then (endLength? inner rest).map (· + 1) else none

/-- How long the sequence is that a text begins with. -/
def sequenceLength? (inner : Char → Bool) : List Char → Option Nat
  | '\x1b' :: '[' :: rest => (endLength? inner rest).map (· + 2)
  | _ => none

/-- The text without the sequences in it, found from the left; `skip` counts the characters of the last one that are still to be
passed over. -/
def uncolouredFrom (inner : Char → Bool) : Nat → List Char → List Char
  | _, [] => []
  | skip + 1, _ :: rest => uncolouredFrom inner skip rest
  | 0, c :: rest =>
    match sequenceLength? inner (c :: rest) with
    | some length => uncolouredFrom inner (length - 1) rest
    | none => c :: uncolouredFrom inner 0 rest

/-- The text without the sequences in it. -/
def uncoloured (inner : Char → Bool) (cs : List Char) : List Char := uncolouredFrom inner 0 cs

variable {inner : Char → Bool} {cs rest blanks code : List Char}

/-- A text without an escape character has no sequence at its front. -/
theorem uncoloured_append (h : '\x1b' ∉ cs) (rest : List Char) : uncoloured inner (cs ++ rest) = cs ++ uncoloured inner rest := by
  induction cs with
  | nil => rfl
  | cons c more ih =>
    rw [List.mem_cons, not_or] at h
    have hnone : sequenceLength? inner (c :: (more ++ rest)) = none := by
      rw [sequenceLength?.eq_def]
      split
      · rename_i heq
        exact absurd (List.cons.inj heq).1.symm h.1
      · rfl
    rw [List.cons_append, uncoloured, uncolouredFrom, hnone]
    exact congrArg (c :: ·) (ih h.2)

/-- The characters of a sequence that was found are passed over. -/
theorem uncolouredFrom_length (cs rest : List Char) : uncolouredFrom inner cs.length (cs ++ rest) = uncoloured inner rest := by
  induction cs with
  | nil => rfl
  | cons c more ih => exact ih

/-- A sequence ends at its first `m`. -/
theorem endLength?_append (hinner : ∀ c ∈ code, inner c = true ∧ c ≠ 'm') (rest : List Char) :
    endLength? inner (code ++ 'm' :: rest) = some (code.length + 1) := by
  induction code with
  | nil => rfl
  | cons c more ih =>
    obtain ⟨hc, hmore⟩ := List.forall_mem_cons.1 hinner
    rw [List.cons_append, endLength?, if_neg hc.2, if_pos hc.1, ih hmore]
    rfl

/-- A sequence is taken away. -/
theorem uncoloured_sequence (hinner : ∀ c ∈ code, inner c = true ∧ c ≠ 'm') (rest : List Char) :
    uncoloured inner (sequence code ++ rest) = uncoloured inner rest := by
  have htext : sequence code ++ rest = '\x1b' :: ('[' :: (code ++ ['m']) ++ rest) := rfl
  have hlength : sequenceLength? inner ('\x1b' :: ('[' :: (code ++ ['m']) ++ rest)) = some (code.length + 1 + 2) := by
    have hend : endLength? inner (code ++ ['m'] ++ rest) = some (code.length + 1) := by
      rw [List.append_assoc]
      exact endLength?_append hinner rest
    change (endLength? inner (code ++ ['m'] ++ rest)).map (· + 2) = _
    rw [hend]
    rfl
  have hskipped : code.length + 1 + 2 - 1 = ('[' :: (code ++ ['m'])).length := by simp
  rw [htext, uncoloured, uncolouredFrom, hlength]
  simp only [hskipped]
  exact uncolouredFrom_length _ rest

/-! ## Blanks at the end -/

/-- A blank is none of the characters that are not. -/
theorem ne_of_isBlank {c d : Char} (h : Text.isBlank c = true) (hd : Text.isBlank d = false) : c ≠ d := by
  rintro rfl
  rw [h] at hd
  cases hd

/-- What is left of a sequence does not end in blanks. -/
theorem endLength?_blanks (h : ∀ c ∈ blanks, Text.isBlank c = true) : endLength? inner blanks = none := by
  induction blanks with
  | nil => rfl
  | cons c more ih =>
    obtain ⟨hc, hmore⟩ := List.forall_mem_cons.1 h
    have hm : c ≠ 'm' := ne_of_isBlank hc (by decide)
    rw [endLength?, if_neg hm, ih hmore, Option.map_none, ite_self]

/-- Blanks behind a text end no sequence in it. -/
theorem endLength?_append_blanks (h : ∀ c ∈ blanks, Text.isBlank c = true) (cs : List Char) :
    endLength? inner (cs ++ blanks) = endLength? inner cs := by
  induction cs with
  | nil => exact endLength?_blanks h
  | cons c more ih => rw [List.cons_append, endLength?, endLength?, ih]

/-- The rest of a sequence is within the text. -/
theorem endLength?_le {n : Nat} (h : endLength? inner cs = some n) : n ≤ cs.length := by
  induction cs generalizing n with
  | nil => cases h
  | cons c more ih =>
    rw [endLength?] at h
    split at h
    · obtain rfl := Option.some.inj h
      simp
    · split at h
      · obtain ⟨m, hm, rfl⟩ := Option.map_eq_some_iff.1 h
        exact Nat.succ_le_succ (ih hm)
      · cases h

/-- No sequence that a text begins with reaches into the blanks behind it. -/
theorem sequenceLength?_append_blanks (h : ∀ c ∈ blanks, Text.isBlank c = true) (hne : cs ≠ []) :
    sequenceLength? inner (cs ++ blanks) = sequenceLength? inner cs := by
  match cs with
  | [c] =>
    have hnone : ∀ more : List Char, more.head? ≠ some '[' → sequenceLength? inner (c :: more) = none := by
      intro more hmore
      rw [sequenceLength?.eq_def]
      split
      · rename_i heq
        exact absurd (by rw [(List.cons.inj heq).2]; rfl) hmore
      · rfl
    have hhead : blanks.head? ≠ some '[' := fun hhead =>
      ne_of_isBlank (h '[' (List.mem_of_head? hhead)) (by decide) rfl
    rw [List.singleton_append, hnone blanks hhead, hnone [] nofun]
  | c :: d :: more =>
    rw [List.cons_append, List.cons_append]
    by_cases hopens : c = '\x1b' ∧ d = '['
    · obtain ⟨rfl, rfl⟩ := hopens
      rw [sequenceLength?, sequenceLength?, endLength?_append_blanks h]
    · have hnone : ∀ rest : List Char, sequenceLength? inner (c :: d :: rest) = none := by
        intro rest
        rw [sequenceLength?.eq_def]
        split
        · rename_i heq
          obtain ⟨rfl, htail⟩ := List.cons.inj heq
          exact absurd ⟨rfl, (List.cons.inj htail).1⟩ hopens
        · rfl
      rw [hnone, hnone]

/-- A sequence is within the text. -/
theorem sequenceLength?_le {n : Nat} (h : sequenceLength? inner cs = some n) : n ≤ cs.length := by
  rw [sequenceLength?.eq_def] at h
  split at h
  · obtain ⟨m, hm, rfl⟩ := Option.map_eq_some_iff.1 h
    exact Nat.add_le_add_right (endLength?_le hm) 2
  · cases h

/-- Blanks behind a text stay behind it. -/
theorem uncolouredFrom_append_blanks (h : ∀ c ∈ blanks, Text.isBlank c = true) {skip : Nat} (hskip : skip ≤ cs.length) :
    uncolouredFrom inner skip (cs ++ blanks) = uncolouredFrom inner skip cs ++ blanks := by
  induction cs generalizing skip with
  | nil =>
    obtain rfl := Nat.le_zero.1 hskip
    have hescape : '\x1b' ∉ blanks := fun hmem => ne_of_isBlank (h _ hmem) (by decide) rfl
    have hkept : uncoloured inner (blanks ++ []) = blanks ++ uncoloured inner [] := uncoloured_append hescape []
    rw [List.append_nil] at hkept
    rw [List.nil_append, ← uncoloured, hkept, uncoloured, uncolouredFrom, List.append_nil, List.nil_append]
  | cons c more ih =>
    cases skip with
    | succ skip => exact ih (Nat.le_of_succ_le_succ hskip)
    | zero =>
      have hlength : sequenceLength? inner ((c :: more) ++ blanks) = sequenceLength? inner (c :: more) :=
        sequenceLength?_append_blanks h (List.cons_ne_nil c more)
      rw [List.cons_append] at hlength ⊢
      rw [uncolouredFrom, uncolouredFrom, hlength]
      cases hsequence : sequenceLength? inner (c :: more) with
      | none => exact congrArg (c :: ·) (ih (Nat.zero_le _))
      | some n =>
        have hle := sequenceLength?_le hsequence
        rw [List.length_cons] at hle
        exact ih (by omega)

/-- Blanks can be cut off before the sequences are taken away. -/
theorem trimEnd_uncoloured (cs : List Char) :
    Text.trimEnd (uncoloured inner (Text.trimEnd cs)) = Text.trimEnd (uncoloured inner cs) := by
  obtain ⟨blanks, hblanks, hcs⟩ := Text.exists_blanks_behind cs
  have hbehind : uncoloured inner cs = uncoloured inner (Text.trimEnd cs) ++ blanks := by
    nth_rewrite 1 [hcs]
    exact uncolouredFrom_append_blanks hblanks (Nat.zero_le _)
  rw [hbehind, Text.trimEnd_append hblanks]

/-! ## The coloured outline -/

/-- No key in the value and no text has an escape character in it. -/
inductive Unescaped : Value → Prop where
  | null : Unescaped .null
  | bool (b : Bool) : Unescaped (.bool b)
  | number (n : Json.Number) : Unescaped (.number n)
  | string {s : String} (h : '\x1b' ∉ s.toList) : Unescaped (.string s)
  | array {items : List Value} (h : ∀ v ∈ items, Unescaped v) : Unescaped (.array items)
  | object {entries : List (String × Value)} (hkeys : ∀ e ∈ entries, '\x1b' ∉ e.1.toList) (h : ∀ e ∈ entries, Unescaped e.2) :
    Unescaped (.object entries)

variable {v : Value} {a a' b b' : List Char}

/-- Sorting brings in no escape character. -/
theorem Unescaped.sorted (h : Unescaped v) : Unescaped v.sorted := by
  induction h with
  | null => exact .null
  | bool b => exact .bool b
  | number n => exact .number n
  | string h => exact .string h
  | @array items h ih =>
    rw [Value.sorted, Json.sortedItems_eq]
    exact .array (List.forall_mem_map.2 ih)
  | @object entries hkeys h ih =>
    refine .object (fun e he => ?_) (fun e he => ?_)
    · obtain ⟨e', he', rfl⟩ := exists_of_mem_sortEntries he
      exact hkeys e' he'
    · obtain ⟨e', he', rfl⟩ := exists_of_mem_sortEntries he
      exact ih e' he'

/-- The first text shows the second one: that is left of it when the sequences are taken away, whatever follows. -/
def Shows (inner : Char → Bool) (painted bare : List Char) : Prop :=
  ∀ rest, uncoloured inner (painted ++ rest) = bare ++ uncoloured inner rest

/-- A text without escape characters shows itself. -/
theorem shows_self (h : '\x1b' ∉ cs) : Shows inner cs cs := uncoloured_append h

/-- Texts in a row show what each of them shows. -/
theorem Shows.append (h : Shows inner a b) (h' : Shows inner a' b') : Shows inner (a ++ a') (b ++ b') := by
  intro rest
  rw [List.append_assoc, h, h', List.append_assoc]

/-- What a text shows is what is left of it. -/
theorem Shows.uncoloured_eq (h : Shows inner a b) : uncoloured inner a = b := by
  have heq : uncoloured inner (a ++ []) = b ++ [] := h []
  rwa [List.append_nil, List.append_nil] at heq

/-- There is nothing to be replaced in a text without escape characters. -/
theorem replaceAll_reset (h : '\x1b' ∉ cs) (new : List Char) : Text.replaceAll reset new cs = cs := by
  unfold Text.replaceAll
  induction cs with
  | nil => rfl
  | cons c more ih =>
    rw [List.mem_cons, not_or] at h
    have hnot : reset.isPrefixOf (c :: more) = false := by
      rw [reset, sequence, List.isPrefixOf_cons_cons, beq_false_of_ne h.1, Bool.false_and]
    rw [Text.replaceFrom, if_neg (by simp [hnot]), ih h.2]

section Coloured

variable (hinner : ∀ c, c.isDigit ∨ c = ';' → inner c = true)

include hinner

/-- A text in a tint shows the text. -/
theorem shows_paint (h : '\x1b' ∉ cs) (tint : Tint) : Shows inner (paint true tint cs) cs := by
  have hcode : ∀ c ∈ tint.code, inner c = true ∧ c ≠ 'm' := by
    have hsigns : tint.code.all (fun c => (c.isDigit || c == ';') && c != 'm') = true := by cases tint <;> rfl
    intro c hc
    have hsign := List.all_eq_true.1 hsigns c hc
    rw [Bool.and_eq_true, Bool.or_eq_true, beq_iff_eq, bne_iff_ne] at hsign
    exact ⟨hinner c hsign.1, hsign.2⟩
  have hreset : ∀ c ∈ ['0'], inner c = true ∧ c ≠ 'm' :=
    List.forall_mem_singleton.2 ⟨hinner '0' (Or.inl rfl), by decide⟩
  intro rest
  rw [paint, if_pos rfl, replaceAll_reset h, List.append_assoc, List.append_assoc, uncoloured_sequence hcode, uncoloured_append h,
    reset, uncoloured_sequence hreset]

/-- A leaf shows what it is without colour. -/
theorem shows_outlineLeaf (h : Unescaped v) : Shows inner (outlineLeaf true v) (outlineLeaf false v) := by
  cases h with
  | null => exact shows_paint hinner (by decide) .faint
  | bool b => exact shows_paint hinner (by cases b <;> decide) .flag
  | number n => exact shows_paint hinner (not_mem_numberText (by decide) n) .number
  | string h => exact shows_paint hinner h .string
  | array h => exact shows_paint hinner (by decide) .faint
  | object hkeys h => exact shows_paint hinner (by decide) .faint

/-- The line that a value starts with shows the same without colours. -/
theorem shows_headLine {head head' : List Char} (hhead : Shows inner head head') (h : Unescaped v) (depth : Nat) :
    Shows inner (headLine depth head true v) (headLine depth head' false v) := by
  have hblanks : '\x1b' ∉ indentation depth := fun hmem => absurd (List.eq_of_mem_replicate hmem) (by decide)
  refine ((shows_self hblanks).append hhead).append ?_
  split
  · exact shows_self (by decide)
  · have hblank : Shows inner [' '] [' '] := shows_self (by decide)
    have hend : Shows inner ['\n'] ['\n'] := shows_self (by decide)
    exact hblank.append ((shows_outlineLeaf hinner h).append hend)

/-- The lines of a value show its lines without colour. -/
theorem shows_outlineNested (h : Unescaped v) (depth : Nat) :
    Shows inner (outlineNested true depth v) (outlineNested false depth v) := by
  have hnil : Shows inner [] [] := shows_self List.not_mem_nil
  induction h generalizing depth with
  | null | bool _ | number _ | string _ => exact hnil
  | @array items h ih =>
    change Shows inner (outlineItems true depth items) (outlineItems false depth items)
    induction items with
    | nil => exact hnil
    | cons v rest ihrest =>
      obtain ⟨hv, hrest⟩ := List.forall_mem_cons.1 h
      obtain ⟨ihv, ihs⟩ := List.forall_mem_cons.1 ih
      exact ((shows_headLine hinner (shows_self (by decide)) hv depth).append (ihv (depth + 1))).append (ihrest hrest ihs)
  | @object entries hkeys h ih =>
    change Shows inner (outlineEntries true depth entries) (outlineEntries false depth entries)
    induction entries with
    | nil => exact hnil
    | cons e rest ihrest =>
      obtain ⟨hkey, hkeys⟩ := List.forall_mem_cons.1 hkeys
      obtain ⟨hv, hrest⟩ := List.forall_mem_cons.1 h
      obtain ⟨ihv, ihs⟩ := List.forall_mem_cons.1 ih
      have hcolon : Shows inner [':'] [':'] := shows_self (by decide)
      have hhead : Shows inner (paint true .key e.1.toList ++ [':']) (paint false .key e.1.toList ++ [':']) :=
        Shows.append (shows_paint hinner hkey .key) hcolon
      exact ((shows_headLine hinner hhead hv depth).append (ihv (depth + 1))).append (ihrest hkeys hrest ihs)

/-- The coloured lines of a value show the plain ones. -/
theorem shows_outlineLines (h : Unescaped v) : Shows inner (outlineLines true v) (outlineLines false v) := by
  unfold outlineLines
  split
  · exact shows_outlineNested hinner h 0
  · have hend : Shows inner ['\n'] ['\n'] := shows_self (by decide)
    exact (shows_outlineLeaf hinner h).append hend

end Coloured

/-- The coloured outline of a value without escape characters, with the sequences taken away and then the blanks at its end, is
the outline of the value without colour. Sequences have digits and semicolons between `ESC[` and `m`, and it does not matter what
else may stand there. -/
theorem uncoloured_render_pretty (hinner : ∀ c, c.isDigit ∨ c = ';' → inner c = true) (h : Unescaped v) :
    String.ofList (Text.trimEnd (uncoloured inner (render .pretty true v).toList)) = render .pretty false v := by
  have hshows := (shows_outlineLines hinner h.sorted).uncoloured_eq
  have htext : (render .pretty true v).toList = outline true v := String.toList_ofList
  rw [htext, outline, trimEnd_uncoloured, hshows]
  rfl

/-- A report that ends in an empty text and one with blanks at its end. -/
def blankReport : Value := .object [("n", .number (.int (-7))), ("t", .array [.array [], .string "a m\u3000", .string ""])]

/-- The plain outline lacks the blank at its end that is left of the coloured one. -/
theorem uncoloured_blankReport :
    (∀ c, c.isDigit ∨ c = ';' → (c.isDigit || c == ';') = true) ∧ Unescaped blankReport ∧
      render .pretty true blankReport =
        "\x1b[1;34mn\x1b[0m: \x1b[36m-7\x1b[0m\n\x1b[1;34mt\x1b[0m:\n  - \x1b[2m[]\x1b[0m\n  - \x1b[32ma m\u3000\x1b[0m\n  - \x1b[32m\x1b[0m" ∧
      render .pretty false blankReport = "n: -7\nt:\n  - []\n  - a m\u3000\n  -" ∧
      String.ofList (Text.trimEnd (uncoloured (fun c => c.isDigit || c == ';') (render .pretty true blankReport).toList)) =
        render .pretty false blankReport := by
  have hinner : ∀ c : Char, c.isDigit ∨ c = ';' → (c.isDigit || c == ';') = true := by
    intro c hc
    rwa [Bool.or_eq_true, beq_iff_eq]
  have hlist : Unescaped (.array [.array [], .string "a m\u3000", .string ""]) :=
    .array (List.forall_mem_cons.2 ⟨.array nofun, List.forall_mem_cons.2
      ⟨.string (by decide), List.forall_mem_singleton.2 (.string (by decide))⟩⟩)
  have hreport : Unescaped blankReport :=
    .object (by decide) (List.forall_mem_cons.2 ⟨.number _, List.forall_mem_singleton.2 hlist⟩)
  exact ⟨hinner, hreport, by decide +kernel, by decide +kernel, uncoloured_render_pretty hinner hreport⟩

end RenderCatalog.Report
