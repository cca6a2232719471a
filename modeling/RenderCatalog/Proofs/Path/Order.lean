import RenderCatalog.Proofs.Path

/-!
# The order of paths

Paths are compared part by part, and parts by their kind and then by their characters. So the order of paths is the
lexicographic order of the keys of their parts (`less_iff`), and it is linear up to different spellings of the same parts. A list
of paths with different parts is therefore sorted strictly (`pairwise_mergeSort`).

What lies below a directory has the parts of the directory and then its names (`parts_below`).
-/

namespace RenderCatalog.Path

/-- What a part is compared by: its kind, and for a name its characters. -/
def Part.key : Part → ℕ ×ₗ List Char
  | .name s => toLex (Part.rank (.name s), s)
  | part => toLex (part.rank, [])

/-- Different parts are compared by different keys. -/
theorem Part.key_injective : Function.Injective Part.key := by
  intro a b h
  cases a <;> cases b <;> simp_all [Part.key, Part.rank]

/-- Parts are compared by their keys. -/
theorem Part.less_iff (a b : Part) : a.less b = true ↔ a.key < b.key := by
  cases a <;> cases b <;> simp [Part.less, Part.key, Part.rank, Prod.Lex.toLex_lt_toLex]

theorem partsLess_iff (as bs : List Part) : partsLess as bs = true ↔ as.map Part.key < bs.map Part.key := by
  induction as generalizing bs with
  | nil => cases bs <;> simp [partsLess]
  | cons a as ih =>
    cases bs with
    | nil => simp [partsLess]
    | cons b bs =>
      simp only [partsLess, Part.less_iff, List.map_cons, List.cons_lt_cons_iff]
      rcases lt_trichotomy a.key b.key with h | h | h
      · simp [h]
      · simp [h, ih]
      · simp [h, h.not_gt, h.ne']

/-- What a path is compared by. -/
def orderKey (path : String) : List (ℕ ×ₗ List Char) := (parts path).map Part.key

theorem less_iff (a b : String) : less a b = true ↔ orderKey a < orderKey b := partsLess_iff _ _

/-- A path does not stand before another when that one is as great. -/
theorem not_less_iff (a b : String) : (!less b a) = true ↔ orderKey a ≤ orderKey b := by
  rw [Bool.not_eq_true', ← Bool.not_eq_true, less_iff, not_lt]

/-- Paths with different parts are put into strict order. -/
theorem pairwise_mergeSort {paths : List String} (h : (paths.map parts).Nodup) :
    (paths.mergeSort fun a b => !less b a).Pairwise fun a b => less a b = true := by
  have hle : (paths.mergeSort fun a b => !less b a).Pairwise fun a b => (!less b a) = true := by
    apply List.pairwise_mergeSort
    · intro a b c hab hbc
      rw [not_less_iff] at hab hbc ⊢
      exact hab.trans hbc
    · intro a b
      rw [Bool.or_eq_true, not_less_iff, not_less_iff]
      exact le_total _ _
  have hne : (paths.mergeSort fun a b => !less b a).Pairwise fun a b => parts a ≠ parts b := by
    rw [← List.pairwise_map (R := (· ≠ ·)), ← List.Nodup, ((List.mergeSort_perm _ _).map parts).nodup_iff]
    exact h
  refine (hle.and hne).imp fun {a b} hab => ?_
  obtain ⟨hle, hne⟩ := hab
  rw [not_less_iff] at hle
  rw [less_iff]
  exact lt_of_le_of_ne hle fun heq => hne (List.map_injective_iff.2 Part.key_injective heq)

/-- No path stands before itself. -/
theorem less_irrefl (a : String) : ¬less a a = true := by
  rw [less_iff]
  exact lt_irrefl _

/-- Of two paths at most one stands before the other. -/
theorem less_asymm {a b : String} (h : less a b = true) : ¬less b a = true := by
  rw [less_iff] at h ⊢
  exact h.not_gt

/-! ## Below a directory -/

/-- A name below a directory is one part more. -/
theorem parts_join {name : String} (h : IsName name) (directory : String) :
    parts (join directory name) = parts directory ++ [.name name.toList] := by
  unfold parts
  rw [isAbsolute_join h.no_slash, pieces_join h.nonempty h.no_slash, List.map_append, List.map_singleton, ofPiece_of_isName h]
  split
  · simp
  · cases hall : (pieces directory.toList).map Part.ofPiece with
    | nil => simp
    | cons first rest => cases first <;> simp

/-- What lies below a directory has its names behind the parts of the directory. -/
theorem parts_below {names : List String} (h : ∀ name ∈ names, IsName name) (directory : String) :
    parts (below directory names) = parts directory ++ names.map fun name => .name name.toList := by
  unfold below
  induction names generalizing directory with
  | nil => simp
  | cons name names ih =>
    obtain ⟨hname, hnames⟩ := List.forall_mem_cons.1 h
    rw [List.foldl_cons, ih hnames, parts_join hname, List.map_cons, List.append_assoc, List.singleton_append]

end RenderCatalog.Path
