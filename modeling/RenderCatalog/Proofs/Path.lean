import Mathlib
import RenderCatalog.Disk.Basic

/-!
# Paths below a directory

A name below a directory adds one piece to the pieces of the path, and changes neither where the path starts nor what is read
from its end. So paths of different names are different, and a walk of such a path is a walk to the directory with one name
more.
-/

namespace RenderCatalog

/-! ## Pieces -/

/-- A text has at least one piece. -/
theorem Text.pieces_ne_nil (p : Char → Bool) (cs : List Char) : Text.pieces p cs ≠ [] := by
  cases cs with
  | nil => nofun
  | cons c rest =>
    rw [Text.pieces]
    split
    · nofun
    · split <;> nofun

/-- The pieces on both sides of a separator are those of the sides. -/
theorem Text.pieces_append {p : Char → Bool} {c : Char} (hc : p c = true) (a b : List Char) :
    Text.pieces p (a ++ c :: b) = Text.pieces p a ++ Text.pieces p b := by
  induction a with
  | nil => simp [Text.pieces, hc]
  | cons x rest ih =>
    rw [List.cons_append, Text.pieces, Text.pieces, ih]
    by_cases hx : p x = true
    · rw [if_pos hx, if_pos hx, List.cons_append]
    · rw [if_neg hx, if_neg hx]
      obtain ⟨w, ws, hw⟩ := List.exists_cons_of_ne_nil (Text.pieces_ne_nil p rest)
      rw [hw]
      rfl

/-- A text without separators is one piece. -/
theorem Text.pieces_of_forall {p : Char → Bool} {a : List Char} (h : ∀ c ∈ a, p c = false) : Text.pieces p a = [a] := by
  induction a with
  | nil => rfl
  | cons x rest ih =>
    rw [List.forall_mem_cons] at h
    rw [Text.pieces, h.1, ih h.2]
    rfl

/-- No piece holds a separator. -/
theorem Text.of_mem_pieces {p : Char → Bool} {cs w : List Char} (h : w ∈ Text.pieces p cs) : ∀ c ∈ w, p c = false := by
  induction cs generalizing w with
  | nil =>
    rw [Text.pieces, List.mem_singleton] at h
    simp [h]
  | cons x rest ih =>
    rw [Text.pieces] at h
    split at h
    · rcases List.mem_cons.1 h with rfl | h
      · nofun
      · exact ih h
    · rename_i hx
      split at h
      · obtain rfl := List.mem_singleton.1 h
        simpa using hx
      · rename_i v vs hv
        rw [hv] at ih
        rcases List.mem_cons.1 h with rfl | h
        · exact List.forall_mem_cons.2 ⟨by simpa using hx, ih List.mem_cons_self⟩
        · exact ih (List.mem_cons_of_mem _ h)

/-- The pieces of a text consist of its characters. -/
theorem Text.mem_of_mem_pieces {p : Char → Bool} {cs w : List Char} (h : w ∈ Text.pieces p cs) {c : Char} (hc : c ∈ w) :
    c ∈ cs := by
  induction cs generalizing w with
  | nil =>
    rw [Text.pieces, List.mem_singleton] at h
    rw [h] at hc
    exact hc
  | cons x rest ih =>
    rw [Text.pieces] at h
    split at h
    · rcases List.mem_cons.1 h with rfl | h
      · cases hc
      · exact List.mem_cons_of_mem _ (ih h hc)
    · split at h
      · rw [List.mem_singleton.1 h, List.mem_singleton] at hc
        rw [hc]
        exact List.mem_cons_self
      · rename_i v vs hv
        rw [hv] at ih
        rcases List.mem_cons.1 h with rfl | h
        · rcases List.mem_cons.1 hc with rfl | hc
          · exact List.mem_cons_self
          · exact List.mem_cons_of_mem _ (ih List.mem_cons_self hc)
        · exact List.mem_cons_of_mem _ (ih (List.mem_cons_of_mem _ h) hc)

/-- Words behind the first one have the separator in front. -/
theorem Text.joinWith_cons (sep : Char) (word : List Char) (words : List (List Char)) :
    Text.joinWith [sep] (word :: words) = word ++ words.flatMap (sep :: ·) := by
  induction words generalizing word with
  | nil => simp [Text.joinWith]
  | cons next words ih =>
    rw [Text.joinWith, ih, List.flatMap_cons, List.append_assoc]
    · rfl
    · nofun

/-- Texts without a separator are the pieces of what they are joined to by it. -/
theorem Text.pieces_joinWith {sep : Char} {first : List Char} {more : List (List Char)} (h : ∀ word ∈ first :: more, sep ∉ word) :
    Text.pieces (· == sep) (Text.joinWith [sep] (first :: more)) = first :: more := by
  rw [Text.joinWith_cons]
  induction more generalizing first with
  | nil =>
    rw [List.flatMap_nil, List.append_nil]
    exact Text.pieces_of_forall fun c hc => beq_eq_false_iff_ne.2 fun heq => h first List.mem_cons_self (heq ▸ hc)
  | cons next more ih =>
    obtain ⟨hfirst, hmore⟩ := List.forall_mem_cons.1 h
    have hone : Text.pieces (· == sep) first = [first] :=
      Text.pieces_of_forall fun c hc => beq_eq_false_iff_ne.2 fun heq => hfirst (heq ▸ hc)
    rw [List.flatMap_cons, List.cons_append, Text.pieces_append (by simp), hone, ih hmore]
    rfl

/-- A needle that is longer than a text does not occur in it. -/
theorem Text.afterLast?_of_length_lt {needle text : List Char} (h : text.length < needle.length) :
    Text.afterLast? needle text = none := by
  induction text with
  | nil =>
    have hne : needle ≠ [] := List.ne_nil_of_length_pos h
    rw [Text.afterLast?, if_neg (by simpa using hne)]
  | cons c rest ih =>
    have hprefix : needle.isPrefixOf (c :: rest) = false := by
      rw [← Bool.not_eq_true, List.isPrefixOf_iff_prefix]
      intro hp
      exact absurd hp.length_le (not_le.2 h)
    rw [Text.afterLast?, ih (Nat.lt_of_succ_lt h), hprefix]
    rfl

/-- Nothing follows a needle that a text ends with. -/
theorem Text.afterLast?_append_self {needle : List Char} (h : needle ≠ []) (before : List Char) :
    Text.afterLast? needle (before ++ needle) = some [] := by
  induction before with
  | nil =>
    obtain ⟨c, rest, rfl⟩ := List.exists_cons_of_ne_nil h
    rw [List.nil_append, Text.afterLast?, Text.afterLast?_of_length_lt (Nat.lt_succ_self _)]
    simp
  | cons c rest ih =>
    rw [List.cons_append, Text.afterLast?, ih]

namespace Path

/-- A text that is one name of a path: not empty, without a slash, and not one of the two names that go nowhere new. -/
structure IsName (name : String) : Prop where
  nonempty : name.toList ≠ []
  no_slash : '/' ∉ name.toList
  not_dot : name.toList ≠ ['.']
  not_dots : name.toList ≠ ['.', '.']

/-- The pieces on both sides of a slash are those of the sides. -/
theorem pieces_append (a b : List Char) : pieces (a ++ '/' :: b) = pieces a ++ pieces b := by
  rw [pieces, Text.pieces_append rfl, List.filter_append]
  rfl

/-- A name is one piece. -/
theorem pieces_name {name : List Char} (hne : name ≠ []) (hslash : '/' ∉ name) : pieces name = [name] := by
  have hone : Text.pieces (· == '/') name = [name] := Text.pieces_of_forall fun c hc => by
    simp only [beq_eq_false_iff_ne]
    rintro rfl
    exact hslash hc
  rw [pieces, hone]
  simpa using hne

/-- A piece is not empty, and holds no slash. -/
theorem of_mem_pieces {path piece : List Char} (h : piece ∈ pieces path) : piece ≠ [] ∧ '/' ∉ piece := by
  obtain ⟨hpiece, hne⟩ := List.mem_filter.1 h
  refine ⟨by simpa using hne, fun hslash => ?_⟩
  have := Text.of_mem_pieces hpiece '/' hslash
  simp at this

/-- A text that does not start with a slash starts with a piece. -/
theorem pieces_cons_ne_nil {c : Char} (hc : c ≠ '/') (rest : List Char) : pieces (c :: rest) ≠ [] := by
  obtain ⟨w, ws, hrest⟩ := List.exists_cons_of_ne_nil (Text.pieces_ne_nil (· == '/') rest)
  have hpieces : Text.pieces (· == '/') (c :: rest) = (c :: w) :: ws := by
    rw [Text.pieces, if_neg (by simpa using hc), hrest]
  rw [pieces, hpieces, List.filter_cons_of_pos rfl]
  nofun

/-- Only the empty path has no parts. -/
theorem parts_ne_nil {path : String} (h : path ≠ "") : parts path ≠ [] := by
  rw [parts]
  split
  · nofun
  · rename_i hrelative
    obtain ⟨c, rest, hpath⟩ := List.exists_cons_of_ne_nil (mt String.toList_eq_nil_iff.1 h)
    have hc : c ≠ '/' := by
      rintro rfl
      exact hrelative (by rw [isAbsolute, hpath]; rfl)
    obtain ⟨piece, more, hpieces⟩ := List.exists_cons_of_ne_nil (pieces_cons_ne_nil hc rest)
    rw [hpath, hpieces, List.map_cons]
    split
    · nofun
    · rename_i hhere
      rw [List.filter_cons_of_pos]
      · nofun
      · rw [bne_iff_ne]
        intro heq
        exact hhere _ (by rw [heq])

/-! ## A name below a directory -/

/-- What stands before a name in the path of what lies below a directory. -/
def front (directory : String) : List Char :=
  if directory.isEmpty then []
  else if directory.toList.getLast? == some '/' then directory.toList
  else directory.toList ++ ['/']

/-- It consists of the characters of the directory, and slashes. -/
theorem mem_of_mem_front {directory : String} {c : Char} (h : c ∈ front directory) (hc : c ≠ '/') : c ∈ directory.toList := by
  rw [front] at h
  split at h
  · cases h
  · split at h
    · exact h
    · exact (List.mem_append.1 h).resolve_right fun hmem => hc (List.mem_singleton.1 hmem)

variable {directory name : String}

/-- A text without a slash is not absolute. -/
theorem isAbsolute_eq_false (h : '/' ∉ name.toList) : isAbsolute name = false := by
  rw [isAbsolute, beq_eq_false_iff_ne]
  intro hhead
  exact h (List.mem_of_mem_head? hhead)

/-- A name is put behind its directory, with a slash between where there is none. -/
theorem toList_join (hslash : '/' ∉ name.toList) : (join directory name).toList = front directory ++ name.toList := by
  rw [join, front, isAbsolute_eq_false hslash, Bool.false_or]
  split
  · rfl
  · split
    · rw [String.toList_append]
    · rw [String.toList_append, String.toList_append]
      rfl

theorem join_eq (hslash : '/' ∉ name.toList) : join directory name = String.ofList (front directory) ++ name := by
  rw [← String.toList_inj, toList_join hslash, String.toList_append, String.toList_ofList]

/-- What stands before a name has the pieces of the directory, and leaves nothing behind the last slash. -/
theorem pieces_front_append (directory : String) (rest : List Char) :
    pieces (front directory ++ rest) = pieces directory.toList ++ pieces rest := by
  rw [front]
  split
  · rename_i hempty
    rw [String.isEmpty_iff.1 hempty]
    rfl
  · split
    · rename_i hlast
      obtain ⟨init, hinit⟩ := List.getLast?_eq_some_iff.1 (beq_iff_eq.1 hlast)
      rw [hinit, List.append_assoc, List.singleton_append, pieces_append, pieces_append]
      simp [pieces, Text.pieces]
    · rw [List.append_assoc, List.singleton_append, pieces_append]

/-- A name below a directory is one piece more. -/
theorem pieces_join (hne : name.toList ≠ []) (hslash : '/' ∉ name.toList) :
    pieces (join directory name).toList = pieces directory.toList ++ [name.toList] := by
  rw [toList_join hslash, pieces_front_append, pieces_name hne hslash]

/-- What lies below a directory is absolute when the directory is. -/
theorem isAbsolute_join (hslash : '/' ∉ name.toList) : isAbsolute (join directory name) = isAbsolute directory := by
  have hname := isAbsolute_eq_false hslash
  rw [isAbsolute, isAbsolute, toList_join hslash, front]
  split
  · rename_i hempty
    rw [String.isEmpty_iff.1 hempty]
    exact hname
  · rename_i hempty
    have hdir : directory.toList ≠ [] := by simpa using hempty
    split
    · rw [List.head?_append_of_ne_nil _ hdir]
    · rw [List.append_assoc, List.head?_append_of_ne_nil _ hdir]

/-! ## The last name of a path -/

/-- The last part of a path is that of its last piece, when that is a name. -/
theorem parts_getLast? {path : String} {init : List (List Char)} {last : List Char}
    (h : pieces path.toList = init ++ [last]) (hlast : Part.ofPiece last = .name last) :
    (parts path).getLast? = some (.name last) := by
  have hkept : ((init.map Part.ofPiece ++ [Part.name last]).filter (· != .here)).getLast? = some (.name last) := by
    rw [List.filter_append, List.filter_cons_of_pos rfl, List.filter_nil, List.getLast?_concat]
  rw [parts, h, List.map_append, List.map_singleton, hlast]
  split
  · rw [List.getLast?_cons, hkept]
    rfl
  · split
    · rename_i rest hrest
      cases init with
      | nil => cases hrest
      | cons first more =>
        obtain ⟨-, hmore⟩ := List.cons.inj hrest
        rw [← hmore, List.getLast?_cons, List.append_eq, List.filter_append, List.filter_cons_of_pos rfl, List.filter_nil, List.getLast?_concat]
        rfl
    · exact hkept

/-- A name is a part by itself. -/
theorem ofPiece_of_isName (h : IsName name) : Part.ofPiece name.toList = .name name.toList := by
  rw [Part.ofPiece, if_neg h.not_dot, if_neg h.not_dots]

/-- A name below a directory is the file name of its path. -/
theorem fileName?_join (h : IsName name) : fileName? (join directory name) = some name.toList := by
  rw [fileName?, parts_getLast? (pieces_join h.nonempty h.no_slash) (ofPiece_of_isName h)]

/-- A name among the parts of a path is one of its pieces. -/
theorem mem_pieces_of_mem_parts {path : String} {s : List Char} (h : Part.name s ∈ parts path) : s ∈ pieces path.toList := by
  have hall : Part.name s ∈ (pieces path.toList).map Part.ofPiece := by
    rw [parts] at h
    split at h
    · exact (List.mem_filter.1 (List.mem_of_ne_of_mem (by nofun) h)).1
    · split at h
      · rename_i rest hrest
        rw [hrest]
        exact List.mem_cons_of_mem _ (List.mem_filter.1 (List.mem_of_ne_of_mem (by nofun) h)).1
      · exact (List.mem_filter.1 h).1
  obtain ⟨piece, hpiece, heq⟩ := List.mem_map.1 hall
  rw [Part.ofPiece] at heq
  split at heq
  · cases heq
  · split at heq
    · cases heq
    · cases heq
      exact hpiece

/-- A file name is one piece of its path. -/
theorem mem_pieces_of_fileName? {path : String} {s : List Char} (h : fileName? path = some s) : s ∈ pieces path.toList := by
  rw [fileName?] at h
  split at h
  · rename_i s' hlast
    cases h
    exact mem_pieces_of_mem_parts (List.mem_of_getLast? hlast)
  · cases h

/-- A name with another extension in place of the one it has. -/
def renamed (name extension : List Char) : List Char :=
  (if (splitAtPoint name).2.isSome then (splitAtPoint name).1 else name) ++ '.' :: extension

/-- Another extension changes the last name of a path and nothing before it. -/
theorem toList_withExtension_join (directory : String) (h : IsName name) (extension : String) :
    (withExtension (join directory name) extension).toList = front directory ++ renamed name.toList extension.toList := by
  rw [withExtension, fileName?_join h, toList_join h.no_slash]
  simp only [Text.afterLast?_append_self h.nonempty]
  have hlength : (join directory name).length = (front directory).length + name.toList.length := by
    rw [← String.length_toList, toList_join h.no_slash, List.length_append]
  rw [hlength, String.toList_ofList, List.length_nil, Nat.sub_zero, Nat.add_sub_cancel, List.take_left, renamed,
    List.append_assoc]

/-- A name is what it is below no directory. -/
theorem toList_withExtension (h : IsName name) (extension : String) :
    (withExtension name extension).toList = renamed name.toList extension.toList := by
  have hname : join "" name = name := by
    rw [join_eq h.no_slash]
    rfl
  have hfront := toList_withExtension_join "" h extension
  rwa [hname] at hfront

/-- A name that is cut at a point starts with what is before the point. -/
theorem prefix_splitAtPoint (name : List Char) : (splitAtPoint name).1 <+: name := by
  rw [splitAtPoint]
  split
  · exact List.prefix_rfl
  · split
    · exact List.prefix_rfl
    · simp only
      split
      · exact List.prefix_rfl
      · exact List.take_prefix _ _

/-- A name with another extension is a front of the name, a point and the extension. -/
theorem renamed_eq (name extension : List Char) :
    ∃ stem, stem <+: name ∧ renamed name extension = stem ++ '.' :: extension := by
  rw [renamed]
  split
  · exact ⟨_, prefix_splitAtPoint name, rfl⟩
  · exact ⟨name, List.prefix_rfl, rfl⟩

/-- A stem holds no slash. -/
theorem no_slash_of_stem? {path stem : String} (h : stem? path = some stem) : '/' ∉ stem.toList := by
  obtain ⟨s, hs, rfl⟩ := Option.map_eq_some_iff.1 h
  rw [String.toList_ofList]
  exact fun hmem => (of_mem_pieces (mem_pieces_of_fileName? hs)).2 ((prefix_splitAtPoint s).subset hmem)

/-- The stem of a path with an extension holds no slash. -/
theorem no_slash_stem {path : String} (h : (extension? path).isSome) : '/' ∉ (stem path).toList := by
  rw [extension?, Option.isSome_bind] at h
  obtain ⟨s, hs, -⟩ := (Option.any_eq_true _ _).1 h
  have hstem : stem? path = some (String.ofList (splitAtPoint s).1) := by rw [stem?, hs, Option.map_some]
  rw [stem, hstem, Option.getD_some]
  exact no_slash_of_stem? hstem

/-- A text without slashes is a name when it is long enough. -/
theorem isName_of_length (hslash : '/' ∉ name.toList) (hlength : 3 ≤ name.toList.length) : IsName name := by
  refine ⟨List.ne_nil_of_length_pos (by omega), hslash, ?_, ?_⟩
  · intro hdot
    rw [hdot] at hlength
    simp at hlength
  · intro hdots
    rw [hdots] at hlength
    simp at hlength

/-- A name with another extension is a name. -/
theorem isName_withExtension (h : IsName name) {extension : String} (hlength : 2 ≤ extension.toList.length)
    (hslash : '/' ∉ extension.toList) : IsName (withExtension name extension) := by
  obtain ⟨stem, hstem, hrenamed⟩ := renamed_eq name.toList extension.toList
  have heq : (withExtension name extension).toList = stem ++ '.' :: extension.toList :=
    (toList_withExtension h extension).trans hrenamed
  refine isName_of_length ?_ ?_
  · rw [heq, List.mem_append, List.mem_cons]
    rintro (hmem | hmem | hmem)
    · exact h.no_slash (hstem.subset hmem)
    · cases hmem
    · exact hslash hmem
  · rw [heq, List.length_append, List.length_cons]
    omega

/-- Another extension can be given before a name is put below a directory. -/
theorem withExtension_join (h : IsName name) {extension : String} (hlength : 2 ≤ extension.toList.length)
    (hslash : '/' ∉ extension.toList) :
    withExtension (join directory name) extension = join directory (withExtension name extension) := by
  have hname := isName_withExtension h hlength hslash
  rw [← String.toList_inj, toList_join hname.no_slash, toList_withExtension_join directory h, toList_withExtension h]

end Path

/-- The names of a path below a directory. -/
theorem Disk.names_join {directory name : String} (hne : name.toList ≠ []) (hslash : '/' ∉ name.toList) :
    Disk.names (Path.join directory name) = Path.pieces directory.toList ++ [name.toList] := by
  rw [Disk.names, Path.pieces_join hne hslash, if_neg]
  rw [Path.toList_join hslash, List.getLast?_append_of_ne_nil _ hne, beq_iff_eq]
  intro hlast
  exact hslash (List.mem_of_getLast? hlast)

end RenderCatalog
